import TaggedStory.Proofs.Tag.Brackets
import TaggedStory.Proofs.Text.Occurrence
import TaggedStory.Proofs.Text.Thinning
/-!
What is left of a text when its tags are removed. Nothing in a clean text looks like a tag of any
family, and words in brackets that follow it are the first of their kind.
-/
set_option autoImplicit false

namespace TaggedStory.Text

theorem trim_gap (text gap : List Char) (blank : ∀ c ∈ gap, isBlank c = true) : trim (text ++ gap) = trim text := by
  by_cases empty : text.dropWhile isBlank = []
  · have each : ∀ c ∈ text, isBlank c = true := List.dropWhile_eq_nil_iff.mp empty
    have none := (trim_empty text).mpr each
    rw [none, trim_empty]
    exact fun c member => (List.mem_append.mp member).elim (each c) (blank c)
  · have left : trimLeft (text ++ gap) = trimLeft text ++ gap := by
      rw [trimLeft, List.dropWhile_append, if_neg (by simpa using empty)]
      rfl
    have back : ∀ c ∈ gap.reverse, isBlank c = true := fun c member => blank c (List.mem_reverse.mp member)
    rw [trim, left, trimRight, List.reverse_append, List.dropWhile_append_of_pos back]
    rfl

theorem remove_first_cut (word text : List Char) : removeFirst word text = text ∨
    ∃ before after, text = before ++ (word ++ after) ∧ removeFirst word text = before ++ after := by
  induction text with
  | nil => exact .inl rfl
  | cons c text ih =>
      rw [removeFirst]
      cases dropped : dropWord? word (c :: text) with
      | some rest => exact .inr ⟨[], rest, (drop_word_some word _ rest).mp dropped, rfl⟩
      | none =>
          rcases ih with same | ⟨before, after, shape, left⟩
          · exact .inl (congrArg (List.cons c) same)
          · exact .inr ⟨c :: before, after, congrArg (List.cons c) shape, congrArg (List.cons c) left⟩

theorem remove_first_thinned {starts : Char → Prop} (word text : List Char) (start : ∀ c ∈ word.head?, starts c) :
    Thinned starts text (removeFirst word text) := by
  rcases remove_first_cut word text with same | ⟨before, after, shape, left⟩
  · rw [same]
    exact thinned_same text
  · rw [left, shape]
    cases word with
    | nil => exact thinned_same _
    | cons sign token => exact .cut before after token sign (start sign rfl)

namespace Scanner

open Tag

variable {α : Type}

theorem erase_from_drop (s : Scanner α) (skip : Nat) (text : List Char) : eraseFrom s skip text = erase s (text.drop skip) := by
  induction text generalizing skip with
  | nil =>
      rw [List.drop_nil]
      cases skip <;> rfl
  | cons c text ih =>
      cases skip with
      | zero => rfl
      | succ skip => exact ih skip

theorem erase_kept (s : Scanner α) (c : Char) (text : List Char) (absent : here? s (c :: text) = none) :
    erase s (c :: text) = c :: erase s text := by
  rw [erase, eraseFrom, absent]
  rfl

theorem erase_found (s : Scanner α) (c : Char) (text : List Char) (found : Found α)
    (present : here? s (c :: text) = some found) :
    erase s (c :: text) = erase s (text.drop (found.token.length - 1)) := by
  rw [erase, eraseFrom, present]
  exact erase_from_drop s _ text

theorem erase_thinned (starts : Char → Prop) (s : Scanner α) (sign : Char) (opens : Opens s sign) (start : starts sign)
    (before text : List Char) : Thinned starts (before ++ text) (before ++ erase s text) := by
  induction size : text.length using Nat.strong_induction_on generalizing before text with
  | _ n ih =>
      cases text with
      | nil => exact thinned_same _
      | cons c text =>
          cases here : here? s (c :: text) with
          | none =>
              have kept := ih text.length (by rw [← size]; exact Nat.lt_succ_self _) (before ++ [c]) text rfl
              rw [erase_kept s c text here]
              simpa using kept
          | some found =>
              have opened : c = sign := by
                by_contra other
                rw [here?, opens c text other] at here
                cases here
              have rest := ih (text.drop (found.token.length - 1)).length
                (by rw [← size, List.length_drop, List.length_cons]; omega) before _ rfl
              have cut := Thinned.cut before (text.drop (found.token.length - 1)) (text.take (found.token.length - 1)) c
                (opened ▸ start)
              rw [List.take_append_drop] at cut
              rw [erase_found s c text found here]
              exact .chain _ _ _ cut rest

theorem erase_sublist (s : Scanner α) (sign : Char) (opens : Opens s sign) (text : List Char) :
    (erase s text).Sublist text :=
  thinned_sublist _ _ (erase_thinned (sign = ·) s sign opens rfl [] text)

section Spanless

variable (opening closing : Char)

theorem spanless_part (text rest : List Char) (spanless : Spanless opening closing text) (inside : rest <:+: text) :
    Spanless opening closing rest :=
  fun body nonempty absent stands => spanless body nonempty absent (stands.trans inside)

theorem spanless_nil : Spanless opening closing [] := by
  intro body _ _ stands
  cases List.infix_nil.mp stands

theorem spanless_append (text rest : List Char) (spanless : Spanless opening closing text) (absent : closing ∉ rest) :
    Spanless opening closing (text ++ rest) := by
  intro body nonempty lacks stands
  have ends : closing ∈ enclosed opening closing body := by simp [enclosed]
  rcases List.infix_append_iff.mp stands with inside | outside | ⟨left, right, split, atEnd, atStart⟩
  · exact spanless body nonempty lacks inside
  · exact absent (outside.subset ends)
  · rcases List.eq_nil_or_concat right with rfl | ⟨inner, last, same⟩
    · rw [List.append_nil] at split
      exact spanless body nonempty lacks (split ▸ atEnd.isInfix)
    · rw [List.concat_eq_append] at same
      rw [enclosed, same, ← List.append_assoc, ← List.cons_append] at split
      obtain ⟨_, single⟩ := List.append_inj' split rfl
      obtain rfl := (List.cons.inj single).1
      exact absent (atStart.subset (by simp [same]))

theorem span_encloses : Encloses (span opening closing) opening closing (· ≠ []) := by
  intro text rest value done
  rw [span] at done
  obtain ⟨_, first, done⟩ := char_then done
  rw [upTo] at done
  obtain ⟨body, _, shape, filled, accepted, done⟩ := many1_then done
  obtain ⟨_, third, done⟩ := char_then done
  rw [pure_succeeds] at done
  refine ⟨body, by rw [first, shape, third, done.2], fun member => ?_, filled⟩
  simpa using accepted closing member

theorem spanless_misses (s : Scanner α) (inner : List Char → Prop) (encloses : Encloses s opening closing inner)
    (filled : ∀ body, inner body → body ≠ []) (text : List Char) (spanless : Spanless opening closing text) :
    Misses s text [] := by
  induction text with
  | nil => trivial
  | cons c text ih =>
      refine ⟨?_, ih (spanless_part opening closing _ _ spanless (List.suffix_cons c text).isInfix)⟩
      cases done : StateT.run s (c :: (text ++ [])) with
      | none => rfl
      | some pair =>
          obtain ⟨value, rest⟩ := pair
          obtain ⟨body, shape, absent, isInner⟩ := encloses _ rest value done
          rw [List.append_nil] at shape
          refine absurd ?_ (spanless body (filled body isInner) absent)
          exact ⟨[], rest, by rw [shape]; simp [enclosed]⟩

theorem erase_spanless (different : opening ≠ closing) (text : List Char) :
    Spanless opening closing (erase (span opening closing) text) := by
  induction size : text.length using Nat.strong_induction_on generalizing text with
  | _ n ih =>
      cases text with
      | nil => exact spanless_nil opening closing
      | cons c text =>
          cases here : here? (span opening closing) (c :: text) with
          | some found =>
              rw [erase_found _ c text found here]
              exact ih _ (by rw [← size, List.length_drop, List.length_cons]; omega) _ rfl
          | none =>
              rw [erase_kept _ c text here]
              intro body nonempty absent stands
              rcases List.infix_cons_iff.mp stands with ⟨after, starts⟩ | inside
              · rw [enclosed, List.cons_append, List.append_assoc, List.cons.injEq] at starts
                obtain ⟨rfl, starts⟩ := starts
                have stays : closing ∈ text := (erase_sublist _ opening (opens_span opening closing) text).subset (by
                  rw [← starts]
                  simp)
                obtain ⟨near, far, shape, first⟩ := List.eq_append_cons_of_mem stays
                cases near with
                | nil =>
                    -- The closing sign stands next to the opening one, and stays there.
                    have refused : here? (span opening closing) (closing :: far) = none :=
                      here_none _ _ (opens_span opening closing closing far (Ne.symm different))
                    rw [shape, List.nil_append, erase_kept _ closing far refused] at starts
                    cases body with
                    | nil => exact nonempty rfl
                    | cons d body =>
                        rw [List.cons_append, List.cons.injEq] at starts
                        exact absent (starts.1 ▸ List.mem_cons_self)
                | cons d near =>
                    have reads := reads_span opening closing (d :: near) (List.cons_ne_nil d near) first far
                    rw [here?, shape] at here
                    rw [List.cons_append, List.append_assoc, List.singleton_append] at reads
                    rw [reads] at here
                    cases here
              · exact ih text.length (by rw [← size]; exact Nat.lt_succ_self _) text rfl body nonempty absent inside

end Spanless

end Scanner

end TaggedStory.Text

namespace TaggedStory.Tag

open Text Scanner

def families : List (Char × Char) :=
  [('[', ']'), ('《', '》'), ('<', '>'), ('\x7b', '\x7d')]

-- No tag of any family, and no blanks at the ends.
structure Clean (text : List Char) : Prop where
  spanless : ∀ family ∈ families, Spanless family.1 family.2 text
  tight : Tight text

theorem span_thinned (opening closing : Char) (start : isOpening opening = true) (text : List Char) :
    Thinned (isOpening · = true) text ((span opening closing).erase text) :=
  erase_thinned _ _ opening (opens_span opening closing) start [] text

theorem clean_is_clean (text : List Char) : Clean (clean text) := by
  have ends : Thinned (isOpening · = true) (brace.erase (angle.erase (guillemet.erase (bracket.erase text)))) (clean text) :=
    .part _ _ (trim_inside _)
  have angles := (span_thinned '\x7b' '\x7d' (by decide) (angle.erase (guillemet.erase (bracket.erase text)))).chain _ _ _ ends
  have guillemets := (span_thinned '<' '>' (by decide) (guillemet.erase (bracket.erase text))).chain _ _ _ angles
  have brackets := (span_thinned '《' '》' (by decide) (bracket.erase text)).chain _ _ _ guillemets
  refine ⟨?_, trim_tightens _⟩
  simp only [families, List.forall_mem_cons]
  exact ⟨spanless_thinned '[' ']' (by decide) _ _ brackets (erase_spanless '[' ']' (by decide) _),
    spanless_thinned '《' '》' (by decide) _ _ guillemets (erase_spanless '《' '》' (by decide) _),
    spanless_thinned '<' '>' (by decide) _ _ angles (erase_spanless '<' '>' (by decide) _),
    spanless_thinned '\x7b' '\x7d' (by decide) _ _ ends (erase_spanless '\x7b' '\x7d' (by decide) _),
    List.forall_mem_nil _⟩

theorem ad_filled : Encloses ad '《' '》' (· ≠ []) := by
  intro text rest value done
  obtain ⟨body, shape, absent, _⟩ := ad_encloses text rest value done
  refine ⟨body, shape, absent, ?_⟩
  rintro rfl
  rw [shape, ad, bind_succeeds] at done
  obtain ⟨_, after, first, _⟩ := done
  rw [word_succeeds] at first
  have second := (List.cons.inj (show '《' :: '》' :: rest = '《' :: 'A' :: 'D' :: after from first)).2
  exact absurd (List.cons.inj second).1 (by decide)

-- A word in brackets, with no bracket inside.
def IsMark (mark : String) : Prop :=
  mark.toList = enclosed '[' ']' mark.toList.tail.dropLast ∧ mark.toList.tail.dropLast ≠ [] ∧
    ∀ c ∈ mark.toList.tail.dropLast, c ≠ '[' ∧ c ≠ ']'

instance (mark : String) : Decidable (IsMark mark) := by
  unfold IsMark
  infer_instance

theorem is_mark_opens (mark : String) (bracketed : IsMark mark) : mark.toList.head? = some '[' := by
  rw [bracketed.1]
  rfl

section Clean

variable {text : List Char} (cleanText : Clean text)

include cleanText

theorem Clean.misses {α : Type} (s : Scanner α) (family : Char × Char) (known : family ∈ families)
    (inner : List Char → Prop) (encloses : Encloses s family.1 family.2 inner) (filled : ∀ body, inner body → body ≠ []) :
    s.Misses text [] :=
  spanless_misses family.1 family.2 s inner encloses filled text (cleanText.spanless family known)

theorem Clean.mark_misses (mark : String) (bracketed : IsMark mark) (rest : List Char)
    (opened : ∀ c ∈ rest.head?, c = '[') : (word mark).Misses text rest := by
  obtain ⟨shape, filled, inner⟩ := bracketed
  have absent : ']' ∉ mark.toList.tail.dropLast := fun member => (inner _ member).2 rfl
  refine misses_word mark text rest (fun inside => ?_) fun c head member => ?_
  · rw [shape] at inside
    exact cleanText.spanless ('[', ']') (by decide) _ filled absent inside
  · rw [opened c head, shape, enclosed, List.tail_cons, List.mem_append, List.mem_singleton] at member
    rcases member with member | same
    · exact (inner _ member).1 rfl
    · exact absurd same (by decide)

theorem Clean.unchanged : clean text = text := by
  have erased : ∀ family ∈ families, (span family.1 family.2).erase text = text := fun family known =>
    erase_none _ text (cleanText.misses _ family known _ (span_encloses family.1 family.2) fun _ filled => filled)
  have brackets : bracket.erase text = text := erased ('[', ']') (by decide)
  have guillemets : guillemet.erase text = text := erased ('《', '》') (by decide)
  have angles : angle.erase text = text := erased ('<', '>') (by decide)
  have braces : brace.erase text = text := erased ('\x7b', '\x7d') (by decide)
  rw [clean, brackets, guillemets, angles, braces, trim_tight text cleanText.tight]

end Clean

theorem clean_sublist (text : List Char) : (clean text).Sublist text := by
  have erased : ∀ opening closing part, ((span opening closing).erase part).Sublist part :=
    fun opening closing part => erase_sublist _ opening (opens_span opening closing) part
  refine (trim_inside _).sublist.trans ?_
  exact (erased '\x7b' '\x7d' _).trans ((erased '<' '>' _).trans ((erased '《' '》' _).trans (erased '[' ']' text)))

theorem clean_clean (text : List Char) : clean (clean text) = clean text :=
  (clean_is_clean text).unchanged

end TaggedStory.Tag
