import TaggedStory.Proofs.Tag.Effects
/-!
Marks of rich text, and the tags of effects whose variable is named like one. Such a mark is known by the first letters of
its name, in either case, and the rule of effects looks past it.
-/
set_option autoImplicit false

namespace TaggedStory.Tag

open Text Scanner Decimal

section Letters

theorem raised_again (c : Char) : c.toLower = c ∨ c.toLower.toUpper = c := by
  have ascii : ∀ n < 128, (Char.ofNat n).toLower = Char.ofNat n ∨ (Char.ofNat n).toLower.toUpper = Char.ofNat n := by decide +kernel
  by_cases small : c.toNat < 128
  · rw [← Char.ofNat_toNat c]
    exact ascii c.toNat small
  · refine .inl (dif_neg fun upper => ?_)
    have bound : c.toNat ≤ 90 := UInt32.le_iff_toNat_le.mp upper.2
    omega

theorem is_letter_cased (expected c : Char) (same : c.toLower = expected) : isLetter expected c = true := by
  rcases raised_again c with lower | upper
  · rw [isLetter, ← same, lower]
    simp
  · rw [isLetter, ← same, upper]
    simp

theorem letters_read (word name : List Char) (same : lowerAscii name = word) : Reads (letters word) name () := by
  induction word generalizing name with
  | nil =>
      intro rest
      rw [List.map_eq_nil_iff.mp same]
      rfl
  | cons expected word ih =>
      obtain ⟨c, name, rfl, letter, others⟩ := List.map_eq_cons_iff.mp same
      intro rest
      refine (bind_succeeds _ _ _ _ _).mpr ⟨c, name ++ rest, ?_, ih name others rest⟩
      exact (one_succeeds _ _ _ _).mpr ⟨rfl, is_letter_cased expected c letter⟩

end Letters

-- A mark with the name of a word, up to the sign that closes it.
theorem open_mark_reads (word : String) (name tail : List Char) (same : lowerAscii name = word.toList)
    (opened : ∀ c ∈ name.head?, c ≠ '/') (filled : name ≠ []) (absent : '>' ∉ tail) :
    Reads (openMark word) ('<' :: (name ++ (tail ++ ['>']))) () := by
  intro rest
  have started : StateT.run markStart ('<' :: (name ++ (tail ++ '>' :: rest))) = some ((), name ++ (tail ++ '>' :: rest)) := by
    refine mark_start _ ?_
    rw [List.head?_append_of_ne_nil _ filled]
    exact opened
  have others : StateT.run (many (· ≠ '>')) (tail ++ '>' :: rest) = some (tail, '>' :: rest) :=
    run_many _ tail '>' rest (fun c member => decide_eq_true fun closing => absent (closing ▸ member)) (by simp)
  rw [openMark, List.cons_append, List.append_assoc, List.append_assoc, List.singleton_append, StateT.run_bind, started]
  change StateT.run (letters word.toList >>= fun _ => many (· ≠ '>') >>= fun _ => char '>') _ = _
  rw [StateT.run_bind, letters_read _ name same]
  change StateT.run (many (· ≠ '>') >>= fun _ => char '>') _ = _
  rw [StateT.run_bind, others]
  exact (char_succeeds '>' ('>' :: rest) rest ()).mpr rfl

def numberBody (name : List Char) (operation : Operation) (digits : List Char) : List Char :=
  name ++ ' ' :: operation.sign :: ' ' :: digits

-- An effect that changes a variable by a number.
def numberTag (name : List Char) (operation : Operation) (digits : List Char) : List Char :=
  '<' :: (numberBody name operation digits ++ ['>'])

section Numbers

variable (name digits : List Char) (operation : Operation) (identifier : isIdentifier name = true) (filled : digits ≠ [])
variable (digit : ∀ c ∈ digits, c.isDigit = true)

include digit in
theorem digits_inner : ∀ c ∈ digits, isInnerPart c = true := by
  intro c member
  rw [isInnerPart, digit c member, Bool.or_true]

include identifier filled digit

theorem number_effect_safe (other : ∀ word ∈ ["color", "size"], ¬ word.toList <+: lowerAscii name) :
    SafeEffect ⟨String.ofList name, operation, String.ofList digits, .normal⟩ := by
  have inner := digits_inner digits digit
  obtain ⟨tight, inline⟩ := inner_tight digits inner
  have lacks (c : Char) (outer : isInnerPart c = false) : c ∉ digits := by
    intro member
    rw [inner c member] at outer
    cases outer
  refine ⟨by simpa using identifier, by simpa using other, .inr ⟨by simpa using filled, ?_, by simpa using inline, ?_, ?_⟩, ?_, ?_⟩
  · simpa using trim_tight digits tight
  · simpa using fun c member => inner_part_unsigned c (inner c member)
  · simpa using fun c member => inner_part_half c (inner c member)
  · have signs : ∀ c ∈ ['=', '+', '-', '*', '/'], isInnerPart c = false := by decide
    intro c sign
    rw [String.toList_ofList]
    exact lacks c (signs c sign)
  · intro _ rate
    have unit : digits = ['s'] := by simpa using congrArg String.toList rate
    cases digit 's' (by rw [unit]; exact List.mem_cons_self)

omit identifier digit in
theorem number_piece : effectPiece ⟨String.ofList name, operation, String.ofList digits, .normal⟩ = numberTag name operation digits := by
  have something : String.ofList digits ≠ "" := by simpa using filled
  simp only [effectPiece, effectBody, effectLead, effectCore, effectTail, if_neg something, String.toList_ofList]
  rfl

theorem number_taken (other : ∀ word ∈ ["color", "size"], ¬ word.toList <+: lowerAscii name) :
    takeEffects (numberTag name operation digits) = ([], [⟨String.ofList name, operation, String.ofList digits, .normal⟩]) := by
  have safe := number_effect_safe name digits operation identifier filled digit other
  have taken := effects_front [_] [] (fun effect (found : List Effect) => found ++ [effect]) []
    (by simpa using safe) tight_nil (by simp) (by simp)
  rw [List.flatMap_cons, List.flatMap_nil, List.append_nil, List.append_nil, number_piece name digits operation filled] at taken
  rw [takeEffects, collect, taken]
  rfl

omit filled in
theorem number_body_calm : Calm (numberBody name operation digits) := by
  have symbol : isSign operation.sign = false ∧ isWide operation.sign = false := by cases operation <;> decide
  exact (inner_parts_calm name (identifier_inner name identifier)).append
    (.cons (by decide) (.cons symbol (.cons (by decide) (inner_parts_calm digits (digits_inner digits digit)))))

section Marks

omit filled

theorem number_missed (s : Scanner Unit) (opens : Opens s '<') (refused : StateT.run s (numberTag name operation digits) = none) :
    s.erase (numberTag name operation digits) = numberTag name operation digits := by
  refine s.erase_none _ ⟨by rwa [List.append_nil], s.misses_unopened '<' opens _ _ ?_⟩
  simpa using (number_body_calm name digits operation identifier digit).absent '<' (by decide)

theorem number_unquoted : guillemets.erase (numberTag name operation digits) = numberTag name operation digits := by
  refine guillemets.erase_none _ (guillemets.misses_unopened '《' opens_guillemets _ _ ?_)
  simpa [numberTag] using (number_body_calm name digits operation identifier digit).absent '《' (by decide)

theorem number_mark (word : String) (same : lowerAscii name = word.toList) :
    (openMark word).erase (numberTag name operation digits) = [] := by
  obtain ⟨c, more, shape, letter, _⟩ := identifier_head name identifier
  have opened : ∀ d ∈ name.head?, d ≠ '/' := by
    rw [shape]
    rintro d ⟨⟩ rfl
    exact absurd letter (by decide)
  have closed := (number_body_calm name digits operation identifier digit).absent '>' (by decide)
  rw [numberBody, List.mem_append, not_or] at closed
  have reads := open_mark_reads word name (' ' :: operation.sign :: ' ' :: digits) same opened (by simp [shape]) closed.2
  have erased := (openMark word).erase_reads _ () (List.cons_ne_nil _ _) reads []
  rw [List.append_nil, ← List.append_assoc] at erased
  exact erased

omit digit

theorem size_no_color (same : lowerAscii name = "size".toList) :
    StateT.run (openMark "color") (numberTag name operation digits) = none := by
  obtain ⟨c, more, shape, letter, _⟩ := identifier_head name identifier
  have other : ¬ "color".toList <+: lowerAscii name := by
    rw [same]
    decide
  have refused := letters_refused "color".toList name (operation.sign :: ' ' :: (digits ++ ['>'])) other (by decide)
    (identifier_inner name identifier)
  refine open_mark_refused "color" _ ?_ (by simpa [numberBody] using refused)
  rw [numberBody, shape]
  rintro d ⟨⟩ rfl
  exact absurd letter (by decide)

theorem size_no_plain (same : lowerAscii name = "size".toList) : StateT.run plainMark (numberTag name operation digits) = none := by
  obtain ⟨c, more, rfl, letter, _⟩ := identifier_head name identifier
  have longer := congrArg List.length same
  cases more with
  | nil => cases longer
  | cons d rest =>
      have inner := identifier_inner _ identifier d (by simp)
      refine plain_mark_refused c d _ ?_ ?_
      · rintro rfl
        exact absurd letter (by decide)
      · rintro rfl
        exact absurd inner (by decide)

end Marks

omit filled in
theorem number_hidden (marked : lowerAscii name ∈ ["color".toList, "size".toList]) : effectView (numberTag name operation digits) = [] := by
  have unquoted := number_unquoted name digits operation identifier digit
  have mark := number_mark name digits operation identifier digit
  simp only [List.mem_cons, List.not_mem_nil, or_false] at marked
  rcases marked with same | same
  · rw [effectView, unquoted, mark "color" same]
    rfl
  · have color := number_missed name digits operation identifier digit _ (opens_open_mark "color")
      (size_no_color name digits operation identifier same)
    have plain := number_missed name digits operation identifier digit _ opens_plain_mark
      (size_no_plain name digits operation identifier same)
    rw [effectView, unquoted, color, plain, mark "size" same]

end Numbers

-- The number of any variable is changed by its tag, unless the name begins like a mark of rich text. A name that is such a
-- mark in whole, in either case, makes a mark of the tag.
theorem number_by_name (name digits : List Char) (identifier : isIdentifier name = true) (filled : digits ≠ [])
    (digit : ∀ c ∈ digits, c.isDigit = true) :
    ((∀ word ∈ ["color", "size"], ¬ word.toList <+: lowerAscii name) → ∀ operation,
        takeEffects (numberTag name operation digits) = ([], [⟨String.ofList name, operation, String.ofList digits, .normal⟩])) ∧
      (lowerAscii name ∈ ["color".toList, "size".toList] →
        takeEffects (numberTag name .set digits) = (numberTag name .set digits, [])) := by
  refine ⟨fun other operation => number_taken name digits operation identifier filled digit other, fun marked => ?_⟩
  simp only [takeEffects, collect, effectRule, Rule.apply, number_hidden name digits .set identifier digit marked]
  rfl

theorem gold_by_name : takeEffects "<金币 + 10>".toList = ([], [⟨"金币", .add, "10", .normal⟩]) ∧
    takeEffects "<Size = 20>".toList = ("<Size = 20>".toList, []) :=
  ⟨(number_by_name "金币".toList "10".toList (by decide) (by decide) (by decide)).1 (by decide) .add,
    (number_by_name "Size".toList "20".toList (by decide) (by decide) (by decide)).2 (by decide)⟩

theorem size_by_name : ¬ ∀ name digits operation, isIdentifier name = true → digits ≠ [] → (∀ c ∈ digits, c.isDigit = true) →
    takeEffects (numberTag name operation digits) = ([], [⟨String.ofList name, operation, String.ofList digits, .normal⟩]) := by
  intro alike
  have size := alike "size".toList "20".toList .set (by decide) (by decide) (by decide)
  exact absurd size (by decide)

end TaggedStory.Tag
