import TaggedStory.Proofs.Tag.Cutting
/-!
Recognisers that read nothing but tags, and rules that are idle: in a clean text they find nothing to take.
-/
set_option autoImplicit false

namespace TaggedStory.Text.Scanner

open Tag

variable {α β : Type} {opening closing : Char}

theorem avoids_word {sign : Char} (expected : String) (absent : sign ∉ expected.toList) : Avoids sign (word expected) :=
  fun _ _ rest done => ⟨expected.toList, (word_succeeds expected _ rest _).mp done, absent⟩

-- What is read ends with the first closing sign.
def Closes (closing : Char) (s : Scanner α) : Prop :=
  ∀ text value rest, StateT.run s text = some (value, rest) → ∃ piece, text = piece ++ closing :: rest ∧ closing ∉ piece

section Closing

theorem closes_char : Closes closing (char closing) := by
  intro text value rest done
  exact ⟨[], (char_succeeds _ _ _ _).mp done, List.not_mem_nil⟩

theorem closes_behind {s : Scanner α} {next : α → Scanner β} (first : Avoids closing s)
    (second : ∀ value, Closes closing (next value)) : Closes closing (s >>= next) := by
  intro text result rest done
  obtain ⟨value, middle, before, after⟩ := (bind_succeeds _ _ _ _ _).mp done
  obtain ⟨piece, rfl, absent⟩ := first text value middle before
  obtain ⟨more, rfl, absentMore⟩ := second value middle result rest after
  exact ⟨piece ++ more, by rw [List.append_assoc], by simp [absent, absentMore]⟩

theorem closes_returning {s : Scanner α} {result : α → β} (closes : Closes closing s) :
    Closes closing (s >>= fun value => pure (result value)) := by
  intro text given rest done
  obtain ⟨value, middle, before, after⟩ := (bind_succeeds _ _ _ _ _).mp done
  obtain ⟨_, rfl⟩ := (pure_succeeds _ _ _ _).mp after
  exact closes text value middle before

theorem closes_up_to : Closes closing (upTo closing) :=
  closes_behind (avoids_many1 (by simp)) fun _ => closes_returning closes_char

-- A part that closes the tag itself, or else the sign alone.
theorem closes_optional {s : Scanner α} {next : Option α → Scanner β} (result : α → β) (closes : Closes closing s)
    (present : ∀ value, next (some value) = pure (result value)) (absent : Closes closing (next none)) :
    Closes closing (Scanner.optional s >>= next) := by
  intro text given rest done
  obtain ⟨found, middle, before, after⟩ := (bind_succeeds _ _ _ _ _).mp done
  rcases (optional_succeeds _ _ _ _).mp before with ⟨value, rfl, read⟩ | ⟨rfl, rfl, _⟩
  · rw [present] at after
    obtain ⟨_, rfl⟩ := (pure_succeeds _ _ _ _).mp after
    exact closes text value middle read
  · exact absent middle given rest after

end Closing

-- Whatever is read is a tag of one of the families.
def ReadsTags (s : Scanner α) : Prop :=
  ∃ family ∈ families, Encloses s family.1 family.2 (· ≠ [])

section Tags

variable {s t : Scanner α}

theorem closes_encloses (different : opening ≠ closing) (opens : Opens s opening) (closes : Closes closing s)
    (empty : Refuses s [opening, closing]) : Encloses s opening closing (· ≠ []) := by
  intro text rest value done
  obtain ⟨piece, rfl, absent⟩ := closes text value rest done
  cases piece with
  | nil =>
      rw [List.nil_append, opens closing rest (Ne.symm different)] at done
      cases done
  | cons c body =>
      by_cases first : c = opening
      · subst first
        refine ⟨body, rfl, fun member => absent (List.mem_cons_of_mem c member), ?_⟩
        rintro rfl
        rw [show [c] ++ closing :: rest = [c, closing] ++ rest from rfl, empty rest] at done
        cases done
      · rw [List.cons_append, opens c _ first] at done
        cases done

theorem encloses_more {inner wider : List Char → Prop} (encloses : Encloses s opening closing inner)
    (implies : ∀ body, inner body → wider body) : Encloses s opening closing wider := by
  intro text rest value done
  obtain ⟨body, shape, absent, isInner⟩ := encloses text rest value done
  exact ⟨body, shape, absent, implies body isInner⟩

theorem encloses_either (first : Encloses s opening closing (· ≠ [])) (second : Encloses t opening closing (· ≠ [])) :
    Encloses (s <|> t) opening closing (· ≠ []) := by
  intro text rest value done
  replace done : (StateT.run s text <|> StateT.run t text) = some (value, rest) := done
  cases tried : StateT.run s text with
  | some found =>
      rw [tried] at done
      cases done
      exact first text rest value tried
  | none =>
      rw [tried] at done
      exact second text rest value done

theorem mark_encloses (mark : String) (bracketed : IsMark mark) : Encloses (word mark) '[' ']' (· ≠ []) := by
  intro text rest value done
  obtain ⟨shape, filled, inner⟩ := bracketed
  refine ⟨_, ?_, fun member => (inner _ member).2 rfl, filled⟩
  rw [(word_succeeds _ _ _ _).mp done]
  conv_lhs => rw [shape, enclosed]
  simp

theorem reads_tags_span (family : Char × Char) (known : family ∈ families) : ReadsTags (span family.1 family.2) :=
  ⟨family, known, span_encloses family.1 family.2⟩

theorem reads_tags_mark (mark : String) (bracketed : IsMark mark) : ReadsTags (word mark) :=
  ⟨('[', ']'), by decide, mark_encloses mark bracketed⟩

end Tags

end TaggedStory.Text.Scanner

namespace TaggedStory.Tag

open Text Scanner

theorem Clean.nothing_read {α : Type} {text : List Char} (clear : Clean text) (s : Scanner α) (tags : ReadsTags s) :
    s.Misses text [] := by
  obtain ⟨family, known, encloses⟩ := tags
  exact clear.misses s family known _ encloses fun _ filled => filled

namespace Rule

variable {R α : Type} {name : String} {s : Scanner α} {act : R → α → Attempt (Option R)}

-- The rule finds nothing in a clean text.
def Idle (rule : Rule R) : Prop :=
  ∀ text, Clean text → rule.moves text = []

theorem idle_first (tags : ReadsTags s) : Idle (first name s act) := by
  intro text clear
  simp only [first, s.first_none text (clear.nothing_read s tags), Option.map_none, Option.toList_none]

theorem idle_every (tags : ReadsTags s) : Idle (every name s act) := by
  intro text clear
  simp only [every, s.all_none text (clear.nothing_read s tags), List.map_nil]

theorem idle_literal {word : String} {change : R → R} (bracketed : IsMark word) : Idle (literal name word change) :=
  idle_first (reads_tags_mark word bracketed)

theorem idle_keeping {rule : Rule R} (idle : Idle rule) : Idle rule.keeping :=
  idle

theorem idle_conditions {add : Condition → R → R} : Idle (conditionRule add) :=
  idle_every (reads_tags_span ('《', '》') (by decide))

theorem idle_effects {add : Effect → R → R} : Idle (effectRule add) := by
  intro text clear
  simp only [effectRule, clear.no_effect_seen, List.map_nil]

theorem apply_all_idle (rules : List (Rule R)) (idle : ∀ rule ∈ rules, Idle rule) (text : List Char) (clear : Clean text)
    (record : R) : applyAll rules (text, record) = .ok (text, record) := by
  induction rules with
  | nil => rfl
  | cons rule rest ih =>
      have applied : rule.apply (text, record) = .ok (text, record) := by
        rw [apply, idle rule List.mem_cons_self text clear]
        rfl
      rw [apply_all_cons rule rest _ _ applied]
      exact ih fun other member => idle other (List.mem_cons_of_mem _ member)

end Rule

end TaggedStory.Tag
