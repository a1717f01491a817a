import Mathlib.Data.List.TakeWhile
import TaggedStory.Proofs.Text.Scanning
/-!
What a recogniser that succeeded has consumed.
-/
set_option autoImplicit false

namespace TaggedStory.Text.Scanner

variable {α β : Type}

theorem bind_succeeds (s : Scanner α) (next : α → Scanner β) (text rest : List Char) (result : β) :
    StateT.run (s >>= next) text = some (result, rest) ↔
      ∃ value middle, StateT.run s text = some (value, middle) ∧
        StateT.run (next value) middle = some (result, rest) := by
  rw [StateT.run_bind]
  cases found : StateT.run s text with
  | none => simp
  | some pair =>
      obtain ⟨value, middle⟩ := pair
      constructor
      · exact fun done => ⟨value, middle, rfl, done⟩
      · rintro ⟨_, _, same, done⟩
        cases same
        exact done

theorem pure_succeeds (value result : α) (text rest : List Char) :
    StateT.run (pure value : Scanner α) text = some (result, rest) ↔ value = result ∧ text = rest := by
  change some (value, text) = some (result, rest) ↔ _
  rw [Option.some.injEq, Prod.mk.injEq]

theorem failure_fails (text : List Char) : StateT.run (failure : Scanner α) text = none :=
  rfl

theorem word_succeeds (expected : String) (text rest : List Char) (value : Unit) :
    StateT.run (word expected) text = some (value, rest) ↔ text = expected.toList ++ rest := by
  change (dropWord? expected.toList text).map _ = _ ↔ _
  rw [Option.map_eq_some_iff, ← drop_word_some]
  simp

theorem one_succeeds (accepts : Char → Bool) (text rest : List Char) (c : Char) :
    StateT.run (one accepts) text = some (c, rest) ↔ text = c :: rest ∧ accepts c = true := by
  cases text with
  | nil =>
      change none = _ ↔ _
      simp
  | cons d text =>
      change (if accepts d = true then some (d, text) else none) = _ ↔ _
      by_cases accepted : accepts d = true
      · rw [if_pos accepted, Option.some.injEq, Prod.mk.injEq, List.cons.injEq]
        constructor
        · rintro ⟨rfl, rfl⟩
          exact ⟨⟨rfl, rfl⟩, accepted⟩
        · rintro ⟨same, _⟩
          exact same
      · rw [if_neg accepted]
        constructor
        · intro impossible
          cases impossible
        · rintro ⟨same, other⟩
          rw [List.cons.injEq] at same
          exact absurd (same.1 ▸ other) accepted

theorem many_succeeds (accepts : Char → Bool) (text rest value : List Char)
    (done : StateT.run (many accepts) text = some (value, rest)) :
    text = value ++ rest ∧ (∀ c ∈ value, accepts c = true) ∧ ∀ c ∈ rest.head?, accepts c = false := by
  change some (text.takeWhile accepts, text.dropWhile accepts) = _ at done
  rw [Option.some.injEq, Prod.mk.injEq] at done
  obtain ⟨rfl, rfl⟩ := done
  refine ⟨List.takeWhile_append_dropWhile.symm, fun c member => List.mem_takeWhile_imp member, fun c head => ?_⟩
  have stopped := List.head?_dropWhile_not accepts text
  rw [Option.mem_def.mp head] at stopped
  simpa using stopped

theorem many1_succeeds (accepts : Char → Bool) (text rest value : List Char)
    (done : StateT.run (many1 accepts) text = some (value, rest)) :
    value ≠ [] ∧ StateT.run (many accepts) text = some (value, rest) := by
  cases text with
  | nil => cases done
  | cons c text =>
      change (if accepts c = true then some (c :: text.takeWhile accepts, text.dropWhile accepts) else none) = _ at done
      by_cases accepted : accepts c = true
      · rw [if_pos accepted, Option.some.injEq, Prod.mk.injEq] at done
        refine ⟨by rw [← done.1]; exact List.cons_ne_nil _ _, ?_⟩
        change some ((c :: text).takeWhile accepts, (c :: text).dropWhile accepts) = _
        rw [List.takeWhile_cons_of_pos accepted, List.dropWhile_cons_of_pos accepted, done.1, done.2]
      · rw [if_neg accepted] at done
        cases done

theorem blanks_succeeds (text rest : List Char) (value : Unit) (done : StateT.run blanks text = some (value, rest)) :
    rest = text.dropWhile isBlank := by
  change some ((), text.dropWhile isBlank) = _ at done
  rw [Option.some.injEq, Prod.mk.injEq] at done
  exact done.2.symm

theorem blanks_split (text rest : List Char) (value : Unit) (done : StateT.run blanks text = some (value, rest)) :
    ∃ gap, text = gap ++ rest ∧ ∀ c ∈ gap, isBlank c = true := by
  refine ⟨text.takeWhile isBlank, ?_, fun c member => List.mem_takeWhile_imp member⟩
  rw [blanks_succeeds _ _ _ done, List.takeWhile_append_dropWhile]

theorem optional_succeeds (s : Scanner α) (text rest : List Char) (value : Option α) :
    StateT.run (optional s) text = some (value, rest) ↔
      (∃ found, value = some found ∧ StateT.run s text = some (found, rest)) ∨
        value = none ∧ rest = text ∧ StateT.run s text = none := by
  change optional s text = _ ↔ _
  rw [optional]
  cases StateT.run s text with
  | none => simp [eq_comm]
  | some pair =>
      obtain ⟨found, after⟩ := pair
      constructor
      · intro same
        simp only [Option.some.injEq, Prod.mk.injEq] at same
        exact .inl ⟨found, same.1.symm, by rw [same.2]⟩
      · rintro (⟨other, rfl, same⟩ | ⟨_, _, impossible⟩)
        · simp only [Option.some.injEq, Prod.mk.injEq] at same
          rw [same.1, same.2]
        · cases impossible

section Then

variable {text rest : List Char} {result : β}

theorem word_then {expected : String} {next : Unit → Scanner β}
    (done : StateT.run (word expected >>= next) text = some (result, rest)) :
    ∃ middle, text = expected.toList ++ middle ∧ StateT.run (next ()) middle = some (result, rest) := by
  obtain ⟨_, middle, first, done⟩ := (bind_succeeds _ _ _ _ _).mp done
  exact ⟨middle, (word_succeeds _ _ _ _).mp first, done⟩

theorem one_then {accepts : Char → Bool} {next : Char → Scanner β}
    (done : StateT.run (one accepts >>= next) text = some (result, rest)) :
    ∃ c middle, text = c :: middle ∧ accepts c = true ∧ StateT.run (next c) middle = some (result, rest) := by
  obtain ⟨c, middle, first, done⟩ := (bind_succeeds _ _ _ _ _).mp done
  obtain ⟨shape, accepted⟩ := (one_succeeds _ _ _ _).mp first
  exact ⟨c, middle, shape, accepted, done⟩

theorem many_then {accepts : Char → Bool} {next : List Char → Scanner β}
    (done : StateT.run (many accepts >>= next) text = some (result, rest)) :
    ∃ piece middle, text = piece ++ middle ∧ (∀ c ∈ piece, accepts c = true) ∧
      StateT.run (next piece) middle = some (result, rest) := by
  obtain ⟨piece, middle, first, done⟩ := (bind_succeeds _ _ _ _ _).mp done
  obtain ⟨shape, accepted, _⟩ := many_succeeds _ _ _ _ first
  exact ⟨piece, middle, shape, accepted, done⟩

theorem many1_then {accepts : Char → Bool} {next : List Char → Scanner β}
    (done : StateT.run (many1 accepts >>= next) text = some (result, rest)) :
    ∃ piece middle, text = piece ++ middle ∧ piece ≠ [] ∧ (∀ c ∈ piece, accepts c = true) ∧
      StateT.run (next piece) middle = some (result, rest) := by
  obtain ⟨piece, middle, first, done⟩ := (bind_succeeds _ _ _ _ _).mp done
  obtain ⟨filled, many⟩ := many1_succeeds _ _ _ _ first
  obtain ⟨shape, accepted, _⟩ := many_succeeds _ _ _ _ many
  exact ⟨piece, middle, shape, filled, accepted, done⟩

theorem blanks_then {next : Unit → Scanner β} (done : StateT.run (blanks >>= next) text = some (result, rest)) :
    ∃ gap middle, text = gap ++ middle ∧ (∀ c ∈ gap, isBlank c = true) ∧
      StateT.run (next ()) middle = some (result, rest) := by
  obtain ⟨_, middle, first, done⟩ := (bind_succeeds _ _ _ _ _).mp done
  obtain ⟨gap, shape, blank⟩ := blanks_split _ _ _ first
  exact ⟨gap, middle, shape, blank, done⟩

end Then

-- What is consumed is free of the sign.
def Avoids (sign : Char) (s : Scanner α) : Prop :=
  ∀ text value rest, StateT.run s text = some (value, rest) → ∃ piece, text = piece ++ rest ∧ sign ∉ piece

section Avoiding

variable {sign : Char}

theorem avoids_pure {value : α} : Avoids sign (pure value : Scanner α) := by
  intro text result rest done
  rw [pure_succeeds] at done
  exact ⟨[], done.2, by simp⟩

theorem avoids_bind {s : Scanner α} {next : α → Scanner β} (first : Avoids sign s)
    (second : ∀ value, Avoids sign (next value)) : Avoids sign (s >>= next) := by
  intro text result rest done
  obtain ⟨value, middle, before, after⟩ := (bind_succeeds _ _ _ _ _).mp done
  obtain ⟨piece, rfl, lacks⟩ := first text value middle before
  obtain ⟨more, rfl, lacksMore⟩ := second value middle result rest after
  exact ⟨piece ++ more, by rw [List.append_assoc], by simp [lacks, lacksMore]⟩

theorem avoids_one {accepts : Char → Bool} (refused : accepts sign = false) : Avoids sign (one accepts) := by
  intro text c rest done
  obtain ⟨rfl, accepted⟩ := (one_succeeds _ _ _ _).mp done
  refine ⟨[c], rfl, fun member => ?_⟩
  rw [List.mem_singleton.mp member, accepted] at refused
  cases refused

theorem avoids_many {accepts : Char → Bool} (refused : accepts sign = false) : Avoids sign (many accepts) := by
  intro text value rest done
  obtain ⟨shape, accepted, _⟩ := many_succeeds _ _ _ _ done
  refine ⟨value, shape, fun member => ?_⟩
  rw [accepted sign member] at refused
  cases refused

theorem avoids_many1 {accepts : Char → Bool} (refused : accepts sign = false) : Avoids sign (many1 accepts) :=
  fun text value rest done => avoids_many refused text value rest (many1_succeeds _ _ _ _ done).2

theorem avoids_optional {s : Scanner α} (avoids : Avoids sign s) : Avoids sign (optional s) := by
  intro text value rest done
  rcases (optional_succeeds _ _ _ _).mp done with ⟨found, _, read⟩ | ⟨_, rfl, _⟩
  · exact avoids text found rest read
  · exact ⟨[], rfl, by simp⟩

theorem avoids_blanks (solid : isBlank sign = false) : Avoids sign blanks := by
  intro text value rest done
  obtain ⟨gap, shape, blank⟩ := blanks_split _ _ _ done
  refine ⟨gap, shape, fun member => ?_⟩
  rw [blank sign member] at solid
  cases solid

end Avoiding

end TaggedStory.Text.Scanner
