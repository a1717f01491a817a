import TaggedStory.Proofs.Tag.Spans
import TaggedStory.Proofs.Text.Consumption
import TaggedStory.Tag.Ad
/-!
Recognisers that run from an opening sign to the next closing one. Such a recogniser refuses a tag
whose inner text is none of those that it reads.
-/
set_option autoImplicit false

namespace TaggedStory.Text.Scanner

open Tag

variable {α : Type}

-- What is read lies between the opening sign and the first closing sign, and has the inner form.
def Encloses (s : Scanner α) (opening closing : Char) (inner : List Char → Prop) : Prop :=
  ∀ text rest value, StateT.run s text = some (value, rest) →
    ∃ body, text = opening :: (body ++ closing :: rest) ∧ closing ∉ body ∧ inner body

theorem first_closing_unique (closing : Char) (body other rest after : List Char) (absent : closing ∉ body)
    (absentOther : closing ∉ other) (same : body ++ closing :: rest = other ++ closing :: after) :
    body = other ∧ rest = after := by
  induction body generalizing other with
  | nil =>
      cases other with
      | nil =>
          rw [List.nil_append, List.nil_append, List.cons.injEq] at same
          exact ⟨rfl, same.2⟩
      | cons c other =>
          rw [List.nil_append, List.cons_append, List.cons.injEq] at same
          exact absurd (same.1 ▸ List.mem_cons_self) absentOther
  | cons c body ih =>
      cases other with
      | nil =>
          rw [List.nil_append, List.cons_append, List.cons.injEq] at same
          exact absurd (same.1 ▸ List.mem_cons_self) absent
      | cons d other =>
          rw [List.cons_append, List.cons_append, List.cons.injEq] at same
          obtain ⟨bodies, rests⟩ := ih other (fun member => absent (List.mem_cons_of_mem c member))
            (fun member => absentOther (List.mem_cons_of_mem d member)) same.2
          exact ⟨by rw [same.1, bodies], rests⟩

theorem encloses_refuses (s : Scanner α) (opening closing : Char) (inner : List Char → Prop)
    (encloses : Encloses s opening closing inner) (body : List Char) (absent : closing ∉ body)
    (other : ¬ inner body) : Refuses s (opening :: (body ++ [closing])) := by
  intro rest
  cases done : StateT.run s (opening :: (body ++ [closing]) ++ rest) with
  | none => rfl
  | some pair =>
      obtain ⟨value, after⟩ := pair
      obtain ⟨found, shape, absentFound, isInner⟩ := encloses _ after value done
      rw [List.cons_append, List.append_assoc, List.cons.injEq] at shape
      obtain ⟨same, _⟩ := first_closing_unique closing body found _ _ absent absentFound shape.2
      exact absurd (same ▸ isInner) other

theorem char_succeeds (c : Char) (text rest : List Char) (value : Unit) :
    StateT.run (char c) text = some (value, rest) ↔ text = c :: rest := by
  change StateT.run (one (· == c) >>= fun _ => pure ()) text = _ ↔ _
  rw [bind_succeeds]
  constructor
  · rintro ⟨found, middle, first, last⟩
    rw [one_succeeds, beq_iff_eq] at first
    rw [pure_succeeds] at last
    rw [first.1, first.2, last.2]
  · rintro rfl
    exact ⟨c, rest, (one_succeeds _ _ _ _).mpr ⟨rfl, beq_self_eq_true c⟩, (pure_succeeds _ _ _ _).mpr ⟨rfl, rfl⟩⟩

theorem colon_succeeds (text rest : List Char) (value : Unit) :
    StateT.run colon text = some (value, rest) ↔ ∃ c, (c = ':' ∨ c = '：') ∧ text = c :: rest := by
  change StateT.run (one (fun c => c == ':' || c == '：') >>= fun _ => pure ()) text = _ ↔ _
  rw [bind_succeeds]
  constructor
  · rintro ⟨c, middle, first, last⟩
    rw [one_succeeds, Bool.or_eq_true, beq_iff_eq, beq_iff_eq] at first
    rw [pure_succeeds] at last
    exact ⟨c, first.2, by rw [first.1, last.2]⟩
  · rintro ⟨c, isColon, rfl⟩
    exact ⟨c, rest, (one_succeeds _ _ _ _).mpr ⟨rfl, by simpa using isColon⟩, (pure_succeeds _ _ _ _).mpr ⟨rfl, rfl⟩⟩

theorem char_then {c : Char} {next : Unit → Scanner α} {text rest : List Char} {result : α}
    (done : StateT.run (char c >>= next) text = some (result, rest)) :
    ∃ middle, text = c :: middle ∧ StateT.run (next ()) middle = some (result, rest) := by
  obtain ⟨_, middle, first, done⟩ := (bind_succeeds _ _ _ _ _).mp done
  exact ⟨middle, (char_succeeds _ _ _ _).mp first, done⟩

theorem colon_then {next : Unit → Scanner α} {text rest : List Char} {result : α}
    (done : StateT.run (colon >>= next) text = some (result, rest)) :
    ∃ sign middle, text = sign :: middle ∧ (sign = ':' ∨ sign = '：') ∧ StateT.run (next ()) middle = some (result, rest) := by
  obtain ⟨_, middle, first, done⟩ := (bind_succeeds _ _ _ _ _).mp done
  obtain ⟨sign, isColon, shape⟩ := (colon_succeeds _ _ _).mp first
  exact ⟨sign, middle, shape, isColon, done⟩

theorem avoids_char {sign c : Char} (other : sign ≠ c) : Avoids sign (char c) := by
  intro text value rest done
  exact ⟨[c], (char_succeeds _ _ _ _).mp done, by simpa using other⟩

theorem avoids_colon {sign : Char} (other : sign ≠ ':' ∧ sign ≠ '：') : Avoids sign colon :=
  avoids_bind (avoids_one (by simpa using other)) fun _ => avoids_pure

def isAdSign (c : Char) : Bool :=
  c == 'A' || c == 'D' || c == ':' || c == '：' || isDigit c

theorem ad_number_signs (text rest value : List Char) (done : StateT.run adNumber text = some (value, rest)) :
    ∃ body, text = body ++ rest ∧ ∀ c ∈ body, isAdSign c = true := by
  rw [adNumber, bind_succeeds] at done
  obtain ⟨mark, afterMark, first, done⟩ := done
  rw [bind_succeeds] at done
  obtain ⟨number, afterNumber, second, done⟩ := done
  have same : rest = afterNumber := by
    by_cases short : number.length ≤ 3
    · rw [if_pos short, pure_succeeds] at done
      exact done.2.symm
    · rw [if_neg short, failure_fails] at done
      cases done
  obtain ⟨shape, digits, _⟩ := many_succeeds _ _ _ _ (many1_succeeds _ _ _ _ second).2
  have numberSigns : ∀ c ∈ number, isAdSign c = true := fun c member => by simp [isAdSign, digits c member]
  rcases (optional_succeeds _ _ _ _).mp first with ⟨_, _, colonRead⟩ | ⟨_, rfl, _⟩
  · obtain ⟨c, isColon, rfl⟩ := (colon_succeeds _ _ _).mp colonRead
    refine ⟨c :: number, by rw [shape, same, List.cons_append], fun x member => ?_⟩
    rcases List.mem_cons.mp member with rfl | later
    · rcases isColon with rfl | rfl <;> decide
    · exact numberSigns x later
  · exact ⟨number, by rw [shape, same], numberSigns⟩

theorem ad_encloses : Encloses ad '《' '》' fun body => ∀ c ∈ body, isAdSign c = true := by
  intro text rest value done
  rw [ad] at done
  obtain ⟨afterWord, first, done⟩ := word_then done
  obtain ⟨number, afterNumber, second, done⟩ := (bind_succeeds _ _ _ _ _).mp done
  obtain ⟨_, third, done⟩ := char_then done
  rw [pure_succeeds] at done
  obtain ⟨body, shape, signs⟩ : ∃ body, afterWord = body ++ afterNumber ∧ ∀ c ∈ body, isAdSign c = true := by
    rcases (optional_succeeds _ _ _ _).mp second with ⟨found, _, read⟩ | ⟨_, rfl, _⟩
    · exact ad_number_signs _ _ _ read
    · exact ⟨[], rfl, by simp⟩
  have allSigns : ∀ c ∈ 'A' :: 'D' :: body, isAdSign c = true := by
    intro c member
    rcases List.mem_cons.mp member with rfl | later
    · decide
    rcases List.mem_cons.mp later with rfl | latest
    · decide
    · exact signs c latest
  refine ⟨'A' :: 'D' :: body, ?_, ?_, allSigns⟩
  · rw [first, shape, third, done.2]
    rfl
  · intro member
    exact absurd (allSigns '》' member) (by decide)

theorem opens_ad : Opens ad '《' :=
  opens_bind _ _ '《' (opens_word "《AD" '《' (by decide))

theorem ad_refuses (body : List Char) (absent : '》' ∉ body) (c : Char) (member : c ∈ body)
    (other : isAdSign c = false) : Refuses ad ('《' :: (body ++ ['》'])) := by
  refine encloses_refuses ad '《' '》' _ ad_encloses body absent fun signs => ?_
  rw [signs c member] at other
  cases other

end TaggedStory.Text.Scanner
