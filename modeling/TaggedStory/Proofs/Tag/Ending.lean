import TaggedStory.Proofs.Tag.Enclosure
import TaggedStory.Tag.Effect
/-!
Recognisers that end at the next closing sign. What they do with a text is decided in front of the sign, whatever follows
it, and without a closing sign they refuse.
-/
set_option autoImplicit false

namespace TaggedStory.Text.Scanner

open Tag

variable {α β : Type} {closing : Char}

-- The recogniser comes to a stop in front of the closing sign.
structure Halts (closing : Char) (s : Scanner α) : Prop where
  avoids : Avoids closing s
  settled : ∀ lead, closing ∉ lead → (∃ value left, closing ∉ left ∧
      ∀ rest, StateT.run s (lead ++ closing :: rest) = some (value, left ++ closing :: rest)) ∨
    ∀ rest, StateT.run s (lead ++ closing :: rest) = none

structure Ends (closing : Char) (s : Scanner α) : Prop where
  settled : ∀ lead, closing ∉ lead → (∃ value, Reads s (lead ++ [closing]) value) ∨ Refuses s (lead ++ [closing])
  needs : ∀ text, closing ∉ text → StateT.run s text = none

section Halting

theorem halts_pure (value : α) : Halts closing (pure value : Scanner α) :=
  ⟨avoids_pure, fun lead absent => .inl ⟨value, lead, absent, fun _ => rfl⟩⟩

theorem halts_one (accepts : Char → Bool) (refused : accepts closing = false) : Halts closing (one accepts) := by
  refine ⟨avoids_one refused, fun lead absent => ?_⟩
  cases lead with
  | nil =>
      refine .inr fun rest => ?_
      change (if accepts closing = true then some (closing, rest) else none) = none
      rw [refused]
      rfl
  | cons c lead =>
      cases accepted : accepts c with
      | true =>
          refine .inl ⟨c, lead, fun member => absent (List.mem_cons_of_mem c member), fun rest => ?_⟩
          exact (one_succeeds accepts _ _ _).mpr ⟨rfl, accepted⟩
      | false =>
          refine .inr fun rest => ?_
          change (if accepts c = true then some (c, lead ++ closing :: rest) else none) = none
          rw [accepted]
          rfl

theorem halts_bind (s : Scanner α) (next : α → Scanner β) (first : Halts closing s) (second : ∀ value, Halts closing (next value)) :
    Halts closing (s >>= next) := by
  refine ⟨avoids_bind first.avoids fun value => (second value).avoids, fun lead absent => ?_⟩
  rcases first.settled lead absent with ⟨value, left, absentLeft, runs⟩ | refuses
  · rcases (second value).settled left absentLeft with ⟨result, final, absentFinal, runsAgain⟩ | refusesAgain
    · exact .inl ⟨result, final, absentFinal, fun rest => (bind_succeeds _ _ _ _ _).mpr ⟨value, _, runs rest, runsAgain rest⟩⟩
    · refine .inr fun rest => ?_
      rw [StateT.run_bind, runs rest]
      exact refusesAgain rest
  · refine .inr fun rest => ?_
    rw [StateT.run_bind, refuses rest]
    rfl

theorem halts_char (c : Char) (other : closing ≠ c) : Halts closing (char c) :=
  halts_bind _ _ (halts_one _ (by simpa using other)) fun _ => halts_pure ()

theorem halts_optional (s : Scanner α) (halts : Halts closing s) : Halts closing (optional s) := by
  refine ⟨avoids_optional halts.avoids, fun lead absent => ?_⟩
  rcases halts.settled lead absent with ⟨value, left, absentLeft, runs⟩ | refuses
  · refine .inl ⟨some value, left, absentLeft, fun rest => ?_⟩
    exact (optional_succeeds s _ _ _).mpr (.inl ⟨value, rfl, runs rest⟩)
  · exact .inl ⟨none, lead, absent, fun rest => optional_refused s _ (refuses rest)⟩

theorem halts_many : Halts closing (many (· ≠ closing)) := by
  refine ⟨avoids_many (by simp), fun lead absent => .inl ⟨lead, [], by simp, fun rest => ?_⟩⟩
  exact run_many _ lead closing rest (fun c member => decide_eq_true fun same => absent (same ▸ member)) (by simp)

theorem ends_char : Ends closing (char closing) := by
  refine ⟨fun lead absent => ?_, fun text absent => ?_⟩
  · cases lead with
    | nil => exact .inl ⟨(), reads_char closing⟩
    | cons c lead =>
        refine .inr fun rest => opens_char closing c _ ?_
        rintro rfl
        exact absent List.mem_cons_self
  · cases text with
    | nil => rfl
    | cons c text =>
        refine opens_char closing c text ?_
        rintro rfl
        exact absent List.mem_cons_self

theorem ends_bind (s : Scanner α) (next : α → Scanner β) (halts : Halts closing s) (ends : ∀ value, Ends closing (next value)) :
    Ends closing (s >>= next) := by
  refine ⟨fun lead absent => ?_, fun text absent => ?_⟩
  · have joined (lead rest : List Char) : lead ++ [closing] ++ rest = lead ++ closing :: rest := by simp
    rcases halts.settled lead absent with ⟨value, left, absentLeft, runs⟩ | refuses
    · rcases (ends value).settled left absentLeft with ⟨result, reads⟩ | refusesAgain
      · refine .inl ⟨result, fun rest => (bind_succeeds _ _ _ _ _).mpr ⟨value, _, by rw [joined, runs rest], ?_⟩⟩
        rw [← joined]
        exact reads rest
      · refine .inr fun rest => ?_
        rw [joined, StateT.run_bind, runs rest, ← joined]
        exact refusesAgain rest
    · refine .inr fun rest => ?_
      rw [joined, StateT.run_bind, refuses rest]
      rfl
  · cases done : StateT.run (s >>= next) text with
    | none => rfl
    | some pair =>
        obtain ⟨value, middle, first, second⟩ := (bind_succeeds _ _ _ _ _).mp done
        obtain ⟨piece, rfl, _⟩ := halts.avoids text value middle first
        rw [(ends value).needs middle fun member => absent (List.mem_append_right piece member)] at second
        cases second

end Halting

-- What is missed in front of the closing sign is missed whatever follows the sign.
theorem ends_misses (s : Scanner α) (ends : Ends closing s) (lead rest : List Char) (absent : closing ∉ lead)
    (misses : Misses s lead [closing]) : Misses s lead (closing :: rest) := by
  induction lead with
  | nil => trivial
  | cons c lead ih =>
      refine ⟨?_, ih (fun member => absent (List.mem_cons_of_mem c member)) misses.2⟩
      rcases ends.settled (c :: lead) absent with ⟨value, reads⟩ | refuses
      · have run := reads []
        rw [List.append_nil, List.cons_append, misses.1] at run
        cases run
      · simpa using refuses rest

theorem halts_letters (word : List Char) (refused : ∀ c ∈ word, isLetter c closing = false) : Halts closing (letters word) := by
  induction word with
  | nil => exact halts_pure ()
  | cons c word ih =>
      exact halts_bind _ _ (halts_one _ (refused c List.mem_cons_self)) fun _ =>
        ih fun d member => refused d (List.mem_cons_of_mem c member)

theorem mark_start_halts : Halts '>' markStart :=
  halts_bind _ _ (halts_char '<' (by decide)) fun _ => halts_bind _ _ (halts_optional _ (halts_char '/' (by decide))) fun _ => halts_pure ()

theorem open_mark_ends (name : String) (refused : ∀ c ∈ name.toList, isLetter c '>' = false) : Ends '>' (openMark name) :=
  ends_bind _ _ mark_start_halts fun _ => ends_bind _ _ (halts_letters name.toList refused) fun _ =>
    ends_bind _ _ halts_many fun _ => ends_char

theorem plain_mark_ends : Ends '>' plainMark :=
  ends_bind _ _ mark_start_halts fun _ => ends_bind _ _ (halts_one _ (by decide)) fun _ => ends_char

theorem guillemets_end : Ends '》' guillemets :=
  ends_bind _ _ (halts_char '《' (by decide)) fun _ => ends_bind _ _ halts_many fun _ => ends_char

end TaggedStory.Text.Scanner
