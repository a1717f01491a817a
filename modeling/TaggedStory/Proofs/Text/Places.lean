import Mathlib.Data.List.Infix
import TaggedStory.Proofs.Text.Thinning
/-!
The places of a text where a recogniser succeeds, and the stretches between two signs. What is found from left to right
stands at such a place; what can be found at one place is found if no token before it reaches so far.
-/
set_option autoImplicit false

namespace TaggedStory.Text.Scanner

variable {α : Type} (s : Scanner α)

def Stands (text : List Char) (found : Found α) : Prop :=
  ∃ before rest, text = before ++ rest ∧ here? s rest = some found

theorem first_stands (text : List Char) (found : Found α) (present : s.first? text = some found) : s.Stands text found := by
  induction text with
  | nil => cases present
  | cons c text ih =>
      rw [first?] at present
      cases here : here? s (c :: text) with
      | some other =>
          rw [here] at present
          cases present
          exact ⟨[], c :: text, rfl, here⟩
      | none =>
          rw [here] at present
          obtain ⟨before, rest, shape, stands⟩ := ih present
          exact ⟨c :: before, rest, congrArg (List.cons c) shape, stands⟩

theorem all_from_stands (skip : Nat) (text : List Char) (found : Found α) (present : found ∈ allFrom s skip text) :
    s.Stands text found := by
  have further : ∀ c text, s.Stands text found → s.Stands (c :: text) found := by
    rintro c text ⟨before, rest, shape, stands⟩
    exact ⟨c :: before, rest, congrArg (List.cons c) shape, stands⟩
  induction text generalizing skip with
  | nil => cases skip <;> cases present
  | cons c text ih =>
      cases skip with
      | succ skip => exact further c text (ih skip present)
      | zero =>
          rw [allFrom] at present
          cases here : here? s (c :: text) with
          | none =>
              rw [here] at present
              exact further c text (ih 0 present)
          | some other =>
              rw [here] at present
              rcases List.mem_cons.mp present with rfl | later
              · exact ⟨[], c :: text, rfl, here⟩
              · exact further c text (ih _ later)

theorem all_stands (text : List Char) (found : Found α) (present : found ∈ s.all text) : s.Stands text found :=
  all_from_stands s 0 text found present

-- What is found at a place is what the recogniser reads there, with the characters that it consumed as the token.
theorem here_found (text : List Char) (found : Found α) (here : here? s text = some found) :
    ∃ rest, StateT.run s text = some (found.value, rest) ∧ found.token = text.take (text.length - rest.length) := by
  rw [here?] at here
  cases run : StateT.run s text with
  | none =>
      rw [run] at here
      cases here
  | some pair =>
      rw [run] at here
      cases here
      exact ⟨pair.2, rfl, rfl⟩

theorem here_run (text : List Char) (found : Found α) (here : here? s text = some found) :
    ∃ rest, StateT.run s text = some (found.value, rest) :=
  (here_found s text found here).imp fun _ => And.left

theorem here_prefix (text : List Char) (found : Found α) (here : here? s text = some found) : found.token <+: text := by
  obtain ⟨rest, _, token⟩ := here_found s text found here
  exact token ▸ List.take_prefix _ _

theorem stands_opened (sign : Char) (opens : Opens s sign) (text : List Char) (found : Found α)
    (stands : s.Stands text found) : ∀ c ∈ found.token.head?, c = sign := by
  obtain ⟨before, rest, _, here⟩ := stands
  obtain ⟨after, shape⟩ := here_prefix s rest found here
  intro c head
  obtain ⟨token, starts⟩ := List.head?_eq_some_iff.mp head
  by_contra other
  rw [← shape, starts, List.cons_append, here?, opens c (token ++ after) other] at here
  cases here

end TaggedStory.Text.Scanner

namespace TaggedStory.Text

-- The inner text of every stretch from an opening sign to the next closing one.
def insides (opening closing : Char) (text : List Char) : List (List Char) :=
  text.tails.filterMap fun rest =>
    match rest with
    | [] => none
    | c :: body => if c = opening ∧ closing ∈ body then some (body.takeWhile (· ≠ closing)) else none

theorem inside_listed (opening closing : Char) (text body : List Char) (absent : closing ∉ body)
    (stands : enclosed opening closing body <:+: text) : body ∈ insides opening closing text := by
  obtain ⟨before, after, rfl⟩ := stands
  refine List.mem_filterMap.mpr ⟨enclosed opening closing body ++ after, ?_, ?_⟩
  · rw [List.mem_tails, List.append_assoc]
    exact List.suffix_append before _
  · have accepted : ∀ c ∈ body, (!decide (c = closing)) = true := fun c member => by
      have other : c ≠ closing := fun same => absent (same ▸ member)
      simpa using other
    simp [enclosed, List.takeWhile_append_of_pos accepted]

namespace Scanner

variable {α : Type} (s : Scanner α)

-- What the recogniser reads at any place, whatever is read before it.
def places (text : List Char) : List (Found α) :=
  text.tails.filterMap fun rest => here? s rest

theorem stands_placed (text : List Char) (found : Found α) (stands : s.Stands text found) : found ∈ places s text := by
  obtain ⟨before, rest, rfl, here⟩ := stands
  exact List.mem_filterMap.mpr ⟨rest, (List.mem_tails _ _).mpr (List.suffix_append before rest), here⟩

theorem first_found (before rest : List Char) (c : Char) (found : Found α) (here : here? s (c :: rest) = some found) :
    ∃ first, s.first? (before ++ c :: rest) = some first := by
  induction before with
  | nil => exact ⟨found, by rw [List.nil_append, first?, here]⟩
  | cons d before ih =>
      rw [List.cons_append, first?]
      cases here? s (d :: (before ++ c :: rest)) with
      | some other => exact ⟨other, rfl⟩
      | none => exact ih

-- A token that begins with a sign is not passed over if the sign stands at the front of tokens only.
theorem all_found (sign : Char) (fronts : ∀ text found, here? s text = some found → sign ∉ found.token.tail)
    (before rest : List Char) (found : Found α) (here : here? s (sign :: rest) = some found) (skip : Nat)
    (reached : skip ≤ before.length) : found ∈ allFrom s skip (before ++ sign :: rest) := by
  induction before generalizing skip with
  | nil =>
      obtain rfl := Nat.le_zero.mp reached
      rw [List.nil_append, allFrom, here]
      exact List.mem_cons_self
  | cons d before ih =>
      cases skip with
      | succ skip => exact ih skip (Nat.le_of_succ_le_succ reached)
      | zero =>
          rw [List.cons_append, allFrom]
          cases other : here? s (d :: (before ++ sign :: rest)) with
          | none => exact ih 0 (Nat.zero_le _)
          | some token =>
              refine List.mem_cons_of_mem _ (ih _ ?_)
              have shown := here_prefix s _ token other
              have lacks := fronts _ token other
              cases shape : token.token with
              | nil => exact Nat.zero_le _
              | cons e tail =>
                  rw [shape] at shown lacks
                  by_contra far
                  have reaches : before.length < tail.length := not_le.mp far
                  have same : tail[before.length] = sign := by
                    rw [(List.cons_prefix_cons.mp shown).2.getElem reaches]
                    simp
                  exact lacks (same ▸ List.getElem_mem reaches)

end Scanner

end TaggedStory.Text
