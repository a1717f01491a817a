import TaggedStory.Proofs.Text.Scanning
import TaggedStory.Tag.Span
/-!
What the recognisers of tags read, and the signs at which they start.
-/
set_option autoImplicit false

namespace TaggedStory.Text.Scanner

open Tag

variable {α β : Type}

theorem reads_bind (s : Scanner α) (next : α → Scanner β) (piece following : List Char) (value : α) (result : β)
    (first : Reads s piece value) (second : Reads (next value) following result) :
    Reads (s >>= next) (piece ++ following) result := by
  intro rest
  rw [StateT.run_bind, List.append_assoc, first (following ++ rest)]
  exact second rest

theorem reads_word (expected : String) : Reads (word expected) expected.toList () := by
  intro rest
  change (dropWord? expected.toList (expected.toList ++ rest)).map _ = _
  rw [drop_word_append]
  rfl

theorem reads_char (c : Char) : Reads (char c) [c] () := by
  intro rest
  change StateT.run (one (· == c) >>= fun _ => pure ()) (c :: rest) = _
  rw [StateT.run_bind]
  change (if (c == c) = true then some (c, rest) else none) >>= _ = _
  rw [if_pos (beq_self_eq_true c)]
  rfl

theorem reads_colon : Reads colon [':'] () :=
  fun _ => rfl

theorem reads_optional (s : Scanner α) (piece : List Char) (value : α) (reads : Reads s piece value) :
    Reads (optional s) piece (some value) := by
  intro rest
  change optional s (piece ++ rest) = _
  rw [optional, reads rest]

theorem optional_refused (s : Scanner α) (text : List Char) (refused : StateT.run s text = none) :
    StateT.run (optional s) text = some (none, text) := by
  change optional s text = _
  rw [optional, refused]

theorem run_many (accepts : Char → Bool) (piece : List Char) (c : Char) (rest : List Char)
    (accepted : ∀ x ∈ piece, accepts x = true) (stops : accepts c = false) :
    StateT.run (many accepts) (piece ++ c :: rest) = some (piece, c :: rest) := by
  change some ((piece ++ c :: rest).takeWhile accepts, (piece ++ c :: rest).dropWhile accepts) = _
  rw [List.takeWhile_append_of_pos accepted, List.dropWhile_append_of_pos accepted]
  simp [List.takeWhile, List.dropWhile, stops]

theorem many1_many (accepts : Char → Bool) (c : Char) (rest : List Char) (accepted : accepts c = true) :
    StateT.run (many1 accepts) (c :: rest) = StateT.run (many accepts) (c :: rest) := by
  change (if accepts c = true then some (c :: rest.takeWhile accepts, rest.dropWhile accepts) else none) =
    some ((c :: rest).takeWhile accepts, (c :: rest).dropWhile accepts)
  rw [if_pos accepted]
  simp [List.takeWhile, List.dropWhile, accepted]

theorem run_many1 (accepts : Char → Bool) (piece : List Char) (c : Char) (rest : List Char) (nonempty : piece ≠ [])
    (accepted : ∀ x ∈ piece, accepts x = true) (stops : accepts c = false) :
    StateT.run (many1 accepts) (piece ++ c :: rest) = some (piece, c :: rest) := by
  rw [← run_many accepts piece c rest accepted stops]
  cases piece with
  | nil => exact absurd rfl nonempty
  | cons x piece => exact many1_many accepts x _ (accepted x List.mem_cons_self)

theorem run_gap (gap : List Char) (c : Char) (rest : List Char) (blank : ∀ x ∈ gap, isBlank x = true)
    (solid : isBlank c = false) : StateT.run blanks (gap ++ c :: rest) = some ((), c :: rest) := by
  change some ((), (gap ++ c :: rest).dropWhile isBlank) = _
  rw [List.dropWhile_append_of_pos blank, List.dropWhile_cons_of_neg (by simp [solid])]

theorem run_blanks (c : Char) (rest : List Char) (solid : isBlank c = false) :
    StateT.run blanks (c :: rest) = some ((), c :: rest) :=
  run_gap [] c rest (by simp) solid

theorem reads_up_to (closing : Char) (body : List Char) (nonempty : body ≠ []) (absent : closing ∉ body) :
    Reads (upTo closing) (body ++ [closing]) body := by
  intro rest
  have accepted : ∀ x ∈ body, decide (x ≠ closing) = true := by
    intro x member
    exact decide_eq_true fun same => absent (same ▸ member)
  rw [List.append_assoc, List.singleton_append, upTo, StateT.run_bind,
    run_many1 _ body closing rest nonempty accepted (by simp)]
  change StateT.run (char closing >>= fun _ => pure body) (closing :: rest) = _
  rw [StateT.run_bind, show closing :: rest = [closing] ++ rest from rfl, reads_char closing rest]
  rfl

theorem reads_span (opening closing : Char) (body : List Char) (nonempty : body ≠ []) (absent : closing ∉ body) :
    Reads (span opening closing) (opening :: (body ++ [closing])) body :=
  reads_bind (char opening) _ [opening] _ () body (reads_char opening) (reads_up_to closing body nonempty absent)

theorem reads_valued (name : String) (body : List Char) (nonempty : body ≠ []) (absent : ']' ∉ body) :
    Reads (valued name) (name.toList ++ ':' :: (body ++ [']'])) body :=
  reads_bind (word name) _ _ _ () body (reads_word name)
    (reads_bind colon _ [':'] _ () body reads_colon (reads_up_to ']' body nonempty absent))

theorem opens_char (c : Char) : Opens (char c) c := by
  refine opens_bind _ _ c (opens_one _ c ?_)
  intro x same
  exact eq_of_beq same

theorem opens_span (opening closing : Char) : Opens (span opening closing) opening :=
  opens_bind _ _ opening (opens_char opening)

theorem opens_valued (name : String) (sign : Char) (first : name.toList.head? = some sign) :
    Opens (valued name) sign :=
  opens_bind _ _ sign (opens_word name sign first)

theorem begins_valued (name : String) : Begins (valued name) name :=
  begins_bind (word name) _ name (begins_word name)

end TaggedStory.Text.Scanner
