import Mathlib.Data.List.Induction
import TaggedStory.Proofs.Tag.Forms
import TaggedStory.Proofs.Tag.Pieces
/-!
Rules that remove each accepted tag by its first occurrence, on texts that are rows of letters and tags. The accepted tags
alone are removed if none of them occurs in a tag that stays in front of it; what is left is a row without accepted tags.
-/
set_option autoImplicit false

namespace TaggedStory.Tag

open Text Scanner

section Occurrences

variable (token : List Char)

-- A token that goes beyond a piece would hold the end of the piece in front of its own end.
theorem skips_sealed (piece : List Char) (c : Char) (last : piece.getLast? = some c) (outside : c ∉ token.dropLast)
    (absent : ¬ token <:+: piece) : Skips (word (String.ofList token)) piece := by
  induction piece with
  | nil => exact skips_nil _
  | cons d piece ih =>
      intro rest
      refine ⟨?_, ?_⟩
      · cases dropped : dropWord? (String.ofList token).toList (d :: (piece ++ rest)) with
        | none => exact Option.map_eq_none_iff.mpr dropped
        | some after =>
            exfalso
            have shape := (drop_word_some _ _ _).mp dropped
            rw [String.toList_ofList, ← List.cons_append] at shape
            rcases List.append_eq_append_iff.mp shape with ⟨more, whole, _⟩ | ⟨more, whole, _⟩
            · by_cases nothing : more = []
              · rw [nothing, List.append_nil] at whole
                exact absent (whole ▸ List.infix_rfl)
              · refine outside ?_
                rw [whole, List.dropLast_append_of_ne_nil nothing]
                exact List.mem_append_left _ (List.mem_of_getLast? last)
            · exact absent (whole ▸ (List.prefix_append _ _).isInfix)
      · cases piece with
        | nil => trivial
        | cons e piece =>
            exact ih (by simpa using last) (fun inside => absent (inside.trans (List.suffix_cons d _).isInfix)) rest

theorem skips_letter (c : Char) (other : ∀ d ∈ token.head?, c ≠ d) (filled : token ≠ []) :
    Skips (word (String.ofList token)) [c] := by
  obtain ⟨d, more, rfl⟩ := List.exists_cons_of_ne_nil filled
  refine skips_unopened _ d (opens_word _ d (by simp)) [c] ?_
  simpa using Ne.symm (other d rfl)

theorem remove_stands (front back : List Char) (filled : token ≠ []) (skips : Skips (word (String.ofList token)) front) :
    removeFirst token (front ++ (token ++ back)) = front ++ back := by
  have removed := remove_first_misses (String.ofList token) front (token ++ back) (skips _)
  rw [String.toList_ofList, remove_first_front token back filled] at removed
  exact removed

variable (filled : token ≠ []) (tight : Tight token)

include filled tight

theorem remove_behind (gap text : List Char) (blank : ∀ c ∈ gap, isBlank c = true) :
    removeFirst token (gap ++ text) = gap ++ removeFirst token text := by
  have skips : Skips (word (String.ofList token)) gap := by
    obtain ⟨d, more, rfl⟩ := List.exists_cons_of_ne_nil filled
    refine skips_unopened _ d (opens_word _ d (by simp)) gap fun member => ?_
    have solid := tight.1 d rfl
    rw [blank d member] at solid
    cases solid
  have removed := remove_first_misses (String.ofList token) gap text (skips _)
  rwa [String.toList_ofList] at removed

theorem remove_before (text tail : List Char) (blank : ∀ c ∈ tail, isBlank c = true) :
    removeFirst token (text ++ tail) = removeFirst token text ++ tail := by
  induction text with
  | nil =>
      have removed := remove_behind token filled tight tail [] blank
      rw [List.append_nil] at removed
      rw [List.nil_append, removed]
      simp [removeFirst]
  | cons c text ih =>
      rw [List.cons_append, removeFirst, removeFirst]
      cases here : dropWord? token (c :: text) with
      | some rest =>
          have shape := (drop_word_some _ _ _).mp here
          have longer : dropWord? token (c :: (text ++ tail)) = some (rest ++ tail) := by
            rw [drop_word_some, ← List.cons_append, shape, List.append_assoc]
          rw [longer]
      | none =>
          have missed : dropWord? token (c :: (text ++ tail)) = none := by
            by_contra found
            obtain ⟨after, dropped⟩ := Option.ne_none_iff_exists'.mp found
            have shape := (drop_word_some _ _ _).mp dropped
            rw [← List.cons_append] at shape
            rcases List.append_eq_append_iff.mp shape with ⟨more, whole, split⟩ | ⟨more, whole, _⟩
            · by_cases nothing : more = []
              · rw [nothing, List.append_nil] at whole
                rw [(drop_word_some token (c :: text) []).mpr (by rw [whole, List.append_nil])] at here
                cases here
              · -- The token would end in a blank of the tail.
                have ends : token.getLast? = some (more.getLast nothing) := by
                  rw [whole, List.getLast?_append_of_ne_nil _ nothing, List.getLast?_eq_some_getLast]
                have solid := tight.2 _ ends
                rw [blank _ (by rw [split]; exact List.mem_append_left _ (List.getLast_mem nothing))] at solid
                cases solid
            · rw [(drop_word_some token (c :: text) more).mpr whole] at here
              cases here
          rw [missed, ih]
          rfl

theorem remove_trimmed (text : List Char) : trim (removeFirst token (trim text)) = trim (removeFirst token text) := by
  obtain ⟨gap, tail, shape, blank, blankTail⟩ := trim_parts text
  have removed : removeFirst token text = gap ++ (removeFirst token (trim text) ++ tail) := by
    rw [← remove_before token filled tight _ tail blankTail, ← remove_behind token filled tight gap _ blank, ← shape]
  have lead (rest : List Char) : trim (gap ++ rest) = trim rest := by
    rw [trim, trim, trimLeft, List.dropWhile_append_of_pos blank]
    rfl
  rw [removed, lead, trim_gap _ tail blankTail]

end Occurrences

section Rows

variable (taken : Piece → Bool)

def kept (pieces : List Piece) : List Piece :=
  pieces.filter fun piece => !taken piece

theorem kept_cons (piece : Piece) (rest : List Piece) :
    kept taken (piece :: rest) = if taken piece then kept taken rest else piece :: kept taken rest := by
  cases own : taken piece with
  | true => exact List.filter_cons_of_neg (by simp [own])
  | false => exact List.filter_cons_of_pos (by simp [own])

-- No piece that stays holds a copy of a piece that is taken behind it.
def Unhidden (pieces : List Piece) : Prop :=
  pieces.Pairwise fun piece later => taken later = true → taken piece = false →
    Skips (word (String.ofList later.letters)) piece.letters

theorem removed_from (front back : List Piece) (unhidden : Unhidden taken back)
    (clear : ∀ piece ∈ front, ∀ later ∈ back, taken later = true → Skips (word (String.ofList later.letters)) piece.letters) :
    (back.filter taken).foldl (fun text piece => removeFirst piece.letters text) (spell front ++ spell back) =
      spell front ++ spell (kept taken back) := by
  induction back generalizing front with
  | nil => rfl
  | cons piece back ih =>
      obtain ⟨behind, later⟩ := List.pairwise_cons.mp unhidden
      cases own : taken piece with
      | true =>
          have skips : Skips (word (String.ofList piece.letters)) (spell front) :=
            skips_flat_map _ front Piece.letters fun other member => clear other member piece List.mem_cons_self own
          rw [List.filter_cons_of_pos own, List.foldl_cons, spell_cons, remove_stands _ _ _ (letters_filled piece) skips, kept_cons,
            if_pos own]
          exact ih front later fun other member next inside => clear other member next (List.mem_cons_of_mem _ inside)
      | false =>
          have further := ih (front ++ [piece]) later fun other member next inside accepted => ?_
          · rw [spell_append, spell_cons, show spell [] = [] from rfl, List.append_nil, List.append_assoc, List.append_assoc] at further
            rw [List.filter_cons_of_neg (by simp [own]), spell_cons, further, kept_cons, if_neg (by simp [own]), spell_cons]
          · rcases List.mem_append.mp member with before | same
            · exact clear other before next (List.mem_cons_of_mem _ inside) accepted
            · rw [List.mem_singleton.mp same]
              exact behind next inside accepted own

theorem removed_all (pieces : List Piece) (unhidden : Unhidden taken pieces) :
    (pieces.filter taken).foldl (fun text piece => removeFirst piece.letters text) (spell pieces) = spell (kept taken pieces) :=
  removed_from taken [] pieces unhidden (by simp)

-- The blanks at the ends are cut after each removal, which is the same as cutting them once at the end.
theorem taken_trimmed (pieces : List Piece) (tight : ∀ piece ∈ pieces, Tight piece.letters) (text other : List Char)
    (same : trim text = trim other) :
    trim (pieces.foldl (fun text piece => Rule.take piece.letters text) text) =
      trim (pieces.foldl (fun text piece => removeFirst piece.letters text) other) := by
  induction pieces generalizing text other with
  | nil => exact same
  | cons piece pieces ih =>
      refine ih (fun later member => tight later (List.mem_cons_of_mem piece member)) _ _ ?_
      have own := tight piece List.mem_cons_self
      change trim (trim (removeFirst piece.letters text)) = trim (removeFirst piece.letters other)
      rw [trim_trim, ← remove_trimmed _ (letters_filled piece) own text, same,
        remove_trimmed _ (letters_filled piece) own other]

def left (pieces : List Piece) : List Char :=
  if pieces.any taken then trim (spell (kept taken pieces)) else spell pieces

theorem taken_in_turn (pieces : List Piece) (unhidden : Unhidden taken pieces)
    (tight : ∀ piece ∈ pieces, taken piece = true → Tight piece.letters) :
    (pieces.filter taken).foldl (fun text piece => Rule.take piece.letters text) (spell pieces) = left taken pieces := by
  have each : ∀ piece ∈ pieces.filter taken, Tight piece.letters := fun piece member =>
    tight piece (List.mem_of_mem_filter member) (List.mem_filter.mp member).2
  have trimmed := taken_trimmed (pieces.filter taken) each (spell pieces) _ rfl
  rw [removed_all taken pieces unhidden] at trimmed
  rw [left]
  by_cases some : pieces.any taken = true
  · obtain ⟨piece, member, own⟩ := List.any_eq_true.mp some
    have filled : pieces.filter taken ≠ [] := List.ne_nil_of_mem (List.mem_filter.mpr ⟨member, own⟩)
    obtain ⟨before, last, shape⟩ := (List.eq_nil_or_concat (pieces.filter taken)).resolve_left filled
    rw [if_pos some, ← trimmed, shape, List.concat_eq_append, List.foldl_append]
    exact (trim_trim _).symm
  · have none : pieces.filter taken = [] := by simpa using some
    rw [if_neg some, none]
    rfl

theorem trim_left_row (pieces : List Piece) : ∃ rest, rest.Sublist pieces ∧ trimLeft (spell pieces) = spell rest := by
  induction pieces with
  | nil => exact ⟨[], List.Sublist.refl _, rfl⟩
  | cons piece pieces ih =>
      by_cases gap : ∃ c, piece = .letter c ∧ isBlank c = true
      · obtain ⟨c, rfl, blank⟩ := gap
        obtain ⟨rest, sublist, same⟩ := ih
        exact ⟨rest, sublist.cons _, by rw [← same]; exact List.dropWhile_cons_of_pos blank⟩
      · refine ⟨piece :: pieces, List.Sublist.refl _, (drop_blanks_unchanged _).mpr fun c head => ?_⟩
        cases piece with
        | letter d =>
            obtain rfl : d = c := by simpa [spell_cons, Piece.letters] using head
            simpa using fun blank => gap ⟨d, rfl, blank⟩
        | tag family body =>
            obtain rfl : family.opening = c := by simpa [spell_cons, Piece.letters, enclosed] using head
            cases family <;> decide

theorem trim_right_row (pieces : List Piece) : ∃ rest, rest.Sublist pieces ∧ trimRight (spell pieces) = spell rest := by
  induction pieces using List.reverseRecOn with
  | nil => exact ⟨[], List.Sublist.refl _, rfl⟩
  | append_singleton pieces piece ih =>
      have whole : spell (pieces ++ [piece]) = spell pieces ++ piece.letters := by
        rw [spell_append, spell_cons, show spell [] = [] from rfl, List.append_nil]
      by_cases gap : ∃ c, piece = .letter c ∧ isBlank c = true
      · obtain ⟨c, rfl, blank⟩ := gap
        obtain ⟨rest, sublist, same⟩ := ih
        refine ⟨rest, sublist.trans (List.sublist_append_left _ _), ?_⟩
        rw [whole, ← same, trimRight, trimRight, Piece.letters, List.reverse_append, List.reverse_singleton, List.singleton_append,
          List.dropWhile_cons_of_pos blank]
      · refine ⟨pieces ++ [piece], List.Sublist.refl _, ?_⟩
        obtain ⟨c, last, solid⟩ : ∃ c, piece.letters.getLast? = some c ∧ isBlank c = false := by
          cases piece with
          | letter d => exact ⟨d, rfl, by simpa using fun blank => gap ⟨d, rfl, blank⟩⟩
          | tag family body =>
              refine ⟨family.closing, ?_, by cases family <;> decide⟩
              rw [Piece.letters, enclosed, ← List.cons_append, List.getLast?_concat]
        refine trim_right_solid _ c ?_ solid
        rw [whole, List.getLast?_append_of_ne_nil _ (letters_filled piece), last]

-- What is left is again a row of pieces, and none of them would be taken.
theorem left_row (pieces : List Piece) : ∃ rest, rest.Sublist pieces ∧ (∀ piece ∈ rest, taken piece = false) ∧
    left taken pieces = spell rest := by
  rw [left]
  by_cases some : pieces.any taken = true
  · obtain ⟨first, sublistFirst, sameFirst⟩ := trim_left_row (kept taken pieces)
    obtain ⟨rest, sublist, same⟩ := trim_right_row first
    have inside := sublist.trans sublistFirst
    refine ⟨rest, inside.trans (List.filter_sublist), fun piece member => ?_, ?_⟩
    · simpa using (List.mem_filter.mp (inside.subset member)).2
    · rw [if_pos some, trim, sameFirst, same]
  · exact ⟨pieces, List.Sublist.refl _, by simpa using some, if_neg some⟩

end Rows

end TaggedStory.Tag
