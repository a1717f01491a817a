import TaggedStory.Proofs.Tag.Cleaning
import TaggedStory.Tag.Rule
/-!
Texts as rows of letters and tags. A recogniser that decides on each piece of a row finds and erases whole pieces, and what
is removed by its first occurrence is the piece itself when no piece before it holds a copy.
-/
set_option autoImplicit false

namespace TaggedStory.Tag

open Text Scanner

inductive Family where
  | guillemet
  | angle
deriving DecidableEq

namespace Family

def opening : Family → Char
  | guillemet => '《'
  | angle => '<'

def closing : Family → Char
  | guillemet => '》'
  | angle => '>'

def span (family : Family) : Scanner (List Char) :=
  Tag.span family.opening family.closing

end Family

inductive Piece where
  | letter (c : Char)
  | tag (family : Family) (body : List Char)
deriving DecidableEq

namespace Piece

def letters : Piece → List Char
  | letter c => [c]
  | tag family body => enclosed family.opening family.closing body

-- What a tag of the family holds; there is no empty tag.
def body? (family : Family) : Piece → Option (List Char)
  | letter _ => none
  | tag other body => if other = family ∧ body ≠ [] then some body else none

end Piece

def spell (pieces : List Piece) : List Char :=
  pieces.flatMap Piece.letters

-- Every tag of the family stands as one piece: an opening sign that stands alone is never closed.
def Closed (family : Family) : List Piece → Prop
  | [] => True
  | .letter c :: rest => (c = family.opening → family.closing ∉ spell rest) ∧ Closed family rest
  | .tag other body :: rest =>
      (if other = family then family.closing ∉ body else family.opening ∉ body) ∧ Closed family rest

instance decideClosed (family : Family) : (pieces : List Piece) → Decidable (Closed family pieces)
  | [] => isTrue trivial
  | .letter c :: rest =>
      have := decideClosed family rest
      inferInstanceAs (Decidable ((c = family.opening → family.closing ∉ spell rest) ∧ Closed family rest))
  | .tag other body :: rest =>
      have := decideClosed family rest
      inferInstanceAs (Decidable ((if other = family then family.closing ∉ body else family.opening ∉ body) ∧ Closed family rest))

theorem letters_filled (piece : Piece) : piece.letters ≠ [] := by
  cases piece <;> exact List.cons_ne_nil _ _

theorem spell_cons (piece : Piece) (rest : List Piece) : spell (piece :: rest) = piece.letters ++ spell rest :=
  List.flatMap_cons

theorem spell_append (front back : List Piece) : spell (front ++ back) = spell front ++ spell back :=
  List.flatMap_append

theorem spell_sublist (pieces kept : List Piece) (sublist : kept.Sublist pieces) : (spell kept).Sublist (spell pieces) := by
  induction sublist with
  | slnil => exact List.Sublist.refl _
  | cons piece _ ih => exact ih.trans (List.sublist_append_right _ _)
  | cons_cons piece _ ih => exact (List.Sublist.refl piece.letters).append ih

theorem closed_sublist (family : Family) (pieces kept : List Piece) (sublist : kept.Sublist pieces)
    (closed : Closed family pieces) : Closed family kept := by
  induction sublist with
  | slnil => trivial
  | cons piece _ ih => cases piece <;> exact ih closed.2
  | cons_cons piece sublist ih =>
      cases piece with
      | letter c => exact ⟨fun same member => closed.1 same ((spell_sublist _ _ sublist).subset member), ih closed.2⟩
      | tag other body => exact ⟨closed.1, ih closed.2⟩

-- Every text is such a row.
theorem closed_exists (family : Family) (text : List Char) : ∃ pieces, Closed family pieces ∧ spell pieces = text := by
  induction size : text.length using Nat.strong_induction_on generalizing text with
  | _ n ih =>
      cases text with
      | nil => exact ⟨[], trivial, rfl⟩
      | cons c text =>
          by_cases closes : c = family.opening ∧ family.closing ∈ text
          · obtain ⟨rfl, stays⟩ := closes
            obtain ⟨body, rest, rfl, first⟩ := List.eq_append_cons_of_mem stays
            obtain ⟨pieces, closed, rfl⟩ := ih rest.length (by rw [← size]; simp; omega) rest rfl
            refine ⟨.tag family body :: pieces, ⟨by rwa [if_pos rfl], closed⟩, ?_⟩
            simp [spell_cons, Piece.letters, enclosed]
          · obtain ⟨pieces, closed, rfl⟩ := ih text.length (by rw [← size]; exact Nat.lt_succ_self _) text rfl
            exact ⟨.letter c :: pieces, ⟨fun same member => closes ⟨same, member⟩, closed⟩, rfl⟩

section Scanning

variable {α : Type} (s : Scanner α) (value : Piece → Option α)

-- The recogniser reads a piece whole or finds nothing at any place of it.
def Decides : List Piece → Prop
  | [] => True
  | piece :: rest =>
      (match value piece with
        | some found => Reads s piece.letters found
        | none => Misses s piece.letters (spell rest)) ∧ Decides rest

theorem decides_all (pieces : List Piece) (decides : Decides s value pieces) :
    s.all (spell pieces) = pieces.filterMap fun piece => (value piece).map fun found => ⟨piece.letters, found⟩ := by
  induction pieces with
  | nil => rfl
  | cons piece rest ih =>
      obtain ⟨here, later⟩ := decides
      rw [spell_cons, List.filterMap_cons]
      cases found : value piece with
      | none =>
          rw [found] at here
          rw [s.all_misses _ _ here, ih later]
          rfl
      | some body =>
          rw [found] at here
          rw [s.all_reads _ body (letters_filled piece) here, ih later]
          rfl

theorem decides_erase (pieces : List Piece) (decides : Decides s value pieces) :
    s.erase (spell pieces) = spell (pieces.filter fun piece => (value piece).isNone) := by
  induction pieces with
  | nil => rfl
  | cons piece rest ih =>
      obtain ⟨here, later⟩ := decides
      rw [spell_cons]
      cases found : value piece with
      | none =>
          rw [found] at here
          rw [s.erase_misses _ _ here, ih later, List.filter_cons_of_pos (by simp [found]), spell_cons]
      | some body =>
          rw [found] at here
          rw [s.erase_reads _ body (letters_filled piece) here, ih later, List.filter_cons_of_neg (by simp [found])]

end Scanning

section Families

variable {α : Type} (family : Family) (s : Scanner α) (value : Piece → Option α)

theorem closing_apart : family.opening ≠ family.closing := by
  cases family <;> decide

theorem other_signs (other : Family) (different : other ≠ family) :
    family.opening ≠ other.opening ∧ family.opening ≠ other.closing := by
  revert different
  cases family <;> cases other <;> decide

-- Only the tags of the own family are left to decide on.
theorem closed_decides (opens : Opens s family.opening) (needs : ∀ text, family.closing ∉ text → StateT.run s text = none)
    (letter : ∀ c, value (.letter c) = none) (others : ∀ other body, other ≠ family → value (.tag other body) = none)
    (pieces : List Piece) (closed : Closed family pieces)
    (own : ∀ body, .tag family body ∈ pieces → match value (.tag family body) with
      | some found => Reads s (Piece.tag family body).letters found
      | none => Skips s (Piece.tag family body).letters) : Decides s value pieces := by
  induction pieces with
  | nil => trivial
  | cons piece rest ih =>
      have later := fun closed => ih closed fun body member => own body (List.mem_cons_of_mem piece member)
      cases piece with
      | letter c =>
          refine ⟨?_, later closed.2⟩
          rw [letter]
          refine ⟨?_, trivial⟩
          by_cases same : c = family.opening
          · refine needs _ ?_
            rw [List.mem_cons, not_or, same]
            exact ⟨(closing_apart family).symm, closed.1 same⟩
          · exact opens c _ same
      | tag other body =>
          refine ⟨?_, later closed.2⟩
          by_cases same : other = family
          · subst same
            have here := own body List.mem_cons_self
            cases found : value (.tag other body) with
            | some result =>
                rw [found] at here
                exact here
            | none =>
                rw [found] at here
                exact here _
          · have absent : family.opening ∉ body := by simpa [same] using closed.1
            have apart := other_signs family other same
            rw [others other body same]
            exact misses_unopened s family.opening opens _ _ (by simp [Piece.letters, enclosed, absent, apart])

theorem closed_bodies (pieces : List Piece) (closed : Closed family pieces) (body : List Char)
    (member : .tag family body ∈ pieces) : family.closing ∉ body := by
  induction pieces with
  | nil => cases member
  | cons piece rest ih =>
      rcases List.mem_cons.mp member with rfl | later
      · simpa using closed.1
      · cases piece <;> exact ih closed.2 later

theorem closed_others (pieces : List Piece) (closed : Closed family pieces) (other : Family) (different : other ≠ family)
    (body : List Char) (member : .tag other body ∈ pieces) : family.opening ∉ (Piece.tag other body).letters := by
  induction pieces with
  | nil => cases member
  | cons piece rest ih =>
      rcases List.mem_cons.mp member with rfl | later
      · have absent : family.opening ∉ body := by simpa [different] using closed.1
        simp [Piece.letters, enclosed, absent, other_signs family other different]
      · cases piece <;> exact ih closed.2 later

-- No opening sign stands alone in front of a tag.
theorem closed_letters (pieces : List Piece) (closed : Closed family pieces) :
    pieces.Pairwise fun piece later => ∀ c body, piece = .letter c → later = .tag family body → c ≠ family.opening := by
  induction pieces with
  | nil => exact List.Pairwise.nil
  | cons piece rest ih =>
      have later : Closed family rest := by cases piece <;> exact closed.2
      refine List.Pairwise.cons (fun next member c body isLetter isTag same => ?_) (ih later)
      subst isLetter isTag
      refine closed.1 same (List.mem_flatMap.mpr ⟨_, member, ?_⟩)
      simp [Piece.letters, enclosed]

theorem span_decides (pieces : List Piece) (closed : Closed family pieces) :
    Decides family.span (Piece.body? family) pieces := by
  refine closed_decides family family.span _ (opens_span _ _) (fun text absent => ?_) (fun _ => rfl)
    (fun other body different => if_neg fun both => different both.1) pieces closed fun body member => ?_
  · cases run : StateT.run family.span text with
    | none => rfl
    | some pair =>
        obtain ⟨body, shape, _⟩ := span_encloses family.opening family.closing _ pair.2 pair.1 run
        exact absurd (by rw [shape]; simp) absent
  · by_cases empty : body = []
    · rw [Piece.body?, if_neg fun both => both.2 empty, empty]
      intro rest
      cases family <;> exact ⟨rfl, rfl, trivial⟩
    · rw [Piece.body?, if_pos ⟨rfl, empty⟩]
      exact reads_span _ _ body empty (closed_bodies family pieces closed body member)

end Families

end TaggedStory.Tag
