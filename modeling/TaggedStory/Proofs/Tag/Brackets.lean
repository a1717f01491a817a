import Mathlib.Data.List.Forall2
import TaggedStory.Proofs.Tag.Enclosure
import TaggedStory.Proofs.Tag.Taking
/-!
Bracket tags that may be absent, each known by how it begins. A recogniser that refuses every
beginning finds nothing in a row of them.
-/
set_option autoImplicit false

namespace TaggedStory.Tag

open Text Scanner

variable {α : Type}

def isOpening (c : Char) : Bool :=
  c == '[' || c == '《' || c == '<' || c == '\x7b'

theorem opening_sign (c : Char) (opening : isOpening c = true) : isSign c = true := by
  simp only [isOpening, Bool.or_eq_true, beq_iff_eq, or_assoc] at opening
  rcases opening with rfl | rfl | rfl | rfl <;> decide

theorem unsigned_unopened (c : Char) (unsigned : isSign c = false) : isOpening c = false := by
  cases opening : isOpening c with
  | false => rfl
  | true =>
      rw [opening_sign c opening] at unsigned
      cases unsigned

theorem plain_unopened (text : String) (plain : Plain text) : ∀ c ∈ text.toList, isOpening c = false :=
  fun c member => unsigned_unopened c (plain.unsigned c member)

theorem unopened_absent (text : List Char) (unopened : ∀ c ∈ text, isOpening c = false) (sign : Char)
    (opening : isOpening sign = true) : sign ∉ text := by
  intro member
  rw [unopened sign member] at opening
  cases opening

def Bracketed (lead : String) (piece : List Char) : Prop :=
  piece = [] ∨ ∃ inner, piece = '[' :: (inner ++ [']']) ∧ lead.toList <+: piece ∧
    ∀ c ∈ inner, isOpening c = false ∧ isWide c = false

theorem bracketed_empty (lead : String) : Bracketed lead "".toList :=
  .inl rfl

theorem bracketed_literal (word : String) (shape : word.toList = '[' :: (word.toList.tail.dropLast ++ [']']))
    (quiet : ∀ c ∈ word.toList.tail.dropLast, isOpening c = false ∧ isWide c = false) : Bracketed word word.toList :=
  .inr ⟨word.toList.tail.dropLast, shape, List.prefix_rfl, quiet⟩

theorem bracketed_flag (flag : Bool) (word : String) (shape : word.toList = '[' :: (word.toList.tail.dropLast ++ [']']))
    (quiet : ∀ c ∈ word.toList.tail.dropLast, isOpening c = false ∧ isWide c = false) :
    Bracketed word (if flag then word else "").toList := by
  cases flag with
  | false => exact bracketed_empty word
  | true => exact bracketed_literal word shape quiet

theorem bracketed_valued (lead : String) (value : List Char) (shape : lead.toList = '[' :: lead.toList.tail)
    (quietLead : ∀ c ∈ lead.toList.tail, isOpening c = false ∧ isWide c = false)
    (quiet : ∀ c ∈ value, isOpening c = false ∧ isWide c = false) : Bracketed lead (lead.toList ++ (value ++ [']'])) := by
  refine .inr ⟨lead.toList.tail ++ value, ?_, List.prefix_append _ _, fun c member => ?_⟩
  · rw [← List.append_assoc, shape]
    rfl
  · exact (List.mem_append.mp member).elim (quietLead c) (quiet c)

theorem bracketed_shorter (lead short : String) (piece : List Char) (leads : short.toList <+: lead.toList)
    (bracketed : Bracketed lead piece) : Bracketed short piece := by
  rcases bracketed with rfl | ⟨inner, shape, longer, quiet⟩
  · exact .inl rfl
  · exact .inr ⟨inner, shape, leads.trans longer, quiet⟩

theorem plain_quiet (text : String) (plain : Plain text) : ∀ c ∈ text.toList, isOpening c = false ∧ isWide c = false :=
  fun c member => ⟨plain_unopened text plain c member, plain.halfWidth c member⟩

section Bracketed

variable (lead : String) (piece : List Char) (bracketed : Bracketed lead piece)

include bracketed

theorem bracketed_tame : Tame ['《', '<', '\x7b'] piece := by
  rcases bracketed with rfl | ⟨inner, rfl, _, quiet⟩
  · exact Tame.nil
  · refine Tame.enclosed '[' ']' inner (by decide) (by decide) (by decide) (fun c member => ?_) fun c member => (quiet c member).2
    have opening : ∀ sign ∈ ['《', '<', '\x7b'], isOpening sign = true := by decide
    intro sign
    have open_sign := opening c sign
    rw [(quiet c member).1] at open_sign
    cases open_sign

theorem bracketed_skips (s : Scanner α) (opens : Opens s '[') (refuses : Refuses s lead.toList) : Skips s piece := by
  intro rest
  rcases bracketed with rfl | ⟨inner, rfl, ⟨tail, shape⟩, unopened⟩
  · trivial
  · refine ⟨?_, misses_unopened s '[' opens _ _ ?_⟩
    · rw [← List.cons_append, ← shape, List.append_assoc]
      exact refuses _
    · rw [List.mem_append, List.mem_singleton]
      rintro (member | same)
      · exact unopened_absent inner (fun c member => (unopened c member).1) '[' (by decide) member
      · exact absurd same (by decide)

end Bracketed

theorem row_from (pieces : List (List Char)) (n : Nat) (piece : List Char) (stands : pieces[n]? = some piece) :
    (pieces.drop n).flatten = piece ++ (pieces.drop (n + 1)).flatten := by
  obtain ⟨bound, get⟩ := List.getElem?_eq_some_iff.mp stands
  rw [List.drop_eq_getElem_cons bound, get, List.flatten_cons]

section Rows

variable (leads : List String) (pieces : List (List Char)) (row : List.Forall₂ Bracketed leads pieces)

include row

theorem row_tame : Tame ['《', '<', '\x7b'] pieces.flatten := by
  induction row with
  | nil => exact Tame.nil
  | cons bracketed _ ih =>
      rw [List.flatten_cons]
      exact Tame.append _ _ (bracketed_tame _ _ bracketed) ih

theorem row_skips (s : Scanner α) (opens : Opens s '[') (refuses : ∀ lead ∈ leads, Refuses s lead.toList) :
    Skips s pieces.flatten := by
  induction row with
  | nil => exact skips_nil s
  | cons bracketed _ ih =>
      rw [List.flatten_cons]
      exact skips_append s _ _ (bracketed_skips _ _ bracketed s opens (refuses _ List.mem_cons_self))
        (ih fun lead member => refuses lead (List.mem_cons_of_mem _ member))

-- Nothing is found in a row of other tags and an ending without brackets.
theorem row_missed (s : Scanner α) (opens : Opens s '[') (refuses : ∀ lead ∈ leads, Refuses s lead.toList)
    (ending : List Char) (clear : '[' ∉ ending) : s.Misses (pieces.flatten ++ ending) [] :=
  (s.misses_append _ _ _).mpr
    ⟨row_skips leads pieces row s opens refuses _, s.misses_unopened '[' opens _ _ clear⟩

theorem row_absent (s : Scanner α) (opens : Opens s '[') (refuses : ∀ lead ∈ leads, Refuses s lead.toList)
    (ending : List Char) (clear : '[' ∉ ending) : s.first? (pieces.flatten ++ ending) = none :=
  s.first_none _ (row_missed leads pieces row s opens refuses ending clear)

end Rows

end TaggedStory.Tag
