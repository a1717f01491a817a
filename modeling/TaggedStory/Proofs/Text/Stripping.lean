import Mathlib.Data.List.TakeWhile
import TaggedStory.Text.Blank
/-!
Texts that lose a class of characters at both ends. What is left stands between two runs of the class and neither begins
nor ends with it.
-/
set_option autoImplicit false

namespace TaggedStory.Text

section Stripping

variable (drop : Char → Bool) (text : List Char)

def strip : List Char :=
  ((text.dropWhile drop).reverse.dropWhile drop).reverse

-- None of the class at either end; the empty text has none.
def Stripped : Prop :=
  (∀ c ∈ text.head?, drop c = false) ∧ ∀ c ∈ text.getLast?, drop c = false

theorem drop_while_unchanged : text.dropWhile drop = text ↔ ∀ c ∈ text.head?, drop c = false := by
  cases text with
  | nil => simp
  | cons c text =>
      cases dropped : drop c with
      | false => simp [List.dropWhile, dropped]
      | true =>
          have shorter : (text.dropWhile drop).length ≤ text.length := (List.dropWhile_sublist _).length_le
          simp only [List.dropWhile, dropped, List.head?_cons, Option.mem_some_iff, forall_eq']
          constructor
          · intro same
            have lengths := congrArg List.length same
            rw [List.length_cons] at lengths
            omega
          · intro impossible
            cases impossible

theorem drop_while_head : ∀ c ∈ (text.dropWhile drop).head?, drop c = false := by
  intro c head
  have stopped := List.head?_dropWhile_not drop text
  rw [Option.mem_def.mp head] at stopped
  simpa using stopped

theorem strip_front : strip drop text <+: text.dropWhile drop := by
  have suffix := List.dropWhile_suffix (l := (text.dropWhile drop).reverse) drop
  have shape := List.reverse_prefix.mpr suffix
  rwa [List.reverse_reverse] at shape

theorem strip_inside : strip drop text <:+: text :=
  (strip_front drop text).isInfix.trans (List.dropWhile_suffix drop).isInfix

theorem strip_stripped : Stripped drop (strip drop text) := by
  refine ⟨fun c head => ?_, fun c last => ?_⟩
  · obtain ⟨rest, shape⟩ := strip_front drop text
    refine drop_while_head drop text c ?_
    rw [← shape, List.head?_append, Option.mem_def.mp head]
    rfl
  · refine drop_while_head drop (text.dropWhile drop).reverse c ?_
    rwa [strip, List.getLast?_reverse] at last

theorem strip_parts : ∃ front back, text = front ++ (strip drop text ++ back) ∧ (∀ c ∈ front, drop c = true) ∧
    ∀ c ∈ back, drop c = true := by
  refine ⟨text.takeWhile drop, ((text.dropWhile drop).reverse.takeWhile drop).reverse, ?_,
    fun c member => List.mem_takeWhile_imp member, fun c member => List.mem_takeWhile_imp (List.mem_reverse.mp member)⟩
  rw [strip, ← List.reverse_append, List.takeWhile_append_dropWhile, List.reverse_reverse]
  exact List.takeWhile_append_dropWhile.symm

theorem strip_fixed : strip drop text = text ↔ Stripped drop text := by
  constructor
  · intro fixed
    exact fixed ▸ strip_stripped drop text
  · rintro ⟨first, last⟩
    have front : text.dropWhile drop = text := (drop_while_unchanged drop text).mpr first
    have back : text.reverse.dropWhile drop = text.reverse :=
      (drop_while_unchanged drop text.reverse).mpr (by simpa using last)
    rw [strip, front, back, List.reverse_reverse]

theorem stripped_front (front rest : List Char) (stripped : Stripped drop (front ++ rest))
    (dropped : ∀ c ∈ front, drop c = true) : front = [] := by
  cases front with
  | nil => rfl
  | cons c front =>
      have kept := stripped.1 c rfl
      rw [dropped c List.mem_cons_self] at kept
      cases kept

theorem stripped_reverse (stripped : Stripped drop text) : Stripped drop text.reverse :=
  ⟨by simpa using stripped.2, by simpa using stripped.1⟩

theorem stripped_back (rest back : List Char) (stripped : Stripped drop (rest ++ back))
    (dropped : ∀ c ∈ back, drop c = true) : back = [] := by
  have turned := stripped_reverse drop _ stripped
  rw [List.reverse_append] at turned
  exact List.reverse_eq_nil_iff.mp (stripped_front drop _ _ turned fun c member => dropped c (List.mem_reverse.mp member))

-- Where a text goes on with none of the class, its front of the class is given.
theorem front_unique (front other rest after : List Char) (dropped : ∀ c ∈ front, drop c = true)
    (droppedOther : ∀ c ∈ other, drop c = true) (stops : ∀ c ∈ rest.head?, drop c = false)
    (stopsAfter : ∀ c ∈ after.head?, drop c = false) (same : front ++ rest = other ++ after) :
    front = other ∧ rest = after := by
  have rests : rest = after := by
    have shorter := congrArg (List.dropWhile drop) same
    rwa [List.dropWhile_append_of_pos dropped, List.dropWhile_append_of_pos droppedOther,
      (drop_while_unchanged drop rest).mpr stops, (drop_while_unchanged drop after).mpr stopsAfter] at shorter
  subst rests
  exact ⟨List.append_cancel_right same, rfl⟩

end Stripping

end TaggedStory.Text
