/-!
Sets of characters given as sorted lists of closed ranges of code points.
-/
set_option autoImplicit false

namespace TaggedStory.Text

abbrev Ranges := List (Nat × Nat)

/-- The list is sorted, so the search stops at the first range that begins too late. -/
def Ranges.holds : Ranges → Nat → Bool
  | [], _ => false
  | (low, high) :: rest, n => if n < low then false else n ≤ high || Ranges.holds rest n

end TaggedStory.Text
