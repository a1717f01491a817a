import TaggedStory.Node.Text
import TaggedStory.Proofs.Text.Plain
/-!
A text in narrow form whose marks decide for a kind is read alike with this kind and without a hint.
-/
set_option autoImplicit false

namespace TaggedStory.Node

open Text

theorem parse_again (kind : Kind) (written : String) (header : Header) (node : Node)
    (half : ∀ c ∈ written.toList, isWide c = false) (classified : Kind.ofMarks written.toList = kind)
    (read : (parseAs kind written header).map Parsed.node = .ok node) (hint : Option Kind) (given : hint ∈ [none, some kind]) :
    Node.parse written hint textEntity header = .ok node := by
  have same : narrowed written = written := by rw [narrowed, narrow_half _ half, String.ofList_toList]
  have decided : hint.getD (Kind.classify written textEntity) = kind := by
    rw [List.mem_cons, List.mem_singleton] at given
    rcases given with rfl | rfl
    · rw [Option.getD_none, Kind.classify, if_neg (by decide), classified]
    · rfl
  rw [Node.parse, same, decided]
  exact read

end TaggedStory.Node
