/-!
A statement about the characters of a text is decided along the text, and not by trying all characters.
-/
set_option autoImplicit false

namespace TaggedStory.Text

section Members

variable {p : Char → Prop} [DecidablePred p]

instance (priority := 2000) decideEvery (text : List Char) : Decidable (∀ c, c ∈ text → p c) :=
  List.decidableBAll p text

instance (priority := 2000) decideEnd (found : Option Char) : Decidable (∀ c, c ∈ found → p c) :=
  match found with
  | none => isTrue fun _ member => by cases member
  | some c => decidable_of_iff (p c) ⟨fun holds _ member => Option.mem_some.mp member ▸ holds, fun each => each c rfl⟩

end Members

end TaggedStory.Text
