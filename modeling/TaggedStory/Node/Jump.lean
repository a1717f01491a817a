import TaggedStory.Node.Mark
/-!
The text of jumps. The text after the mark is the target, so a description stands in front of it.
-/
set_option autoImplicit false

namespace TaggedStory.Jump

open Text Tag Mark

def isTargetChar (c : Char) : Bool :=
  c ≠ '[' && c ≠ ']' && c ≠ '<' && c ≠ '>' && c ≠ '《' && c ≠ '》' && c ≠ '\x7b' && c ≠ '\x7d'

def target : Scanner (List Char) := do
  Scanner.word jumpWord
  Scanner.many isTargetChar

def rules : List (Rule (NodeOf Jump)) := [
  .drop "ad" ad,
  onBody "jump" target fun name jump => { jump with point := trimmedText name },
  flagBody "death" deathWord fun jump => { jump with isDeadpoint := true },
  flagBody "reset_to_checkpoint" resetWord fun jump => { jump with isReset := true },
  effectRule fun _ node => node]

def plainDescription (point : String) : String :=
  "跳转到: " ++ point

def finish (remainder : List Char) (node : NodeOf Jump) : NodeOf Jump :=
  let cleaned := String.ofList (clean remainder)
  let point := node.body.point
  let title := "跳转节点: " ++ point
  if cleaned = "" then
    { header := named "跳转节点" title node.header
      body := { node.body with description := plainDescription point } }
  else
    { header := named cleaned title node.header
      body := { node.body with description := cleaned } }

def tagText (jump : Jump) : String :=
  let description :=
    if jump.description = plainDescription jump.point then "" else jump.description
  description ++ (if jump.isDeadpoint then deathWord else "") ++
    (if jump.isReset then resetWord else "") ++ jumpWord ++ jump.point

end TaggedStory.Jump
