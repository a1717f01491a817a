import TaggedStory.Node.Mark
/-!
The text of tasks.
-/
set_option autoImplicit false

namespace TaggedStory.Task

open Decimal Text Tag Mark

def taskCount : Scanner (List Char) := do
  Scanner.word "[任务节点"
  colon
  let count ← digits
  char ']'
  return count

def rules : List (Rule (NodeOf Task)) := [
  .first "task" taskCount fun node count => (wholeFrom count).map fun most =>
    some (node.updateBody fun task => { task with maxDisplayCount := most })]

def finish (remainder : List Char) (node : NodeOf Task) : NodeOf Task :=
  let name := orElse (String.ofList (clean remainder)) "任务节点"
  node.mapHeader (named name name)

def tagText (node : NodeOf Task) : String :=
  "[任务节点:" ++ String.ofList (intText node.body.maxDisplayCount) ++ "]" ++ node.header.name

end TaggedStory.Task
