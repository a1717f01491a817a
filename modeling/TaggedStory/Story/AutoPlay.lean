import TaggedStory.Story.Graph
/-!
Which videos play on by themselves: those that no choice without early display follows.
-/
set_option autoImplicit false

namespace TaggedStory.Graph

/-- The node that an id stands for; of several the last one. -/
def named? (nodes : List Node) (id : String) : Option Node :=
  nodes.reverse.find? fun node => node.id = id

def isLateChoice (node : Node) : Bool :=
  match node.body with
  | .choice choice => !choice.offer.preDisplay
  | _ => false

/-- Whether a node waits for a choice among its successors. -/
def waits (nodes : List Node) (node : Node) : Bool :=
  node.next.any fun id => ((named? nodes id).map isLateChoice).getD false

def settleVideo (nodes : List Node) (node : Node) : Node :=
  match node.body with
  | .video video => { node with body := .video { video with autoPlayNext := !waits nodes node } }
  | _ => node

def settleAutoPlay (graph : Graph) : Graph :=
  { graph with nodes := graph.nodes.map (settleVideo graph.nodes) }

/-- How many videos wait for a choice. -/
def waitingCount (graph : Graph) : Nat :=
  (graph.nodes.filter fun node => node.kind = .video && waits graph.nodes node).length

end TaggedStory.Graph
