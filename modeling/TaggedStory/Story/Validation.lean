import TaggedStory.Story.Graph
/-!
Faults of a graph: ids that are missing or used twice, links and jumps that lead nowhere, and, on
demand, jump points that nothing uses and videos that lead nowhere.
-/
set_option autoImplicit false

namespace TaggedStory

inductive Flaw where
  | missingId
  | duplicateId (id : String)
  | missingTarget (id target : String)
  | noStart
  | unknownStart (id : String)
  | unknownJumpPoint (id point : String)
  | unusedJumpPoint (point : String)
  | deadEnd (id : String)
deriving DecidableEq, Repr

def Flaw.message : Flaw → String
  | missingId => "node.node_id is required"
  | duplicateId id => "duplicate node id: " ++ id
  | missingTarget id target => "node " ++ id ++ " links to missing node: " ++ target
  | noStart => "start node is not set"
  | unknownStart id => "start node not in graph: " ++ id
  | unknownJumpPoint id point =>
    "jump node " ++ id ++ " targets unknown jump point: " ++ point
  | unusedJumpPoint point => "unused jump point: " ++ point
  | deadEnd id => "video node " ++ id ++ " has no successors"

structure ValidationOptions where
  deadEnds : Bool := false
  unusedJumpPoints : Bool := false

namespace Graph

/-- The flaws of the ids of some nodes, where the ids in `seen` stand before them. -/
def idFlaws (seen : List String) : List Node → List Flaw
  | [] => []
  | node :: rest =>
    let flaws :=
      if node.id = "" then [.missingId]
      else if seen.contains node.id then [.duplicateId node.id]
      else []
    flaws ++ idFlaws (node.id :: seen) rest

def ids (graph : Graph) : List String :=
  graph.nodes.map (·.id)

def linkFlaws (graph : Graph) : List Flaw :=
  graph.nodes.flatMap fun node =>
    (node.next.filter fun target => !graph.ids.contains target).map fun target =>
      .missingTarget node.id target

def startFlaws (graph : Graph) : List Flaw :=
  if graph.nodes.isEmpty then []
  else if graph.startName = "" then [.noStart]
  else if graph.ids.contains graph.startName then []
  else [.unknownStart graph.startName]

def jumpPointOf? (node : Node) : Option String :=
  match node.body with
  | .video video =>
    if video.isJumpPoint && video.jumpPointId ≠ "" then some video.jumpPointId else none
  | _ => none

def jumpTargetOf? (node : Node) : Option String :=
  match node.body with
  | .jump jump => some jump.point
  | _ => none

/-- The jump points of the videos, each once. -/
def jumpPoints (graph : Graph) : List String :=
  (graph.nodes.filterMap jumpPointOf?).eraseDups

def sorted (names : List String) : List String :=
  names.mergeSort fun a b => decide (a ≤ b)

def jumpFlaws (graph : Graph) : List Flaw :=
  graph.nodes.filterMap fun node =>
    match jumpTargetOf? node with
    | some point =>
      if graph.jumpPoints.contains point then none
      else some (.unknownJumpPoint node.id point)
    | none => none

def unusedFlaws (graph : Graph) : List Flaw :=
  let used := graph.nodes.filterMap jumpTargetOf?
  (sorted (graph.jumpPoints.filter fun point => !used.contains point)).map .unusedJumpPoint

def isDeadEnd (node : Node) : Bool :=
  match node.body with
  | .video video =>
    node.next.isEmpty && !(video.isEndpoint || video.isDeadpoint || video.isReset)
  | _ => false

def deadEndFlaws (graph : Graph) : List Flaw :=
  (graph.nodes.filter isDeadEnd).map fun node => .deadEnd node.id

def flaws (graph : Graph) (options : ValidationOptions) : List Flaw :=
  idFlaws [] graph.nodes ++ graph.linkFlaws ++ graph.startFlaws ++ graph.jumpFlaws ++
    (if options.unusedJumpPoints then graph.unusedFlaws else []) ++
    (if options.deadEnds then graph.deadEndFlaws else [])

end Graph

end TaggedStory
