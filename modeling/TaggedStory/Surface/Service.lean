import TaggedStory.Document.Format
import TaggedStory.Document.Template
import TaggedStory.Story.Validation
/-!
Requests of the conversion service and their answers. A document whose outer structure is wrong, and
a node that is no record, are the caller's problem and are refused with a status; any other fault is
passed on.
-/
set_option autoImplicit false

namespace TaggedStory.Service

/-- What a refusal tells the caller. -/
inductive Detail where
  | text (message : String)
  | document (problem : Malformed)
  | issues (issues : List Issue)

inductive Failure where
  | refused (status : Nat) (detail : Detail)
  | fault (fault : Fault)

abbrev Answer (α : Type) := Except Failure α

def passed {α : Type} : Attempt α → Answer α
  | .ok value => .ok value
  | .error fault => .error (.fault fault)

structure ParseRequest where
  text : String := ""
  kind : Option Kind := none
  entity : String := textEntity

def optionalKind : Codec (Option Kind) where
  read
    | .null => .ok none
    | value => ((Record.member Kind.ofWord? Kind.word).read value).map some
  write kind := kind.elim .null fun kind => .str kind.word
  brief kind := kind.elim .null fun kind => .str kind.word

def ParseRequest.schema : Schema ParseRequest :=
  .closed {} [
    .required "text" "text" Record.text text fun x r => { r with text := x },
    .of "kind" "kind" optionalKind kind fun x r => { r with kind := x },
    .of "entity_type" "entity_type" Record.text entity fun x r => { r with entity := x }]

structure WriteRequest where
  node : Json.Fields := []
  isStart : Bool := false

def WriteRequest.schema : Schema WriteRequest :=
  .closed {} [
    .required "node" "node" Record.object node fun x r => { r with node := x },
    .of "is_start" "is_start" Record.flag isStart fun x r => { r with isStart := x }]

def parseNode (body : Json) : Answer Json := passed do
  let request ← ParseRequest.schema.read body
  let node ← Node.parse request.text request.kind request.entity {}
  return node.write

def writeNode (body : Json) : Answer Json := do
  let request ← passed (WriteRequest.schema.read body)
  match Node.read (.obj request.node) with
  | .ok node =>
    let text ← passed (node.text request.isStart)
    return .obj [("text", .str text)]
  | .error (.invalid issues) => .error (.refused 422 (.issues issues))
  | .error fault => .error (.fault fault)

/-- Refuses what is wrong with a document itself. -/
def loaded : Attempt Graph → Answer Graph
  | .ok graph => .ok graph
  | .error (.malformed problem) => .error (.refused 422 (.document problem))
  | .error (.unknownOperator token) =>
    .error (.refused 400 (.text (Fault.unknownOperator token).message))
  | .error (.unknownOperation token) =>
    .error (.refused 400 (.text (Fault.unknownOperation token).message))
  | .error fault => .error (.fault fault)

/-- Documents in an answer have finite numbers only. -/
def converted (graph : Attempt Graph) (target : Format) : Answer Json := do
  let graph ← loaded graph
  let document ← passed (target.write graph)
  return .obj [
    ("document", document.finiteOnly),
    ("diagnostics", Diagnostics.schema.write graph.diagnostics)]

def convert (source target : Format) (body : Json) : Answer Json :=
  converted (source.load body Template.none) target

/-- The form of a request, where an empty word leaves it to the document. -/
def formatOf (word : Option String) : Attempt (Option Format) :=
  match word with
  | some word => if word = "" then .ok none else (Format.ofWord word).map some
  | none => .ok none

def showGraph (source : Option String) (body : Json) : Answer Json := do
  let format ← passed (formatOf source)
  converted (Graph.load body format Template.none) .visualGraph

def validate (options : ValidationOptions) (body : Json) : Answer Json := do
  let graph ← loaded (Graph.load body none Template.none)
  let flaws := graph.flaws options
  return .obj [
    ("valid", .bool flaws.isEmpty),
    ("errors", Json.ofTexts (flaws.map Flaw.message))]

def version : String := "0.1.0"

def root : Json :=
  .obj [("message", .str "Storyflow 转换 API"), ("version", .str version), ("docs", .str "/docs")]

def health : Json :=
  .obj [("status", .str "healthy")]

end TaggedStory.Service
