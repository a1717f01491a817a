import TaggedStory.Document.Entity
import TaggedStory.Link.Association
import TaggedStory.Link.Network
/-!
What an interchange document holds: its readable entities, each at the place of its last occurrence,
its links, and what follows from the entities alone: which of them take no part in the story, how
far all are shifted, and where the story starts.
-/
set_option autoImplicit false

namespace TaggedStory.Interchange

open Decimal

def formatName : String := "interchange"

def malformed {α : Type} (fields : List String) (detail : Option String) : Attempt α :=
  .error (.malformed ⟨fields, formatName, detail⟩)

structure Content where
  entities : List Entity
  links : List Association

/-- A later entity with the same id replaces an earlier one and moves to the end. -/
def addEntity (entities : List Entity) (raw : Json) : List Entity :=
  match raw with
  | .obj entries =>
    if (Json.get "uuid" entries).isTrue then
      match Entity.schema.readFields entries with
      | .ok entity => (entities.filter fun other => other.uuid ≠ entity.uuid) ++ [entity]
      | .error _ => entities
    else entities
  | _ => entities

def readLink? : Json → Option Association
  | .obj entries =>
    if (Json.get "source" entries).isTrue && (Json.get "target" entries).isTrue then
      (Association.schema.readFields entries).toOption
    else none
  | _ => none

def linkItems (entries : Json.Fields) : Attempt (List Json) :=
  match Json.lookup? "associations" entries with
  | none => .ok []
  | some .null => .ok []
  | some (.arr items) => .ok items
  | some _ => malformed ["associations"] none

def readContent : Json → Attempt Content
  | .obj entries =>
    match Json.get "entities" entries with
    | .arr items => do
      let links ← linkItems entries
      return ⟨items.foldl addEntity [], links.filterMap readLink?⟩
    | _ => malformed ["entities"] none
  | _ => malformed ["entities"] (some "document is not an object")

def ignoreMark : String := "[X]"
def demoTitle : String := "提示语法案例"

def isSupported (entity : Entity) : Bool :=
  entity.type == textEntity || entity.type == imageEntity || entity.type == sectionEntity

/-- A section for demonstration keeps its children out of the story. -/
def isDemo (entity : Entity) : Bool :=
  Text.occurs demoTitle.toList (Text.narrow entity.text.toList)

def isIdle (entity : Entity) : Bool :=
  let text := entity.text.toList
  (Text.trim text).isEmpty || Text.occurs ignoreMark.toList text

/-- The ids that one entity keeps out of the story. -/
def skippedBy (entity : Entity) : List String :=
  if !isSupported entity then [entity.uuid]
  else if entity.type = sectionEntity then
    entity.uuid :: (if isDemo entity then entity.children.filter (· ≠ "") else [])
  else if entity.isImage then []
  else if isIdle entity then [entity.uuid]
  else []

def skipped (entities : List Entity) : List String :=
  (entities.flatMap skippedBy).eraseDups

def retained (entities : List Entity) : List Entity :=
  entities.filter fun entity => !(skipped entities).contains entity.uuid

/-- The least distance of a node from the upper left corner. -/
def margin : Double := Double.ofInt 200

def least (first : Double) (rest : List Double) : Double :=
  rest.foldl (fun low value => if value.lt low then value else low) first

def offsetFor (low : Double) : Double :=
  if low.lt margin then margin.sub low else .zero

def pointsOf : List Entity → Attempt (List (Double × Double))
  | [] => .ok []
  | entity :: rest => do
    let point ← entity.point?
    let others ← pointsOf rest
    return point.toList ++ others

/-- The shift that brings every node to the margin; none if no node has a place. -/
def placement (entities : List Entity) : Attempt Placement :=
  (pointsOf (retained entities)).map fun points =>
    match points with
    | [] => {}
    | (x, y) :: rest =>
      { offsetX := offsetFor (least x (rest.map (·.1)))
        offsetY := offsetFor (least y (rest.map (·.2))) }

def hasStartMark (entity : Entity) : Bool :=
  Text.occurs Mark.startWord.toList (Text.narrow entity.text.toList)

/-- The vertical coordinate of an entity, if it is written as a number. -/
def height? (entity : Entity) : Option Number :=
  match entity.location with
  | .int y :: _ :: _ => some (.whole y)
  | .float y :: _ :: _ => some (.real y)
  | _ => none

/-- The highest entity so far and its height. -/
def higher (best : Number × Option String) (entity : Entity) : Number × Option String :=
  match height? entity with
  | some y => if y.lt best.1 then (y, some entity.uuid) else best
  | none => best

/-- The first entity with the start mark, or else the highest one. -/
def start? (entities : List Entity) : Option String :=
  let kept := retained entities
  match kept.find? hasStartMark with
  | some entity => some entity.uuid
  | none => (kept.foldl higher (.real (.infinite false), none)).2

def network (content : Content) : Network :=
  .build (content.links.map fun link => (link.source, link.target))
    (content.entities.map (·.uuid)) (skipped content.entities)

end TaggedStory.Interchange
