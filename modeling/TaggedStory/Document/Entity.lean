import TaggedStory.Node.Text
/-!
Entities of a document: text, image and section boxes with a place on a canvas.
-/
set_option autoImplicit false

namespace TaggedStory

open Decimal

def sectionEntity : String := "core:section"

structure Entity where
  uuid : String := ""
  text : String := ""
  location : List Json := []
  type : String := textEntity
  size : List Json := []
  color : List Json := []
  details : Json := .str ""
  path : String := ""
  children : List String := []
  extras : Json.Fields := []

namespace Entity

def typeOf : Json → String
  | .str word => if word = "" then textEntity else word
  | _ => textEntity

def textOf : Json → String
  | .str text => text
  | _ => ""

def listOf : Json → List Json
  | .arr items => items
  | _ => []

def names : Codec (List String) where
  read value := Record.text.list.read (.arr (listOf value))
  write := Record.text.list.write
  brief := Record.text.list.write

def list : Codec (List Json) :=
  .plain (fun value => .ok (listOf value)) fun items => .arr (Json.finiteItems items)

def schema : Schema Entity where
  initial := {}
  keep entries r := { r with extras := entries }
  extras r := r.extras
  fields := [
    .required "uuid" "uuid" (.plain (fun value => .ok value.text) .str) uuid
      fun x r => { r with uuid := x },
    .of "text" "text" (.plain (fun value => .ok (textOf value)) .str) text
      fun x r => { r with text := x },
    .of "location" "location" list location fun x r => { r with location := x },
    .of "type" "type" (.plain (fun value => .ok (typeOf value)) .str) type
      fun x r => { r with type := x },
    .of "size" "size" list size fun x r => { r with size := x },
    .of "color" "color" list color fun x r => { r with color := x },
    .of "details" "details" Record.anything details fun x r => { r with details := x },
    .of "path" "path" (.plain (fun value => .ok (textOf value)) .str) path
      fun x r => { r with path := x },
    .of "children" "children" names children fun x r => { r with children := x }]

def isImage (entity : Entity) : Bool :=
  entity.type == imageEntity

/-- The finite coordinates of the location, which holds the vertical one first. -/
def point? (entity : Entity) : Attempt (Option (Double × Double)) :=
  match entity.location with
  | y :: x :: _ => do
    let x ← coordinate? x
    let y ← match x with
      | some _ => coordinate? y
      | none => .ok none
    return match x, y with
      | some x, some y => if x.isFinite && y.isFinite then some (x, y) else none
      | _, _ => none
  | _ => .ok none

/-- The image of an entity: its path, or else its details. -/
def imagePath (entity : Entity) : String :=
  if entity.path = "" then textOf entity.details else entity.path

end Entity

end TaggedStory
