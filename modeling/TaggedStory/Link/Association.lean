import TaggedStory.Record.Scalar
/-!
Directed links between the entities of a document, as they are read.
-/
set_option autoImplicit false

namespace TaggedStory

def lineEdge : String := "core:line_edge"

structure Association where
  source : String := ""
  target : String := ""
  text : String := ""
  uuid : String := ""
  type : String := lineEdge
  extras : Json.Fields := []

namespace Association

/-- Any value names an end; nothing is the empty name. -/
def nameOf : Json → String
  | .null => ""
  | value => value.text

def nameCodec : Codec String :=
  .plain (fun value => .ok (nameOf value)) .str

def schema : Schema Association where
  initial := {}
  keep entries r := { r with extras := entries }
  extras r := r.extras
  fields := [
    .required "source" "source" nameCodec source fun x r => { r with source := x },
    .required "target" "target" nameCodec target fun x r => { r with target := x },
    .of "text" "text" nameCodec text fun x r => { r with text := x },
    .of "uuid" "uuid" nameCodec uuid fun x r => { r with uuid := x },
    .of "type" "type" Record.text type fun x r => { r with type := x }]

end Association

end TaggedStory
