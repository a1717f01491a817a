import TaggedStory.Json.Reader
import TaggedStory.Fault
/-!
The template of variables for documents without a table of their own: the text of a file with a
list, or with an object that holds one.
-/
set_option autoImplicit false

namespace TaggedStory.Template

def textFault : Json.TextFault → Fault
  | .unreadable => .unreadableText
  | .numberTooLong => .unreadableWhole .null (.tooLong Decimal.digitLimit)

def readText (content : String) : Attempt Json :=
  match Json.read content with
  | .ok value => .ok value
  | .error cause => .error (textFault cause)

/-- The list that a template holds; anything else is an empty one. -/
def tableIn (value : Json) : Json :=
  let table := match value with
    | .obj entries =>
      (Json.get "data" entries).orElse ((Json.get "variables" entries).orElse (.arr []))
    | value => value
  match table with
  | .arr items => .arr items
  | _ => .arr []

/-- Without a file there is no template. -/
def load (content : Option String) : Attempt Json :=
  match content with
  | some content => (readText content).map tableIn
  | none => .ok (.arr [])

def none : Attempt Json := load .none

end TaggedStory.Template
