import TaggedStory.Document.Interchange.Import
import TaggedStory.Document.VisualGraph
/-!
The forms of documents: how each is recognised, read and written.
-/
set_option autoImplicit false

namespace TaggedStory

inductive Format where
  | interchange
  | storyData
  | visualGraph
deriving DecidableEq, Repr

namespace Format

def all : List Format := [interchange, storyData, visualGraph]

def word : Format → String
  | interchange => Interchange.formatName
  | storyData => StoryData.formatName
  | visualGraph => VisualGraph.formatName

def ofWord? (word : String) : Option Format :=
  all.find? fun format => format.word = word

def ofWord (word : String) : Attempt Format :=
  (ofWord? word).elim (.error (.unknownName word)) .ok

/-- The form of a document by its outer fields; the first that fits counts. -/
def detect? (document : Json) : Option Format :=
  match document with
  | .obj entries =>
    if VisualGraph.isList (Json.lookup? "entities" entries) then some interchange
    else if VisualGraph.isVisualGraph document then some visualGraph
    else if StoryData.isStoryData document then some storyData
    else none
  | _ => none

/-- Reads a document of a known form. -/
def load (format : Format) (document : Json) (template : Attempt Json) : Attempt Graph :=
  match format with
  | interchange => Interchange.load document template
  | storyData => StoryData.load document
  | visualGraph => VisualGraph.load document

def write (format : Format) (graph : Graph) : Attempt Json :=
  match format with
  | interchange => Interchange.write graph
  | storyData => StoryData.write graph
  | visualGraph => .ok (VisualGraph.write graph)

end Format

/-- Reads a document of the given form, or else of the form that it shows. -/
def Graph.load (document : Json) (format : Option Format) (template : Attempt Json) :
    Attempt Graph :=
  match format.or (Format.detect? document) with
  | some format => format.load document template
  | none =>
    .error (.malformed
      ⟨["entities", "nodes", "videoNodes"], "unknown", some "unrecognized document"⟩)

end TaggedStory
