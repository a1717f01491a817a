import TaggedStory.Document.Format
import TaggedStory.Document.Template
import TaggedStory.Surface.Arguments
import TaggedStory.Surface.Markup
/-!
The three commands: convert a document, show what is in one, parse a text. A command gives what it
would print or write, so that only the last step touches files.
-/
set_option autoImplicit false

namespace TaggedStory.CommandLine

inductive Output where
  | record (value : Json)
  | document (value : Json)
  | report (rows : List (List String)) (lines : List String)
  | unreadable
  | failed (message : String)
  | stopped (cause : Arguments.Stop)

def failure (fault : Fault) : Attempt Output :=
  (Markup.shown ("[red]✗ " ++ fault.message ++ "[/red]")).map .failed

/-- Faults of a document end a command with a message; a text that is no document has a code of its
own, and any other fault is passed on. -/
def settle : Attempt Output → Attempt Output
  | .error (.malformed problem) => failure (.malformed problem)
  | .error (.unknownOperator token) => failure (.unknownOperator token)
  | .error (.unknownOperation token) => failure (.unknownOperation token)
  | .error .unreadableText => .ok .unreadable
  | outcome => outcome

/-- The document in a file; without the file there is none. -/
def documentIn (content : Option String) : Attempt Json :=
  match content with
  | some content => Template.readText content
  | none => .error .unreadableText

def convertDocument (document : Attempt Json) (target : Format) : Attempt Output := settle do
  let graph ← Graph.load (← document) none Template.none
  return .document (← target.write graph)

def convert (document : Attempt Json) (target : String) : Attempt Output :=
  match Format.ofWord? target with
  | some format => convertDocument document format
  | none => .ok (.stopped .rejected)

def countText (count : Nat) : String :=
  String.ofList (Decimal.natText count)

def variableRow (source : String) (entry : Variable) : List String :=
  [entry.name, entry.persistence.word, entry.minValue ++ ".." ++ entry.maxValue, source]

def reportRows (title : String) (graph : Graph) : List (List String) :=
  [title] :: Kind.all.map (fun kind => [kind.word, countText (graph.nodesOf kind).length]) ++
    graph.table.map (variableRow "变量表") ++ graph.supplemental.map (variableRow "补充")

/-- The rows that a row takes when its cells are printed line by line. -/
def printedRows (cells : List String) : List (List String) :=
  let columns := cells.map fun cell => Text.splitOn '\n' cell.toList
  let height := (columns.map List.length).foldl max 0
  (List.range height).map fun line =>
    columns.map fun column => String.ofList ((column[line]?).getD [])

def startLine (graph : Graph) : String :=
  "起点: [bold]" ++ (if graph.startName = "" then "-" else graph.startName) ++ "[/bold]"

def summaryLine (diagnostics : Diagnostics) : String :=
  "跳过实体 " ++ countText diagnostics.skipped.length ++ "，成环绕行 " ++
    String.ofList (Decimal.intText diagnostics.cyclicBypassCount) ++ "，未识别标签 " ++
    String.ofList (Decimal.intText diagnostics.unparsedTags) ++ "，无效节点 " ++
    countText diagnostics.invalid.length

def inspect (name : String) (document : Attempt Json) : Attempt Output := settle do
  let document ← document
  let format := Format.detect? document
  let graph ← Graph.load document format Template.none
  let title := name ++ " (" ++ (format.map Format.word).getD "" ++ ")"
  let rows ← (reportRows title graph).mapM fun cells => cells.mapM Markup.shown
  let start ← Markup.shown (startLine graph)
  return .report (rows.flatMap printedRows) [start, summaryLine graph.diagnostics]

def parseText (arguments : List String) : Attempt Output :=
  match Arguments.parseText arguments with
  | .error cause => .ok (.stopped cause)
  | .ok request =>
    (Node.parse request.text request.kind textEntity {}).map fun node =>
      .record (if request.isFull then node.write else node.brief)

end TaggedStory.CommandLine
