import TaggedStory.Record.Scalar
/-!
Conditions: a variable's name, a comparison and a value. A comparison is known by its symbol and by
an older name.
-/
set_option autoImplicit false

namespace TaggedStory

inductive Comparison where
  | equal
  | unequal
  | greater
  | less
  | atLeast
  | atMost
deriving DecidableEq, Repr

namespace Comparison

def all : List Comparison := [equal, unequal, greater, less, atLeast, atMost]

def symbol : Comparison → String
  | equal => "=="
  | unequal => "!="
  | greater => ">"
  | less => "<"
  | atLeast => ">="
  | atMost => "<="

def olderName : Comparison → String
  | equal => "Equals"
  | unequal => "NotEquals"
  | greater => "GreaterThan"
  | less => "LessThan"
  | atLeast => "GreaterOrEqual"
  | atMost => "LessOrEqual"

def ofWord? (word : String) : Option Comparison :=
  all.find? fun comparison => comparison.olderName = word ∨ comparison.symbol = word

def ofToken (token : Json) : Attempt Comparison :=
  match token with
  | .str word => (ofWord? (Text.trimmed word)).elim (.error (.unknownOperator token)) .ok
  | _ => .error (.unknownOperator token)

end Comparison

structure Condition where
  name : String := ""
  comparison : Comparison := .equal
  value : String := ""
deriving DecidableEq, Repr

namespace Condition

/-- Fields of an older editor under their present names. -/
def modernize (entries : Json.Fields) : Json.Fields :=
  let entries :=
    if Json.has "operator" entries && !Json.has "operation" entries then
      Json.without "operator" entries ++ [("operation", Json.get "operator" entries)]
    else entries
  if Json.has "leftValue" entries && !Json.has "variableName" entries &&
      !Json.has "variable_name" entries then
    let renamed :=
      Json.without "leftValue" entries ++ [("variableName", Json.get "leftValue" entries)]
    let right := (Json.lookup? "rightValue" renamed).getD (.str "")
    let rest := Json.without "rightValue" renamed
    if Json.has "value" rest then rest else rest ++ [("value", right)]
  else entries

def comparisonCodec : Codec Comparison :=
  .plain (fun token => (Comparison.ofToken token).asIssue)
    (fun comparison => .str comparison.symbol)

def schema : Schema Condition :=
  .closed {} [
    .of "variableName" "variable_name" Record.looseText name fun x r => { r with name := x },
    .of "operation" "operator" comparisonCodec comparison fun x r => { r with comparison := x },
    .of "value" "value" Record.looseText value fun x r => { r with value := x }]

def read : Json → Attempt Condition
  | .obj entries => schema.readFields (modernize entries)
  | value => schema.read value

def codec : Codec Condition :=
  ⟨read, schema.write, schema.brief⟩

end Condition

end TaggedStory
