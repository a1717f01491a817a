import TaggedStory.Record.Scalar
/-!
Effects: a variable's name, an operation, a value and a style, and the two kinds of override that a
video carries beside them.
-/
set_option autoImplicit false

namespace TaggedStory

open Decimal

inductive Operation where
  | set
  | add
  | subtract
  | multiply
  | divide
deriving DecidableEq, Repr

namespace Operation

def all : List Operation := [set, add, subtract, multiply, divide]

def symbol : Operation → String
  | set => "="
  | add => "+"
  | subtract => "-"
  | multiply => "*"
  | divide => "/"

def sign : Operation → Char
  | set => '='
  | add => '+'
  | subtract => '-'
  | multiply => '*'
  | divide => '/'

def word : Operation → String
  | set => "Set"
  | add => "Add"
  | subtract => "Subtract"
  | multiply => "Multiply"
  | divide => "Divide"

def number : Operation → Nat
  | set => 0
  | add => 1
  | subtract => 2
  | multiply => 3
  | divide => 4

def ofSymbol? (text : String) : Option Operation :=
  all.find? fun operation => operation.symbol = text

def ofSign? (c : Char) : Option Operation :=
  all.find? fun operation => operation.sign = c

def ofSymbol (token : Json) : Attempt Operation :=
  match token with
  | .str text => (ofSymbol? text).elim (.error (.unknownOperation token)) .ok
  | _ => .error (.unknownOperation token)

def ofInt (value : Int) : Attempt Operation :=
  match all.find? fun operation => (operation.number : Int) = value with
  | some operation => .ok operation
  | none => .error (.unknownOperation (.int value))

/-- A text of digit signs is a number, and one that has no value is refused as unreadable. -/
def ofText (token : String) : Attempt Operation :=
  let key := Text.trimmed token
  match all.find? fun operation => operation.word = key ∨ operation.symbol = key with
  | some operation => .ok operation
  | none =>
    if !key.isEmpty && key.toList.all Text.isDigitSign then
      match readWhole key.toList with
      | .ok value => ofInt value
      | .error cause => .error (.unreadableWhole (.str key) cause)
    else .error (.unknownOperation (.str token))

def ofToken : Json → Attempt Operation
  | .int value => ofInt value
  | .float value =>
    match value.toInt? with
    | some n => ofInt n
    | none => .error (.unknownOperation (.float value))
  | .str token => ofText token
  | token => .error (.unknownOperation token)

end Operation

inductive Style where
  | normal
  | accumulative
deriving DecidableEq, Repr

namespace Style

def word : Style → String
  | normal => "Normal"
  | accumulative => "Accumulative"

def ofWord? (word : String) : Option Style :=
  [normal, accumulative].find? fun style => style.word = word

end Style

structure Effect where
  name : String := ""
  operation : Operation := .set
  value : String := ""
  style : Style := .normal
deriving DecidableEq, Repr

namespace Effect

def isAccumulative (effect : Effect) : Bool :=
  effect.style == .accumulative

def operationCodec : Codec Operation :=
  .plain (fun token => (Operation.ofToken token).asIssue) (fun operation => .str operation.word)

def schema : Schema Effect :=
  .closed {} [
    .of "variableName" "variable_name" Record.looseText name fun x r => { r with name := x },
    .of "operation" "operation" operationCodec operation fun x r => { r with operation := x },
    .of "value" "value" Record.looseText value fun x r => { r with value := x },
    .of "style" "style" (Record.member Style.ofWord? Style.word) style
      fun x r => { r with style := x }]

end Effect

/-- A variable that changes by the second while a video runs. -/
structure Rate where
  name : String := ""
  perSecond : Double := .zero
deriving DecidableEq, Repr

def Rate.schema : Schema Rate :=
  .closed {} [
    .required "variableName" "variable_name" Record.text name fun x r => { r with name := x },
    .of "ratePerSecond" "rate_per_second" Record.decimal perSecond
      fun x r => { r with perSecond := x }]

/-- A greatest or least start value of a variable. -/
structure Override where
  name : String := ""
  value : String := "0"
deriving DecidableEq, Repr

def Override.schema : Schema Override :=
  .closed {} [
    .required "variableName" "variable_name" Record.text name fun x r => { r with name := x },
    .of "value" "value" Record.looseText value fun x r => { r with value := x }]

end TaggedStory
