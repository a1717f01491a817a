import TaggedStory.Json.Basic
/-!
Writing a document. Only quotes, backslashes and controls are escaped, and decimals are written in
their shortest form.
-/
set_option autoImplicit false

namespace TaggedStory.Json

open Decimal

def escapeText (c : Char) : List Char :=
  match c with
  | '"' => ['\\', '"']
  | '\\' => ['\\', '\\']
  | '\n' => ['\\', 'n']
  | '\r' => ['\\', 'r']
  | '\t' => ['\\', 't']
  | '\x08' => ['\\', 'b']
  | '\x0c' => ['\\', 'f']
  | c => if c.toNat < 32 then '\\' :: 'u' :: Text.hexDigits 4 c.toNat else [c]

def quote (text : String) : String :=
  String.ofList ('"' :: text.toList.flatMap escapeText ++ ['"'])

def floatText : Double → String
  | .nan => "NaN"
  | .infinite negative => if negative then "-Infinity" else "Infinity"
  | value => value.text

/-- The spaces before an item, or none on a single line. -/
def lineBreak (indent : Option Nat) : String :=
  match indent with
  | none => ""
  | some depth => "\n" ++ String.ofList (List.replicate depth ' ')

def deeper (indent : Option Nat) : Option Nat :=
  indent.map (· + 2)

def separator (indent : Option Nat) (isFirst : Bool) : String :=
  if isFirst then lineBreak indent
  else if indent.isNone then ", " else "," ++ lineBreak indent

mutual
def render (indent : Option Nat) : Json → String
  | null => "null"
  | bool true => "true"
  | bool false => "false"
  | int value => String.ofList (intText value)
  | float value => floatText value
  | str value => quote value
  | arr [] => "[]"
  | arr (item :: items) =>
    "[" ++ renderItems (deeper indent) true (item :: items) ++ lineBreak indent ++ "]"
  | obj [] => "\x7b\x7d"
  | obj (field :: fields) =>
    "\x7b" ++ renderFields (deeper indent) true (field :: fields) ++ lineBreak indent ++ "\x7d"

def renderItems (indent : Option Nat) (isFirst : Bool) : List Json → String
  | [] => ""
  | item :: rest =>
    separator indent isFirst ++ render indent item ++ renderItems indent false rest

def renderFields (indent : Option Nat) (isFirst : Bool) : List (String × Json) → String
  | [] => ""
  | (name, value) :: rest =>
    separator indent isFirst ++ quote name ++ ": " ++ render indent value ++
      renderFields indent false rest
end

def compact (value : Json) : String :=
  value.render none

def indented (value : Json) : String :=
  value.render (some 0)

end TaggedStory.Json
