import TaggedStory.Decimal.Number
import TaggedStory.Text.Quoted
/-!
Values of a document. Whole numbers are exact and kept apart from decimals, and an object keeps the
order of its keys.
-/
set_option autoImplicit false

namespace TaggedStory

open Decimal

inductive Json where
  | null
  | bool (value : Bool)
  | int (value : Int)
  | float (value : Double)
  | str (value : String)
  | arr (items : List Json)
  | obj (fields : List (String × Json))

namespace Json

instance : Inhabited Json := ⟨null⟩

abbrev Fields := List (String × Json)

def lookup? (key : String) : Fields → Option Json
  | [] => none
  | (name, value) :: rest => if name = key then some value else lookup? key rest

def has (key : String) (fields : Fields) : Bool :=
  (lookup? key fields).isSome

/-- A key that is there keeps its place. -/
def put (key : String) (value : Json) : Fields → Fields
  | [] => [(key, value)]
  | (name, old) :: rest =>
    if name = key then (name, value) :: rest else (name, old) :: put key value rest

def without (key : String) (fields : Fields) : Fields :=
  fields.filter fun field => field.1 ≠ key

def field? (key : String) : Json → Option Json
  | obj fields => lookup? key fields
  | _ => none

/-- The field's value, or nothing where it is absent. -/
def get (key : String) (fields : Fields) : Json :=
  (lookup? key fields).getD null

/-- Zero, the empty text, list and object, no and null stand for an absent value. -/
def isTrue : Json → Bool
  | null => false
  | bool value => value
  | int value => value ≠ 0
  | float value => !value.isZero
  | str value => value ≠ ""
  | arr items => !items.isEmpty
  | obj fields => !fields.isEmpty

def orElse (value fallback : Json) : Json :=
  if value.isTrue then value else fallback

def ofTexts (texts : List String) : Json :=
  arr (texts.map str)

mutual
/-- The text of a value inside a list or an object, where texts stand in quotes. -/
def nested : Json → List Char
  | null => "None".toList
  | bool true => "True".toList
  | bool false => "False".toList
  | int value => intText value
  | float value => value.text.toList
  | str value => Text.quoted value.toList
  | arr items => '[' :: nestedItems true items ++ [']']
  | obj fields => '{' :: nestedFields true fields ++ ['}']

def nestedItems (isFirst : Bool) : List Json → List Char
  | [] => []
  | item :: rest =>
    (if isFirst then [] else [',', ' ']) ++ nested item ++ nestedItems false rest

def nestedFields (isFirst : Bool) : List (String × Json) → List Char
  | [] => []
  | (name, value) :: rest =>
    (if isFirst then [] else [',', ' ']) ++ Text.quoted name.toList ++ [':', ' '] ++ nested value ++
      nestedFields false rest
end

/-- The value as an error message names it. -/
def shown (value : Json) : String :=
  String.ofList value.nested

/-- The text of a value on its own; a text stands for itself. -/
def text : Json → String
  | str value => value
  | value => value.shown

/-- Like `text`, but a whole decimal has no fraction. -/
def plainText : Json → String
  | float value => (Number.real value).text
  | value => value.text

mutual
/-- The value with null in the place of infinities and of what is no number. -/
def finiteOnly : Json → Json
  | float value => if value.isFinite then float value else null
  | arr items => arr (finiteItems items)
  | obj fields => obj (finiteFields fields)
  | value => value

def finiteItems : List Json → List Json
  | [] => []
  | item :: rest => finiteOnly item :: finiteItems rest

def finiteFields : List (String × Json) → List (String × Json)
  | [] => []
  | (name, value) :: rest => (name, finiteOnly value) :: finiteFields rest
end

mutual
/-- Equality of values, numbers compared by their exact value and objects as sets of fields. -/
def same : Json → Json → Bool
  | null, null => true
  | bool a, bool b => a == b
  | int a, int b => a == b
  | int a, float b => Number.same (.whole a) (.real b)
  | float a, int b => Number.same (.real a) (.whole b)
  | float a, float b => a.same b
  | str a, str b => a == b
  | arr a, arr b => sameItems a b
  | obj a, obj b => a.length == b.length && sameFields a b
  | _, _ => false

def sameItems : List Json → List Json → Bool
  | [], [] => true
  | a :: as, b :: bs => same a b && sameItems as bs
  | _, _ => false

def sameFields : List (String × Json) → List (String × Json) → Bool
  | [], _ => true
  | (name, value) :: rest, other =>
    (match lookup? name other with
      | some value' => same value value'
      | none => false) && sameFields rest other
end

end Json

end TaggedStory
