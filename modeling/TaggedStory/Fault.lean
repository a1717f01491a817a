import TaggedStory.Json.Token
/-!
Why an operation stops, and what is wrong with a record. Each fault is a cause; its wording is in
`message`.
-/
set_option autoImplicit false

namespace TaggedStory

open Decimal

/-- What is wrong with one field of a record. -/
inductive Cause where
  | missing
  | notText
  | notInteger
  | unreadableInteger
  | integerTooLong
  | fractionalInteger
  | notFinite
  | notDecimal
  | unreadableDecimal
  | notFlag
  | unreadableFlag
  | notList
  | notObject
  | notRecord
  | notRecordLike
  | wrongKind
  | unknownKind
  | missingKind
  | unknownMember
  | refused (message : String)
deriving DecidableEq, Repr

/-- A fault of a record, with the keys and positions that lead to it. -/
structure Issue where
  path : List String
  cause : Cause
deriving DecidableEq, Repr

/-- A document whose outer structure is wrong. -/
structure Malformed where
  fields : List String
  format : String
  detail : Option String
deriving DecidableEq, Repr

inductive Fault where
  | invalid (issues : List Issue)
  | malformed (problem : Malformed)
  | unknownOperator (token : Json)
  | unknownOperation (token : Json)
  | unreadableWhole (token : Json) (cause : WholeFault)
  | unknownName (name : String)
  | unreadableText
  | noNumber
  | tooLarge
  | wrongShape
  | missingKey
  | missingPart
  | unmatchedMark

namespace Fault

def one (path : List String) (cause : Cause) : Fault :=
  invalid [⟨path, cause⟩]

/-- Issues are collected; any other fault stops the reading of a record at once. -/
def merge : Fault → Fault → Fault
  | invalid a, invalid b => invalid (a ++ b)
  | invalid _, other => other
  | other, _ => other

def within (key : String) : Fault → Fault
  | invalid issues => invalid (issues.map fun issue => { issue with path := key :: issue.path })
  | other => other

end Fault

def Malformed.message (problem : Malformed) : String :=
  let head := problem.format ++ " document malformed: " ++ ", ".intercalate problem.fields
  match problem.detail with
  | some detail => head ++ " (" ++ detail ++ ")"
  | none => head

/-- A value as a message names it, cut off where it is long. -/
def excerpt (token : Json) : String :=
  String.ofList (token.nested.take 200)

def wholeFaultMessage (token : Json) : WholeFault → String
  | .unreadable => "invalid literal for int() with base 10: " ++ excerpt token
  | .tooLong digits =>
    "Exceeds the limit (" ++ String.ofList (natText digitLimit) ++
      " digits) for integer string conversion: value has " ++ String.ofList (natText digits) ++
      " digits; use sys.set_int_max_str_digits() to increase the limit"

def Fault.message : Fault → String
  | malformed problem => problem.message
  | unknownOperator token => "unknown condition operator: " ++ token.shown
  | unknownOperation token => "unknown effect operation: " ++ token.shown
  | unreadableWhole token cause => wholeFaultMessage token cause
  | unknownName name => "unknown name: " ++ name
  | invalid _ => "invalid record"
  | unreadableText => "unreadable document"
  | noNumber => "not a number"
  | tooLarge => "number too large"
  | wrongShape => "wrong shape"
  | missingKey => "missing key"
  | missingPart => "missing part"
  | unmatchedMark => "closing mark without an open style"

/-- The result of an operation that may stop with a fault. -/
abbrev Attempt (α : Type) := Except Fault α

end TaggedStory
