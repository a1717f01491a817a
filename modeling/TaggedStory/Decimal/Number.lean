import TaggedStory.Decimal.Shortest
import TaggedStory.Decimal.Whole
/-!
Numbers that keep whether they were written as a whole number, and the reading of a number text.
-/
set_option autoImplicit false

namespace TaggedStory.Decimal

open TaggedStory.Text

inductive Number where
  | whole (value : Int)
  | real (value : Double)
deriving DecidableEq, Repr

namespace Number

def toDouble : Number → Double
  | whole value => Double.ofInt value
  | real value => value

def isZero : Number → Bool
  | whole value => value == 0
  | real value => value.isZero

def neg : Number → Number
  | whole value => whole (-value)
  | real value => real value.neg

/-- Compares exact values, so that a whole number is not rounded first. -/
def lt : Number → Number → Bool
  | whole a, whole b => a < b
  | real a, real b => a.lt b
  | whole _, real .nan => false
  | whole _, real (.infinite negative) => !negative
  | whole a, real (.finite negative mantissa exponent) =>
    let (num, den) := Double.quotient mantissa exponent
    a * den < Double.signed negative num
  | real .nan, whole _ => false
  | real (.infinite negative), whole _ => negative
  | real (.finite negative mantissa exponent), whole b =>
    let (num, den) := Double.quotient mantissa exponent
    Double.signed negative num < b * den

/-- Equality of exact values. -/
def same : Number → Number → Bool
  | whole a, whole b => a == b
  | real a, real b => a.same b
  | whole a, real b => b.toInt? == some a
  | real a, whole b => a.toInt? == some b

/-- A number with a whole value is written without a fraction. -/
def text : Number → String
  | whole value => String.ofList (intText value)
  | real value =>
    match value.toInt? with
    | some n => String.ofList (intText n)
    | none => value.text

end Number

def fraction (value? : Char → Option Nat) (text : List Char) : List Nat × List Char :=
  match text with
  | '.' :: rest => digitRun value? rest
  | _ => ([], text)

/-- The power of ten at the end of a number; an `e` without digits is no power. -/
def power? (value? : Char → Option Nat) (text : List Char) : Option Int :=
  match text with
  | [] => some 0
  | c :: rest =>
    if c = 'e' ∨ c = 'E' then
      let (negative, body) := takeSign rest
      match digitRun value? body with
      | ([], _) => none
      | (digits, []) => some (if negative then -(natOfDigits digits : Int) else natOfDigits digits)
      | (_, _ :: _) => none
    else none

def lowerAscii (text : List Char) : List Char :=
  text.map Char.toLower

/-- A signed number without blanks: a name of infinity, the name of no number, or a decimal. -/
def readDecimal? (value? : Char → Option Nat) (text : List Char) : Option Double :=
  let (negative, body) := takeSign text
  let name := lowerAscii body
  if name = "inf".toList ∨ name = "infinity".toList then some (.infinite negative)
  else if name = "nan".toList then some .nan
  else
    let (whole, afterWhole) := digitRun value? body
    let (part, afterPart) := fraction value? afterWhole
    if whole.isEmpty ∧ part.isEmpty then none
    else
      match power? value? afterPart with
      | none => none
      | some shift =>
        some (Double.ofDecimal negative (natOfDigits (whole ++ part)) (shift - part.length))

def readDouble? (text : List Char) : Option Double :=
  readDecimal? digitValue? (trimNumber text)

/-- A finite number, whole if it is written as one; anything else gives the fallback. -/
def readNumber (text : List Char) (fallback : Number) : Except WholeFault Number :=
  let body := trim text
  match readDouble? body with
  | none => .ok fallback
  | some value =>
    if !value.isFinite then .ok fallback
    else if isWholeText body then (readWhole body).map .whole
    else .ok (.real value)

/-- The whole part of a number that is known to be finite. -/
def Number.truncated : Number → Int
  | .whole value => value
  | .real value => value.truncated?.getD 0

end TaggedStory.Decimal
