import TaggedStory.Json.Basic
import TaggedStory.Text.Scanner
/-!
The tokens of a document text. Numbers keep whether they have a fraction or a power of ten, texts
are given with their escapes resolved, and the first place that is no token ends the list.
-/
set_option autoImplicit false

namespace TaggedStory.Json

open Decimal

/-- Why a text is no document. -/
inductive TextFault where
  | unreadable
  | numberTooLong
deriving DecidableEq, Repr

inductive Token where
  | openList
  | closeList
  | openObject
  | closeObject
  | comma
  | colon
  | scalar (value : Json)
  | text (value : String)
  | fault (cause : TextFault)

def hexValue? (c : Char) : Option Nat :=
  if '0' ≤ c ∧ c ≤ '9' then some (c.toNat - '0'.toNat)
  else if 'a' ≤ c ∧ c ≤ 'f' then some (c.toNat - 'a'.toNat + 10)
  else if 'A' ≤ c ∧ c ≤ 'F' then some (c.toNat - 'A'.toNat + 10)
  else none

def hexCode? (a b c d : Char) : Option Nat :=
  match hexValue? a, hexValue? b, hexValue? c, hexValue? d with
  | some a, some b, some c, some d => some (((a * 16 + b) * 16 + c) * 16 + d)
  | _, _, _, _ => none

def escaped? : Char → Option Char
  | '"' => some '"'
  | '\\' => some '\\'
  | '/' => some '/'
  | 'b' => some '\x08'
  | 'f' => some '\x0c'
  | 'n' => some '\n'
  | 'r' => some '\r'
  | 't' => some '\t'
  | _ => none

/-- Half of a pair that lacks its other half stands for no character. -/
def loneHalf : Char := Char.ofNat 0xfffd

def settle (half : Option Nat) (out : List Char) : List Char :=
  match half with
  | some _ => loneHalf :: out
  | none => out

/-- Reads up to the closing quote. The result is the text and how many characters it took; `half` is
the first half of a pair that an escape left open. -/
def textFrom (out : List Char) (half : Option Nat) (taken : Nat) :
    List Char → Option (String × Nat)
  | '"' :: _ => some (String.ofList (settle half out).reverse, taken + 1)
  | '\\' :: 'u' :: a :: b :: c :: d :: rest =>
    match hexCode? a b c d with
    | none => none
    | some code =>
      if 0xd800 ≤ code ∧ code < 0xdc00 then textFrom (settle half out) (some code) (taken + 6) rest
      else if 0xdc00 ≤ code ∧ code < 0xe000 then
        match half with
        | some high =>
          let pair := 0x10000 + (high - 0xd800) * 0x400 + (code - 0xdc00)
          textFrom (Char.ofNat pair :: out) none (taken + 6) rest
        | none => textFrom (loneHalf :: out) none (taken + 6) rest
      else textFrom (Char.ofNat code :: settle half out) none (taken + 6) rest
  | '\\' :: c :: rest =>
    match escaped? c with
    | some d => textFrom (d :: settle half out) none (taken + 2) rest
    | none => none
  | c :: rest =>
    if c.toNat < 32 ∨ c = '\\' then none
    else textFrom (c :: settle half out) none (taken + 1) rest
  | [] => none

def asciiDigits (text : List Char) : List Char × List Char :=
  (text.takeWhile Char.isDigit, text.dropWhile Char.isDigit)

def digitsValue (digits : List Char) : Nat :=
  natOfDigits (digits.map fun c => c.toNat - '0'.toNat)

/-- A fraction needs a digit after its point. -/
def fractionPart : List Char → List Char × List Char
  | '.' :: rest =>
    match asciiDigits rest with
    | ([], _) => ([], '.' :: rest)
    | parts => parts
  | text => ([], text)

/-- The power of ten and the number of characters that it takes. -/
def powerPart : List Char → Option (Int × Nat)
  | c :: rest =>
    if c = 'e' ∨ c = 'E' then
      let (negative, body) := takeSign rest
      match asciiDigits body with
      | ([], _) => none
      | (digits, _) =>
        let size : Int := digitsValue digits
        some (if negative then -size else size, 1 + (rest.length - body.length) + digits.length)
    else none
  | [] => none

/-- The number at the front of a text and how many characters it takes. -/
def numberFrom (text : List Char) : Option (Token × Nat) :=
  let (negative, body) := match text with
    | '-' :: rest => (true, rest)
    | _ => (false, text)
  let sign := if negative then 1 else 0
  let (allDigits, _) := asciiDigits body
  let digits := match allDigits with
    | '0' :: _ => ['0']
    | _ => allDigits
  if digits.isEmpty then none
  else
    let (part, afterPart) := fractionPart (body.drop digits.length)
    let power := powerPart afterPart
    let partSize := if part.isEmpty then 0 else part.length + 1
    let taken := sign + digits.length + partSize + (power.map (·.2)).getD 0
    if part.isEmpty && power.isNone then
      if digitLimit < digits.length then some (.fault .numberTooLong, taken)
      else
        let size : Int := digitsValue digits
        some (.scalar (.int (if negative then -size else size)), taken)
    else
      let shift := (power.map (·.1)).getD 0 - part.length
      let value := Double.ofDecimal negative (digitsValue (digits ++ part)) shift
      some (.scalar (.float value), taken)

def names : List (String × Json) := [
  ("null", .null), ("true", .bool true), ("false", .bool false), ("NaN", .float .nan),
  ("Infinity", .float (.infinite false)), ("-Infinity", .float (.infinite true))]

def nameFrom (text : List Char) : Option (Token × Nat) :=
  (names.find? fun entry => (Text.dropWord? entry.1.toList text).isSome).map
    fun entry => (.scalar entry.2, entry.1.length)

def punctuation? : Char → Option Token
  | '[' => some .openList
  | ']' => some .closeList
  | '{' => some .openObject
  | '}' => some .closeObject
  | ',' => some .comma
  | ':' => some .colon
  | _ => none

def isGap (c : Char) : Bool :=
  c == ' ' || c == '\t' || c == '\n' || c == '\r'

/-- The first token of a text that starts with no gap, and how many characters it takes. -/
def tokenFrom (text : List Char) : Token × Nat :=
  match text with
  | [] => (.fault .unreadable, 0)
  | c :: rest =>
    match punctuation? c with
    | some token => (token, 1)
    | none =>
      if c = '"' then
        match textFrom [] none 0 rest with
        | some (value, taken) => (.text value, taken + 1)
        | none => (.fault .unreadable, 1)
      else
        match nameFrom text with
        | some found => found
        | none => (numberFrom text).getD (.fault .unreadable, 1)

/-- Newest token first. `skip` counts the characters of the last token that are still ahead. -/
def tokensFrom (out : List Token) : Nat → List Char → List Token
  | _, [] => out
  | skip + 1, _ :: rest => tokensFrom out skip rest
  | 0, c :: rest =>
    if isGap c then tokensFrom out 0 rest
    else
      match tokenFrom (c :: rest) with
      | (.fault cause, _) => .fault cause :: out
      | (token, taken) => tokensFrom (token :: out) (taken - 1) rest

def tokens (text : List Char) : List Token :=
  (tokensFrom [] 0 text).reverse

end TaggedStory.Json
