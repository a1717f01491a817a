import TaggedStory.Record.Codec
/-!
The values of single fields. Texts are taken as they are; whole numbers, decimals and flags are also
read from texts and from each other, as long as nothing is lost.
-/
set_option autoImplicit false

namespace TaggedStory.Record

open Decimal

def cause {α : Type} (cause : Cause) : Attempt α :=
  .error (.one [] cause)

def readText : Json → Attempt String
  | .str value => .ok value
  | _ => cause .notText

def text : Codec String :=
  .plain readText .str

def optionalText : Codec (Option String) where
  read
    | .null => .ok none
    | value => (readText value).map some
  write value := value.elim .null .str
  brief value := value.elim .null .str

/-- Any value as a text: nothing as the empty one, whole decimals without a fraction. -/
def anyText : Json → String
  | .null => ""
  | .bool value => if value then "true" else "false"
  | value => value.plainText

def looseText : Codec String :=
  .plain (fun value => .ok (anyText value)) .str

def asciiDigit? (c : Char) : Option Nat :=
  if c.isDigit then some (c.toNat - '0'.toNat) else none

/-- Digits without a needless zero in front, after a minus at most. A run of digits that is too long
is refused as such, whatever comes behind it. -/
def strictInteger (text : List Char) : Except Cause Int :=
  let (negative, body) := match text with
    | '-' :: rest => (true, rest)
    | _ => (false, text)
  let (digits, rest) := Json.asciiDigits body
  let size : Int := Json.digitsValue digits
  if digits.isEmpty then .error .unreadableInteger
  else if digits.head? == some '0' && 1 < digits.length then .error .unreadableInteger
  else if digitLimit < digits.length then .error .integerTooLong
  else if !rest.isEmpty then .error .unreadableInteger
  else .ok (if negative then -size else size)

/-- Zeros and low lines before the first other digit or a minus; one zero stays in front of a
point. -/
def dropLeadingZeros (last : Char) : List Char → Option (List Char)
  | [] => some [last]
  | c :: rest =>
    if c = '0' ∨ c = '_' then dropLeadingZeros c rest
    else if c = '.' then some (last :: c :: rest)
    else if c.isDigit || c == '-' then some (c :: rest)
    else none

/-- A point with zeros behind it, one at least, adds nothing. -/
def dropZeroFraction (text : List Char) : List Char :=
  match text.dropWhile (· ≠ '.') with
  | '.' :: zeros =>
    if !zeros.isEmpty && zeros.all (· == '0') then text.takeWhile (· ≠ '.') else text
  | _ => text

def doubledLine : List Char → Bool
  | '_' :: '_' :: _ => true
  | _ :: rest => doubledLine rest
  | [] => false

/-- Low lines are dropped where each stands alone and inside the text. -/
def withoutLines? (text : List Char) : Option (List Char) :=
  if text.head? == some '_' || text.getLast? == some '_' || doubledLine text ||
      !text.contains '_' then
    none
  else some (text.filter (· ≠ '_'))

/-- The digits of a loosely written whole number whose own sign is off. -/
def cleanDigits? (text : List Char) : Option (List Char) :=
  let stripped? := match text with
    | '0' :: rest => dropLeadingZeros '0' rest
    | c :: _ => if c.isDigit then some text else none
    | [] => none
  stripped?.map fun stripped =>
    let plain := dropZeroFraction stripped
    (withoutLines? plain).getD plain

/-- The strict form of a loosely written whole number. -/
def cleanInteger? (text : List Char) : Option (List Char) :=
  match trimNumber text with
  | '-' :: rest => (cleanDigits? rest).map ('-' :: ·)
  | '+' :: rest => cleanDigits? rest
  | body => cleanDigits? body

/-- A text is read strictly at first; only a text that is too long as it stands is called so. -/
def readIntegerText (text : List Char) : Except Cause Int :=
  match strictInteger text with
  | .ok value => .ok value
  | .error .integerTooLong => .error .integerTooLong
  | .error _ =>
    match (cleanInteger? text).map strictInteger with
    | some (.ok value) => .ok value
    | _ => .error .unreadableInteger

/-- One more than the greatest number of a signed word with 64 bits. -/
def wordEnd : Int := 9223372036854775808

/-- Decimals from this size on are not read as whole numbers. -/
def integerBound : Double := Double.ofInt wordEnd

def readIntegerDouble (value : Double) : Except Cause Int :=
  if !value.isFinite then .error .notFinite
  else
    match value.toInt? with
    | none => .error .fractionalInteger
    | some n => if value.abs.lt integerBound then .ok n else .error .integerTooLong

def readInteger : Json → Except Cause Int
  | .int value => .ok value
  | .bool value => .ok (if value then 1 else 0)
  | .float value => readIntegerDouble value
  | .str value => readIntegerText value.toList
  | _ => .error .notInteger

def attempt {α : Type} : Except Cause α → Attempt α
  | .ok value => .ok value
  | .error reason => cause reason

def integer : Codec Int :=
  .plain (fun value => attempt (readInteger value)) .int

/-- Blanks around a decimal are passed over, but not together with low lines inside it. -/
def readDecimalText (text : List Char) : Except Cause Double :=
  let value? :=
    if text.contains '_' then (withoutLines? text).bind (readDecimal? asciiDigit?)
    else readDecimal? asciiDigit? (trimNumber text)
  match value? with
  | some value => .ok value
  | none => .error .unreadableDecimal

def readDecimal : Json → Except Cause Double
  | .float value => .ok value
  | .int value =>
    let nearest := Double.ofInt value
    if nearest.isFinite then .ok nearest else .error .notDecimal
  | .bool value => .ok (Double.ofInt (if value then 1 else 0))
  | .str value => readDecimalText value.toList
  | _ => .error .notDecimal

def decimal : Codec Double :=
  .plain (fun value => attempt (readDecimal value)) .float

/-- A number is written as a decimal, whatever it is kept as. -/
def number : Codec Number :=
  .plain (fun value => (attempt (readDecimal value)).map .real) (fun value => .float value.toDouble)

def falseWords : List String := ["0", "off", "f", "false", "n", "no"]
def trueWords : List String := ["1", "on", "t", "true", "y", "yes"]

def readFlagText (text : List Char) : Except Cause Bool :=
  let word := String.ofList (lowerAscii text)
  if falseWords.contains word then .ok false
  else if trueWords.contains word then .ok true
  else .error .unreadableFlag

def readFlagInt (value : Int) : Except Cause Bool :=
  if value = 0 then .ok false else if value = 1 then .ok true else .error .unreadableFlag

def readFlag : Json → Except Cause Bool
  | .bool value => .ok value
  | .str value => readFlagText value.toList
  | .int value => if value < -wordEnd ∨ wordEnd ≤ value then .error .notFlag else readFlagInt value
  | .float value =>
    match readIntegerDouble value with
    | .ok n => readFlagInt n
    | .error _ => .error .notFlag
  | _ => .error .notFlag

def flag : Codec Bool :=
  .plain (fun value => attempt (readFlag value)) .bool

def readObject : Json → Attempt Json.Fields
  | .obj fields => .ok fields
  | _ => cause .notObject

/-- An object of any values, which is written with finite numbers only. -/
def object : Codec Json.Fields :=
  .plain readObject fun fields => .obj (Json.finiteFields fields)

/-- A value that may be anything, which is written with finite numbers only. -/
def anything : Codec Json :=
  .plain .ok Json.finiteOnly

/-- A value out of a closed list of words. -/
def member {α : Type} (ofWord? : String → Option α) (word : α → String) : Codec α :=
  .plain
    (fun value =>
      match value with
      | .str text => (ofWord? text).elim (cause .unknownMember) .ok
      | _ => cause .unknownMember)
    (fun value => .str (word value))

end TaggedStory.Record
