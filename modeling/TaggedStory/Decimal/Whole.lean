import TaggedStory.Text.Digit
import TaggedStory.Text.Blank
/-!
Whole numbers as text. Writing is plain decimal; reading accepts blanks around the number, a sign,
the digits of any script and single low lines between digits, and refuses very long numbers.
-/
set_option autoImplicit false

namespace TaggedStory.Decimal

open TaggedStory.Text

def natText (n : Nat) : List Char :=
  Nat.toDigits 10 n

def intText (value : Int) : List Char :=
  if value < 0 then '-' :: natText value.natAbs else natText value.natAbs

/-- Why a text is no whole number. -/
inductive WholeFault where
  | unreadable
  | tooLong (digits : Nat)
deriving DecidableEq, Repr

def digitLimit : Nat := 4300

def natOfDigits (digits : List Nat) : Nat :=
  digits.foldl (fun total digit => 10 * total + digit) 0

/-- The digits at the front of a text, with single low lines between them passed over. -/
def moreDigits (value? : Char → Option Nat) : List Char → List Nat × List Char
  | [] => ([], [])
  | c :: rest =>
    match value? c with
    | some digit =>
      let (digits, left) := moreDigits value? rest
      (digit :: digits, left)
    | none =>
      match c, rest with
      | '_', d :: after =>
        match value? d with
        | some digit =>
          let (digits, left) := moreDigits value? after
          (digit :: digits, left)
        | none => ([], c :: rest)
      | _, _ => ([], c :: rest)

def digitRun (value? : Char → Option Nat) (text : List Char) : List Nat × List Char :=
  match text with
  | '_' :: _ => ([], text)
  | _ => moreDigits value? text

/-- A blank that may surround a number; the separator controls may not. -/
def isNumberBlank (c : Char) : Bool :=
  isBlank c && !(28 ≤ c.toNat && c.toNat ≤ 31)

def trimNumber (text : List Char) : List Char :=
  ((text.dropWhile isNumberBlank).reverse.dropWhile isNumberBlank).reverse

def takeSign : List Char → Bool × List Char
  | '-' :: rest => (true, rest)
  | '+' :: rest => (false, rest)
  | text => (false, text)

/-- Too many digits are too many whatever follows them, unless a low line is left over. -/
def readWhole (text : List Char) : Except WholeFault Int :=
  let (negative, body) := takeSign (trimNumber text)
  match digitRun digitValue? body with
  | ([], _) => .error .unreadable
  | (digits, []) =>
    if digitLimit < digits.length then .error (.tooLong digits.length)
    else .ok (if negative then -(natOfDigits digits : Int) else natOfDigits digits)
  | (digits, c :: _) =>
    if digitLimit < digits.length ∧ c ≠ '_' then .error (.tooLong digits.length)
    else .error .unreadable

/-- A sign at most, then digits only. -/
def isWholeText (text : List Char) : Bool :=
  let (_, body) := takeSign text
  !body.isEmpty && body.all isDigit

end TaggedStory.Decimal
