import TaggedStory.Decimal.Double
/-!
The shortest decimal of a double: the fewest digits that round to it, and of those the nearest. Each
count of digits is tried on the two neighbours of the value in that decimal grid.
-/
set_option autoImplicit false

namespace TaggedStory.Decimal

/-- The point stands after `point` digits, counted from the first one. -/
structure Digits where
  digits : List Char
  point : Int
deriving DecidableEq, Repr

/-- Which exponents are written without a power of ten, and how many digits a power has. -/
structure Layout where
  leastPoint : Int
  greatestPoint : Int
  exponentWidth : Nat

/-- Numbers from 10 ^ -4 up to 10 ^ 16 have no power of ten; others have one of two digits or
more. -/
def plainLayout : Layout := ⟨-3, 16, 2⟩

namespace Double

/-- The least `k` with num / den < 10 ^ k, for positive arguments. -/
def decimalPoint (num den : Nat) : Int :=
  let guess := floorLog2 num den * 30103 / 100000
  let below (k : Int) : Bool :=
    let (n, d) := scaleTen num den (-k)
    n < d
  if below (guess - 1) then guess - 1
  else if below guess then guess
  else if below (guess + 1) then guess + 1
  else guess + 2

def readsBack (num den : Nat) (candidate : Nat) (shift : Int) : Bool :=
  let (n, d) := scaleTen candidate 1 shift
  round false n d == round false num den

/-- The nearer of the two neighbours on the grid of `count` digits that reads back. -/
def onGrid? (num den : Nat) (point : Int) (count : Nat) : Option (Nat × Int) :=
  let shift := point - count
  let (n, d) := scaleTen num den (-shift)
  let low := n / d
  let twice := 2 * (n % d)
  let lowFits := readsBack num den low shift
  let highFits := readsBack num den (low + 1) shift
  if lowFits && highFits then
    if twice < d then some (low, shift)
    else if d < twice then some (low + 1, shift)
    else if low % 2 = 0 then some (low, shift) else some (low + 1, shift)
  else if lowFits then some (low, shift)
  else if highFits then some (low + 1, shift)
  else none

def dropZeros (digits : List Char) : List Char :=
  (digits.reverse.dropWhile (· == '0')).reverse

def shortest (num den : Nat) : Digits :=
  let point := decimalPoint num den
  match (List.range 17).findSome? fun i => onGrid? num den point (i + 1) with
  | some (value, shift) =>
    let digits := Nat.toDigits 10 value
    ⟨dropZeros digits, digits.length + shift⟩
  | none => ⟨Nat.toDigits 10 (num / den), (Nat.toDigits 10 (num / den)).length⟩

end Double

namespace Digits

def exponentText (layout : Layout) (exponent : Int) : List Char :=
  let digits := Nat.toDigits 10 exponent.natAbs
  let sign := if exponent < 0 then '-' else '+'
  'e' :: sign :: (List.replicate (layout.exponentWidth - digits.length) '0' ++ digits)

def text (layout : Layout) (value : Digits) : List Char :=
  let digits := value.digits
  let point := value.point
  if layout.leastPoint ≤ point ∧ point ≤ layout.greatestPoint then
    if point ≤ 0 then '0' :: '.' :: (List.replicate point.natAbs '0' ++ digits)
    else if digits.length ≤ point.natAbs then
      digits ++ List.replicate (point.natAbs - digits.length) '0' ++ ['.', '0']
    else digits.take point.natAbs ++ '.' :: digits.drop point.natAbs
  else
    let fraction := digits.drop 1
    digits.take 1 ++ (if fraction.isEmpty then [] else '.' :: fraction) ++
      exponentText layout (point - 1)

end Digits

/-- The shortest text that reads back, with a fraction even for a whole number. -/
def Double.text : Double → String
  | .nan => "nan"
  | .infinite negative => if negative then "-inf" else "inf"
  | .finite negative mantissa exponent =>
    let sign := if negative then ['-'] else []
    if mantissa = 0 then String.ofList (sign ++ ['0', '.', '0'])
    else
      let (num, den) := Double.quotient mantissa exponent
      String.ofList (sign ++ (Double.shortest num den).text plainLayout)

end TaggedStory.Decimal
