/-!
Double-precision numbers with exact values. A finite number is a sign, a mantissa and a power of
two; `round` gives the double nearest to a quotient, a tie going to the even mantissa, and every
operation is the exact result rounded once.
-/
set_option autoImplicit false

namespace TaggedStory.Decimal

/-- `finite` stands for mantissa · 2 ^ exponent, with the least exponent that the format allows. -/
inductive Double where
  | nan
  | infinite (negative : Bool)
  | finite (negative : Bool) (mantissa : Nat) (exponent : Int)
deriving DecidableEq, Repr

namespace Double

def leastExponent : Int := -1074
def greatestExponent : Int := 971
def mantissaBits : Nat := 53

def zero : Double := finite false 0 leastExponent

/-- Multiplies a quotient by 2 ^ shift without leaving the whole numbers. -/
def scaleTwo (num den : Nat) (shift : Int) : Nat × Nat :=
  if shift < 0 then (num, den <<< shift.natAbs) else (num <<< shift.natAbs, den)

def scaleTen (num den : Nat) (shift : Int) : Nat × Nat :=
  if shift < 0 then (num, den * Nat.pow 10 shift.natAbs)
  else (num * Nat.pow 10 shift.natAbs, den)

/-- The nearest whole number to a quotient, a tie going to the even one. -/
def nearestEven (num den : Nat) : Nat :=
  let quotient := num / den
  let twice := 2 * (num % den)
  if twice < den then quotient
  else if den < twice then quotient + 1
  else if quotient % 2 = 0 then quotient else quotient + 1

/-- The greatest `n` with 2 ^ n ≤ num / den, for positive arguments. -/
def floorLog2 (num den : Nat) : Int :=
  let guess : Int := (Nat.log2 num : Int) - (Nat.log2 den : Int)
  let (n, d) := scaleTwo num den (-guess)
  if d ≤ n then guess else guess - 1

def round (negative : Bool) (num den : Nat) : Double :=
  if num = 0 then finite negative 0 leastExponent
  else
    let exponent := max (floorLog2 num den - 52) leastExponent
    let (n, d) := scaleTwo num den (-exponent)
    let mantissa := nearestEven n d
    let (mantissa, exponent) :=
      if mantissa = 1 <<< mantissaBits then (1 <<< (mantissaBits - 1), exponent + 1)
      else (mantissa, exponent)
    if greatestExponent < exponent then infinite negative else finite negative mantissa exponent

/-- The magnitude of a finite number as a quotient. -/
def quotient (mantissa : Nat) (exponent : Int) : Nat × Nat :=
  scaleTwo mantissa 1 exponent

def ofInt (value : Int) : Double :=
  round (value < 0) value.natAbs 1

/-- digits · 10 ^ shift. Shifts far outside the range are settled without computing the power. -/
def ofDecimal (negative : Bool) (digits : Nat) (shift : Int) : Double :=
  if digits = 0 then finite negative 0 leastExponent
  else
    let size : Int := (Nat.log2 digits : Int) * 30103 / 100000 + shift
    if 400 < size then infinite negative
    else if size < -400 then finite negative 0 leastExponent
    else
      let (num, den) := scaleTen digits 1 shift
      round negative num den

def isFinite : Double → Bool
  | finite _ _ _ => true
  | _ => false

def isZero : Double → Bool
  | finite _ 0 _ => true
  | _ => false

def neg : Double → Double
  | nan => nan
  | infinite negative => infinite (!negative)
  | finite negative mantissa exponent => finite (!negative) mantissa exponent

def abs : Double → Double
  | nan => nan
  | infinite _ => infinite false
  | finite _ mantissa exponent => finite false mantissa exponent

def signed (negative : Bool) (n : Nat) : Int :=
  if negative then -(n : Int) else n

/-- The two mantissas over the smaller of the two exponents. -/
def aligned (m₁ : Nat) (e₁ : Int) (m₂ : Nat) (e₂ : Int) : Nat × Nat × Int :=
  let low := min e₁ e₂
  (m₁ <<< (e₁ - low).natAbs, m₂ <<< (e₂ - low).natAbs, low)

def add : Double → Double → Double
  | nan, _ => nan
  | _, nan => nan
  | infinite a, infinite b => if a = b then infinite a else nan
  | infinite a, finite _ _ _ => infinite a
  | finite _ _ _, infinite b => infinite b
  | finite s₁ m₁ e₁, finite s₂ m₂ e₂ =>
    let (n₁, n₂, low) := aligned m₁ e₁ m₂ e₂
    let sum := signed s₁ n₁ + signed s₂ n₂
    if sum = 0 then finite (s₁ && s₂) 0 leastExponent
    else
      let (num, den) := scaleTwo sum.natAbs 1 low
      round (sum < 0) num den

def sub (a b : Double) : Double :=
  add a b.neg

def mul : Double → Double → Double
  | nan, _ => nan
  | _, nan => nan
  | infinite a, infinite b => infinite (a != b)
  | infinite a, finite b m _ => if m = 0 then nan else infinite (a != b)
  | finite a m _, infinite b => if m = 0 then nan else infinite (a != b)
  | finite s₁ m₁ e₁, finite s₂ m₂ e₂ =>
    let (num, den) := scaleTwo (m₁ * m₂) 1 (e₁ + e₂)
    round (s₁ != s₂) num den

/-- The order of the extended reals; a number that is none compares with nothing. -/
def lt : Double → Double → Bool
  | nan, _ => false
  | _, nan => false
  | infinite a, infinite b => a && !b
  | infinite a, finite _ _ _ => a
  | finite _ _ _, infinite b => !b
  | finite s₁ m₁ e₁, finite s₂ m₂ e₂ =>
    let (n₁, n₂, _) := aligned m₁ e₁ m₂ e₂
    signed s₁ n₁ < signed s₂ n₂

/-- Equality of values: both zeros are equal, and a number that is none equals nothing. -/
def same : Double → Double → Bool
  | nan, _ => false
  | _, nan => false
  | infinite a, infinite b => a == b
  | infinite _, finite _ _ _ => false
  | finite _ _ _, infinite _ => false
  | finite s₁ m₁ e₁, finite s₂ m₂ e₂ =>
    let (n₁, n₂, _) := aligned m₁ e₁ m₂ e₂
    signed s₁ n₁ == signed s₂ n₂

/-- Only a whole number has a value here. -/
def toInt? : Double → Option Int
  | finite negative mantissa exponent =>
    let (num, den) := quotient mantissa exponent
    if num % den = 0 then some (signed negative (num / den)) else none
  | _ => none

/-- The whole part, toward zero. -/
def truncated? : Double → Option Int
  | finite negative mantissa exponent =>
    let (num, den) := quotient mantissa exponent
    some (signed negative (num / den))
  | _ => none

/-- The nearest whole number, a tie going to the even one. -/
def rounded? : Double → Option Int
  | finite negative mantissa exponent =>
    let (num, den) := quotient mantissa exponent
    some (signed negative (nearestEven num den))
  | _ => none

end Double

end TaggedStory.Decimal
