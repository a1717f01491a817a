import TaggedStory.Record.Scalar
/-!
Positions and the shift that an import applies to all of them. A coordinate that is no finite number
is zero; a whole number too large for a double stops the reading of the whole document.
-/
set_option autoImplicit false

namespace TaggedStory

open Decimal

/-- The number that a value stands for, if it stands for one. -/
def coordinate? : Json → Attempt (Option Double)
  | .float value => .ok (some value)
  | .int value =>
    let nearest := Double.ofInt value
    if nearest.isFinite then .ok (some nearest) else .error .tooLarge
  | .bool value => .ok (some (Double.ofInt (if value then 1 else 0)))
  | .str text => .ok (readDouble? text.toList)
  | _ => .ok none

def finiteOrZero (value : Double) : Double :=
  if value.isFinite then value else .zero

def coordinate (value : Json) : Attempt Double :=
  (coordinate? value).map fun found => finiteOrZero (found.getD .zero)

structure Position where
  x : Double := .zero
  y : Double := .zero
deriving DecidableEq, Repr

namespace Position

def finite (x y : Double) : Position :=
  ⟨finiteOrZero x, finiteOrZero y⟩

def coordinateCodec : Codec Double :=
  .plain coordinate .float

def schema : Schema Position :=
  .closed {} [
    .of "x" "x" coordinateCodec x fun v r => { r with x := v },
    .of "y" "y" coordinateCodec y fun v r => { r with y := v }]

def codec : Codec Position := schema.codec

end Position

/-- A stretch about the origin followed by a shift. -/
structure Placement where
  offsetX : Double := .zero
  offsetY : Double := .zero
  scale : Double := Double.ofInt 1
deriving DecidableEq, Repr

namespace Placement

def schema : Schema Placement :=
  .closed {} [
    .of "offset_x" "offset_x" Record.decimal offsetX fun v r => { r with offsetX := v },
    .of "offset_y" "offset_y" Record.decimal offsetY fun v r => { r with offsetY := v },
    .of "scale" "scale" Record.decimal scale fun v r => { r with scale := v }]

def place (placement : Placement) (x y : Double) : Position :=
  .finite ((x.mul placement.scale).add placement.offsetX)
    ((y.mul placement.scale).add placement.offsetY)

/-- Locations hold the vertical coordinate first. -/
def placePair (placement : Placement) (y x : Json) : Attempt Position := do
  let x ← coordinate x
  let y ← coordinate y
  return placement.place x y

def apply (placement : Placement) : Json → Attempt Position
  | .arr (y :: x :: _) => placement.placePair y x
  | .arr _ => .ok {}
  | .str text =>
    match text.toList with
    | y :: x :: _ => placement.placePair (.str y.toString) (.str x.toString)
    | _ => .ok {}
  | .obj (_ :: _ :: _) => .error .missingKey
  | .obj _ => .ok {}
  | value => if value.isTrue then .error .wrongShape else .ok {}

end Placement

end TaggedStory
