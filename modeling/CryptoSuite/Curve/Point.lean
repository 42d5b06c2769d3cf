import CryptoSuite.Bytes.Hex
import CryptoSuite.Curve.Basic
import CryptoSuite.Text.Listing

/-!
# Points of a curve

A `Point` carries the parameters its curve had when the point was made; later changes to the
curve do not reach it. A point at infinity remembers coordinates, which come back when it is
marked finite; `Point.compare` does not look at them. The setters are changes of a point, as those
of a curve are: each answers whether it succeeded, together with the point it left.
-/

namespace CryptoSuite

/-- A point of a curve, or the point at infinity. -/
structure Point (F : Type) where
  /-- Whether this is the point at infinity. -/
  infinity : Bool
  /-- First coordinate, remembered even at infinity. -/
  x : Number F
  /-- Second coordinate, remembered even at infinity. -/
  y : Number F
  /-- The parameters of the curve when the point was made. -/
  curve : Curve F
  deriving DecidableEq

namespace Point

/-! ## Errors -/

/-- The error for a coordinate of the point at infinity. -/
def noCoordinates : Error :=
  .invalidParameter "curve point" "point at infinity has no coordinates"

/-- The error for a whole point where one coordinate is meant. -/
def notSingle : Error :=
  .invalidParameter "curve point" "not a single coordinate"

/-- The error for a coordinate of another representation. -/
def coordinateMismatch : Error :=
  .invalidParameter "curve point" "bignum uses a different representation"

variable {F : Type} [Representation F]

/-! ## Coordinates as octets -/

/-- Mark a point as infinite or finite; the coordinates stay. -/
def setInfinity (point : Point F) (infinity : Bool) : Point F :=
  { point with infinity }

/-- Replace a point by a decoded one of the same curve. At infinity the coordinates stay. -/
def setDecoded (point : Point F) : Sec.Decoded → Point F
  | .infinity => { point with infinity := true }
  | .affine x y =>
    { point with infinity := false, x := point.x.withBytes x, y := point.y.withBytes y }

/-- Replace a point by an encoded one of the same curve. -/
def setSec (point : Point F) (octets : Bytes) : Except Error Unit × Point F :=
  changing point do
    let decoded ← PrimitiveError.forward (Sec.decode octets)
    modify (·.setDecoded decoded)

/-- Encoding of a point, with coordinates as wide as the field prime. -/
def toSec (point : Point F) : Sec.Format → Except Error Bytes
  | .compressed => .error Sec.compressedForm
  | .uncompressed =>
    if point.infinity then .ok Sec.infinity
    else PrimitiveError.forward
      (Sec.encode point.curve.fieldWidth point.x.toBytes point.y.toBytes)

/-- Set a coordinate or the whole point from octets. A point with a coordinate set is finite. -/
def setBytes (point : Point F) (part : Coordinate) (octets : Bytes) :
    Except Error Unit × Point F :=
  match part with
  | .x =>
    changing point do
      modify (·.setInfinity false)
      modify fun point => { point with x := point.x.withBytes octets }
  | .y =>
    changing point do
      modify (·.setInfinity false)
      modify fun point => { point with y := point.y.withBytes octets }
  | .sec => point.setSec octets
  | .secCompressed => point.setSec octets

/-- Both coordinates of a finite point. -/
def coordinates (point : Point F) : Option (Number F × Number F) :=
  if point.infinity then none else some (point.x, point.y)

/-- One coordinate of a finite point. -/
def coordinate (point : Point F) (part : Coordinate) : Except Error (Number F) :=
  if point.infinity then .error noCoordinates
  else match part with
    | .x => .ok point.x
    | .y => .ok point.y
    | _ => .error notSingle

/-- Octets of a coordinate or of the whole point. -/
def bytes (point : Point F) (part : Coordinate) : Except Error Bytes :=
  match part with
  | .sec => point.toSec .uncompressed
  | .secCompressed => point.toSec .compressed
  | part => do return (← point.coordinate part).toBytes

/-- Announced number of octets of a coordinate or of the whole point. -/
def byteSize (point : Point F) (part : Coordinate) : Except Error Nat :=
  match part with
  | .sec =>
    .ok (if point.infinity then Sec.infinity.length
      else Sec.affineSize point.curve.fieldWidth)
  | .secCompressed => .error Sec.compressedForm
  | part => do return (← point.coordinate part).byteSize

/-! ## Coordinates as numbers -/

/-- Set one coordinate from a number that comes from the same implementation as the field prime.
The point is then finite. -/
def setCoordinate (point : Point F) (part : Coordinate) (value : Number F) :
    Except Error Unit × Point F :=
  changing point do
    if value.algorithm ≠ (← get).curve.p.algorithm then throw coordinateMismatch
    else
      match part with
      | .x => modify fun point => { point with x := value }
      | .y => modify fun point => { point with y := value }
      | _ => throw notSingle
      modify (·.setInfinity false)

/-! ## Order -/

/-- Order of two points: the point at infinity first, then by the magnitude of the first
coordinate, then by that of the second. -/
def compare (P Q : Point F) : Except Error Ordering :=
  match P.infinity, Q.infinity with
  | true, true => .ok .eq
  | true, false => .ok .lt
  | false, true => .ok .gt
  | false, false => do
    match ← P.x.compareMagnitude Q.x with
    | .eq => P.y.compareMagnitude Q.y
    | order => return order

/-- Whether two points compare as equal. Points that cannot be compared are not equal. -/
def same (P Q : Point F) : Bool :=
  match P.compare Q with
  | .ok .eq => true
  | _ => false

/-- Text of a point for listings, with the coordinates' magnitudes in hexadecimal. -/
def listing (point : Point F) : String :=
  if point.infinity then Text.tagged "Point" "infinity"
  else Text.record "Point"
    [("x", Text.quoted point.x.toBytes.toHex), ("y", Text.quoted point.y.toBytes.toHex)]

end Point

/-! ## Points and their curve -/

namespace Curve

variable {F : Type} [Representation F]

/-- The error for a base point of another representation. -/
def baseMismatch : Error :=
  .invalidParameter "curve generator" "point uses a different bignum representation"

/-- Replace the base point, with the coordinates it remembers. Only the first coordinate is asked
for its implementation. -/
def setBase (curve : Curve F) (point : Point F) : Except Error Unit × Curve F :=
  changing curve do
    if point.x.algorithm ≠ (← get).p.algorithm then throw baseMismatch
    else
      modify unnamed
      modify fun curve =>
        { curve with baseAtInfinity := point.infinity, gx := point.x, gy := point.y }

/-- The base point as a point of the curve. -/
def base (curve : Curve F) : Point F where
  infinity := curve.baseAtInfinity
  x := curve.gx
  y := curve.gy
  curve := curve

/-- The point at infinity of the curve, remembering the field prime in both coordinates. -/
def pointAtInfinity (curve : Curve F) : Point F where
  infinity := true
  x := curve.p
  y := curve.p
  curve := curve

/-- The point of the curve with a given encoding. -/
def decodePoint (curve : Curve F) (octets : Bytes) : Except Error (Point F) :=
  accepted (curve.pointAtInfinity.setSec octets)

/-- What octets decode to is put in place of the point at infinity. -/
theorem decodePoint_eq (curve : Curve F) (octets : Bytes) :
    curve.decodePoint octets =
      (PrimitiveError.forward (Sec.decode octets)).map curve.pointAtInfinity.setDecoded := by
  rw [decodePoint, Point.setSec]
  cases Sec.decode octets <;> rfl

end Curve

end CryptoSuite
