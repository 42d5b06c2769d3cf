import CryptoSuite.Curve.Named
import CryptoSuite.Curve.Sec
import CryptoSuite.Number.Basic

/-!
# Curves as stores of domain parameters

A `Curve` holds the domain parameters of a curve `y² = x³ + ax + b` over the integers modulo
`p`: the prime, two coefficients, a base point with its order, and the cofactor. They can be set
one at a time, so a curve need not be a sensible one.

The setters are changes of a curve: each answers whether it succeeded, together with the curve it
left. What can be refused is looked at first. Then a setter forgets the name of the curve and
writes; only `Curve.load`, which sets every parameter from a named curve, gives a name.
-/

namespace CryptoSuite

/-- Domain parameters of a curve, with values in the representation it was created with. -/
structure Curve (F : Type) where
  /-- Name of the named curve the parameters were loaded from, if they were. -/
  name : Option String
  /-- Field prime. -/
  p : Number F
  /-- Coefficient of `x`. -/
  a : Number F
  /-- Constant coefficient. -/
  b : Number F
  /-- Order of the base point. -/
  n : Number F
  /-- Cofactor. -/
  h : Number F
  /-- Whether the base point is the point at infinity. -/
  baseAtInfinity : Bool
  /-- First coordinate of the base point, remembered even at infinity. -/
  gx : Number F
  /-- Second coordinate of the base point, remembered even at infinity. -/
  gy : Number F
  deriving DecidableEq

/-- The part of a point that an octet string or a number stands for. -/
inductive Coordinate where
  /-- The whole point, uncompressed. -/
  | sec
  /-- The whole point, compressed. -/
  | secCompressed
  /-- The first coordinate. -/
  | x
  /-- The second coordinate. -/
  | y
  deriving DecidableEq

namespace Curve

/-! ## Fields -/

/-- The parameters that are single numbers. -/
inductive Scalar where
  | p
  | a
  | b
  | n
  | h
  deriving DecidableEq

/-- A parameter: a single number or the base point. -/
inductive Field where
  | scalar (scalar : Scalar)
  | base
  deriving DecidableEq

/-- The parameter with a given name. -/
def Field.ofName? : String → Option Field
  | "p" => some (.scalar .p)
  | "a" => some (.scalar .a)
  | "b" => some (.scalar .b)
  | "n" => some (.scalar .n)
  | "h" => some (.scalar .h)
  | "g" => some .base
  | _ => none

/-- The error for a name that no parameter has. -/
def unknownField (name : String) : Error :=
  .invalidParameter "curve field" s!"unknown field '{name}'"

/-- The parameter with a given name, or an error. -/
def Field.ofName (name : String) : Except Error Field :=
  match Field.ofName? name with
  | some field => .ok field
  | none => .error (unknownField name)

variable {F : Type}

/-- The value of a parameter that is a single number. -/
def scalar (curve : Curve F) : Scalar → Number F
  | .p => curve.p
  | .a => curve.a
  | .b => curve.b
  | .n => curve.n
  | .h => curve.h

/-- Replace a parameter that is a single number. -/
def setScalar (curve : Curve F) (value : Number F) : Scalar → Curve F
  | .p => { curve with p := value }
  | .a => { curve with a := value }
  | .b => { curve with b := value }
  | .n => { curve with n := value }
  | .h => { curve with h := value }

variable [Representation F]

/-! ## New and named curves -/

/-- A curve with every number zero, in the representation of `prototype`, and the base point at
infinity. -/
def new (prototype : Number F) : Curve F :=
  let zero := prototype.withSmall 0
  { name := none, p := zero, a := zero, b := zero, n := zero, h := zero,
    baseAtInfinity := true, gx := zero, gy := zero }

/-- The error for the name of an unknown curve. -/
def unknownCurve : Error := .notImplemented "named curve"

/-- The curve with the parameters of a named one, in the representation of its field prime. -/
def withNamed (curve : Curve F) (name : String) (values : NamedCurve.Values) : Curve F where
  name := some name
  p := curve.p.withBytes values.p
  a := curve.p.withBytes values.a
  b := curve.p.withBytes values.b
  n := curve.p.withBytes values.n
  h := curve.p.withBytes values.h
  baseAtInfinity := values.base == .infinity
  gx :=
    match values.base with
    | .infinity => curve.p.withSmall 0
    | .affine x _ => curve.p.withBytes x
  gy :=
    match values.base with
    | .infinity => curve.p.withSmall 0
    | .affine _ y => curve.p.withBytes y

/-- Load the parameters of the curve called `name`. -/
def load (curve : Curve F) (name : String) : Except Error Unit × Curve F :=
  changing curve do
    match NamedCurve.find? name with
    | none => throw unknownCurve
    | some named =>
      let values ← PrimitiveError.forward named.decode
      modify (·.withNamed named.name values)

/-- Length in octets of the field prime. -/
def fieldWidth (curve : Curve F) : Nat :=
  curve.p.byteSize

/-! ## Parameters as octets -/

/-- Replace the base point by a decoded one. At infinity the coordinates stay. -/
def setBaseDecoded (curve : Curve F) : Sec.Decoded → Curve F
  | .infinity => { curve with baseAtInfinity := true }
  | .affine x y =>
    { curve with baseAtInfinity := false, gx := curve.gx.withBytes x, gy := curve.gy.withBytes y }

/-- Read octets that are meant for the whole base point. -/
def decodeBase (octets : Bytes) : Field → Coordinate → Except Error (Option Sec.Decoded)
  | .base, .sec => do return some (← PrimitiveError.forward (Sec.decode octets))
  | .base, .secCompressed => do return some (← PrimitiveError.forward (Sec.decode octets))
  | _, _ => .ok none

/-- Forget the name of a curve. -/
def unnamed (curve : Curve F) : Curve F :=
  { curve with name := none }

/-- Set the parameter called `field` from octets. `part` says what they are of the base point
and does not matter for other parameters. A base point with one coordinate set is finite. -/
def setBytes (curve : Curve F) (field : String) (octets : Bytes) (part : Coordinate) :
    Except Error Unit × Curve F :=
  changing curve do
    let field ← Field.ofName field
    let decoded ← decodeBase octets field part
    modify unnamed
    match field, decoded, part with
    | .base, some decoded, _ => modify (·.setBaseDecoded decoded)
    | .base, none, .x =>
      modify fun curve => { curve with baseAtInfinity := false, gx := curve.gx.withBytes octets }
    | .base, none, _ =>
      modify fun curve => { curve with baseAtInfinity := false, gy := curve.gy.withBytes octets }
    | .scalar s, _, _ => modify fun curve => curve.setScalar ((curve.scalar s).withBytes octets) s

/-- Encoding of the base point. -/
def baseSec (curve : Curve F) : Sec.Format → Except Error Bytes
  | .compressed => .error Sec.compressedForm
  | .uncompressed =>
    if curve.baseAtInfinity then .ok Sec.infinity
    else PrimitiveError.forward (Sec.encode curve.fieldWidth curve.gx.toBytes curve.gy.toBytes)

/-- Octets of the parameter called `field`, of the base point the given part. -/
def bytes (curve : Curve F) (field : String) (part : Coordinate) : Except Error Bytes := do
  match ← Field.ofName field, part with
  | .scalar s, _ => return (curve.scalar s).toBytes
  | .base, .sec => curve.baseSec .uncompressed
  | .base, .secCompressed => curve.baseSec .compressed
  | .base, .x => return curve.gx.toBytes
  | .base, .y => return curve.gy.toBytes

/-- Announced number of octets of the parameter called `field`. -/
def byteSize (curve : Curve F) (field : String) (part : Coordinate) : Except Error Nat := do
  match ← Field.ofName field, part with
  | .scalar s, _ => return (curve.scalar s).byteSize
  | .base, .sec =>
    return if curve.baseAtInfinity then Sec.infinity.length else Sec.affineSize curve.fieldWidth
  | .base, .secCompressed => .error Sec.compressedForm
  | .base, .x => return curve.gx.byteSize
  | .base, .y => return curve.gy.byteSize

/-! ## Parameters as numbers -/

/-- The error for a parameter of another representation. -/
def parameterMismatch : Error :=
  .invalidParameter "curve parameter" "bignum uses a different representation"

/-- The error for setting the whole base point from one number. -/
def baseFromNumber : Error :=
  .invalidParameter "curve generator" "only X and Y can be set from a bignum"

/-- The error for reading the whole base point as one number. -/
def baseAsNumber : Error :=
  .invalidParameter "curve generator" "only X and Y are available as bignums"

/-- Set the parameter called `field`, of the base point one coordinate, from a number that comes
from the same implementation as the field prime. A base point with one coordinate set is finite. -/
def setNumber (curve : Curve F) (field : String) (value : Number F) (part : Coordinate) :
    Except Error Unit × Curve F :=
  changing curve do
    let field ← Field.ofName field
    if value.algorithm ≠ (← get).p.algorithm then throw parameterMismatch
    else if field = .base ∧ part ≠ .x ∧ part ≠ .y then throw baseFromNumber
    else
      modify unnamed
      match field, part with
      | .scalar s, _ => modify (·.setScalar value s)
      | .base, .x => modify fun curve => { curve with baseAtInfinity := false, gx := value }
      | .base, _ => modify fun curve => { curve with baseAtInfinity := false, gy := value }

/-- The parameter called `field`, of the base point one coordinate, as a number. -/
def number (curve : Curve F) (field : String) (part : Coordinate) :
    Except Error (Number F) := do
  match ← Field.ofName field, part with
  | .scalar s, _ => return curve.scalar s
  | .base, .x => return curve.gx
  | .base, .y => return curve.gy
  | .base, _ => .error baseAsNumber

end Curve

end CryptoSuite
