import CryptoSuite.Bytes.BigEndian
import CryptoSuite.Error.Basic
import CryptoSuite.Integer.Residue
import CryptoSuite.Text.Listing

/-!
# Numbers of an open set of representations

A `Number F` is an integer of the suite or a value of some other representation `F`, whose
operations come from an instance of `Representation F`. Integers work among themselves and
refuse operands of another representation; what an operation on a value of `F` does is up to
the instance.

Modular operations take a modulus `m` of either sign and work modulo `|m|`. They look at the
modulus first (its representation, then whether it is zero) and only then at the other operand.

A `NumberFactory` makes the numbers of one representation from nothing. The suite's own factory
makes integers.
-/

namespace CryptoSuite

/-- A number: an integer, or a value of another representation. -/
inductive Number (F : Type) where
  /-- An integer of any size. -/
  | integer (value : Int)
  /-- A value of another representation. -/
  | foreign (value : F)
  deriving DecidableEq

/-- The operations of another representation `F` of numbers. Binary operations receive their
second operand in whatever representation it has. -/
class Representation (F : Type) where
  /-- Name of the implementation a value comes from. -/
  algorithm : F → String
  /-- The value of the same representation that a big-endian numeral denotes. -/
  setBytes : F → Bytes → F
  /-- The value of the same representation equal to a small natural number. -/
  setSmall : F → Nat → F
  /-- Shortest big-endian numeral of the magnitude. -/
  toBytes : F → Bytes
  /-- Length of that numeral. -/
  byteSize : F → Nat
  /-- Length of the magnitude in bits. -/
  bitSize : F → Nat
  /-- A bit of the magnitude, counted from the least significant. -/
  testBit : F → Nat → Bool
  /-- Whether the value is zero. -/
  isZero : F → Bool
  /-- Whether the value is below zero. -/
  isNegative : F → Bool
  /-- Order of two values. -/
  compare : F → Number F → Except Error Ordering
  /-- Order of two magnitudes. -/
  compareMagnitude : F → Number F → Except Error Ordering
  /-- Sum. -/
  add : F → Number F → Except Error (Number F)
  /-- Difference. -/
  sub : F → Number F → Except Error (Number F)
  /-- Product. -/
  mul : F → Number F → Except Error (Number F)
  /-- Residue of a value modulo the operand. -/
  rem : F → Number F → Except Error (Number F)
  /-- Residue of a product modulo the second operand. -/
  mulMod : F → Number F → Number F → Except Error (Number F)
  /-- Residue of a square modulo the operand. -/
  squareMod : F → Number F → Except Error (Number F)
  /-- Inverse modulo the operand. -/
  invMod : F → Number F → Except Error (Number F)
  /-- Magnitude as a value. -/
  abs : F → Number F
  /-- Text for listings. -/
  listing : F → String

namespace Number

/-! ## Operands -/

/-- Name of the implementation behind the integers of the suite. -/
def integerAlgorithm : String := "Bignum"

/-- The error for an operand of another representation. -/
def representationMismatch : Error :=
  .invalidParameter "bignum operand" "operand uses a different representation"

/-- The error for a zero modulus. -/
def zeroModulus : Error :=
  .invalidParameter "bignum modulus" "modulus is zero"

/-- The error for a value without an inverse. -/
def notInvertible : Error :=
  .invalidParameter "bignum inverse" "value is not invertible"

variable {F : Type}

/-- The integer a number is, as the operand of another integer. -/
def operand : Number F → Except Error Int
  | integer b => .ok b
  | foreign _ => .error representationMismatch

/-- The absolute value of the integer a number is, as the modulus of an integer. -/
def modulus (m : Number F) : Except Error Nat := do
  let m ← m.operand
  if m = 0 then .error zeroModulus else .ok m.natAbs

variable [Representation F]

/-- Name of the implementation a number comes from. -/
def algorithm : Number F → String
  | integer _ => integerAlgorithm
  | foreign a => Representation.algorithm a

/-! ## New values of the same representation -/

/-- The number of the same representation that a big-endian numeral denotes. -/
def withBytes : Number F → Bytes → Number F
  | integer _, bytes => integer bytes.toNat
  | foreign a, bytes => foreign (Representation.setBytes a bytes)

/-- The number of the same representation equal to a small natural number. -/
def withSmall : Number F → Nat → Number F
  | integer _, n => integer n
  | foreign a, n => foreign (Representation.setSmall a n)

/-! ## Magnitude and sign -/

/-- Shortest big-endian numeral of the magnitude, empty for zero. -/
def toBytes : Number F → Bytes
  | integer a => Bytes.ofNat a.natAbs
  | foreign a => Representation.toBytes a

/-- Length of the magnitude in bits, zero for zero. -/
def bitSize : Number F → Nat
  | integer a => if a = 0 then 0 else a.natAbs.log2 + 1
  | foreign a => Representation.bitSize a

/-- Length of the magnitude in octets: that in bits, in eights rounded up. -/
def byteSize : Number F → Nat
  | integer a => ((integer a : Number F).bitSize + 7) / 8
  | foreign a => Representation.byteSize a

/-- Bit `i` of the magnitude. -/
def testBit : Number F → Nat → Bool
  | integer a, i => a.natAbs.testBit i
  | foreign a, i => Representation.testBit a i

/-- Whether a number is zero. -/
def isZero : Number F → Bool
  | integer a => a = 0
  | foreign a => Representation.isZero a

/-- Whether a number is below zero. -/
def isNegative : Number F → Bool
  | integer a => a < 0
  | foreign a => Representation.isNegative a

/-- The numeral of the magnitude in exactly `width` octets, if it fits. -/
def toPaddedBytes (a : Number F) (width : Nat) : Except Error Bytes :=
  let bytes := a.toBytes
  if bytes.length > width then .error (.invalidLength "bignum encoding" width bytes.length)
  else .ok (Bytes.padLeft width bytes)

/-! ## Order -/

/-- Order of two numbers. -/
def compare : Number F → Number F → Except Error Ordering
  | integer a, b => do return Ord.compare a (← b.operand)
  | foreign a, b => Representation.compare a b

/-- Order of the magnitudes of two numbers. -/
def compareMagnitude : Number F → Number F → Except Error Ordering
  | integer a, b => do return Ord.compare a.natAbs (← b.operand).natAbs
  | foreign a, b => Representation.compareMagnitude a b

/-! ## Arithmetic -/

/-- Sum of two numbers. -/
def add : Number F → Number F → Except Error (Number F)
  | integer a, b => do return integer (a + (← b.operand))
  | foreign a, b => Representation.add a b

/-- Difference of two numbers. -/
def sub : Number F → Number F → Except Error (Number F)
  | integer a, b => do return integer (a - (← b.operand))
  | foreign a, b => Representation.sub a b

/-- Product of two numbers. -/
def mul : Number F → Number F → Except Error (Number F)
  | integer a, b => do return integer (a * (← b.operand))
  | foreign a, b => Representation.mul a b

/-- Magnitude of a number, as a number. -/
def abs : Number F → Number F
  | integer a => integer a.natAbs
  | foreign a => Representation.abs a

/-! ## Arithmetic modulo a number -/

/-- Residue of a number modulo `m`, in `[0, |m|)`. -/
def rem : Number F → Number F → Except Error (Number F)
  | integer a, m => do
    let m ← m.modulus
    return integer (Residue.reduce a m)
  | foreign a, m => Representation.rem a m

/-- Residue of the product of two numbers modulo `m`. -/
def mulMod : Number F → Number F → Number F → Except Error (Number F)
  | integer a, b, m => do
    let m ← m.modulus
    return integer (Residue.reduce (a * (← b.operand)) m)
  | foreign a, b, m => Representation.mulMod a b m

/-- Residue of the square of a number modulo `m`. -/
def squareMod : Number F → Number F → Except Error (Number F)
  | integer a, m => do
    let m ← m.modulus
    return integer (Residue.reduce (a * a) m)
  | foreign a, m => Representation.squareMod a m

/-- Inverse of a number modulo `m`. -/
def invMod : Number F → Number F → Except Error (Number F)
  | integer a, m => do
    let m ← m.modulus
    match Residue.signedInverse? a m with
    | some r => return integer r
    | none => .error notInvertible
  | foreign a, m => Representation.invMod a m

/-! ## Text -/

/-- Text of a number for listings. -/
def listing : Number F → String
  | integer a => Text.record "NumBignum" [("value", toString a)]
  | foreign a => Representation.listing a

end Number

/-! ## Factories -/

/-- A source of numbers of one representation. -/
structure NumberFactory (F : Type) where
  /-- Name of the implementation. -/
  name : String
  /-- A number equal to zero. -/
  zero : Number F
  /-- Size of the implementation's own data. -/
  tableSize : Nat
  /-- Text for listings. -/
  listing : String

namespace NumberFactory

variable {F : Type}

/-- The factory of integers. -/
def integers : NumberFactory F where
  name := Number.integerAlgorithm
  zero := .integer 0
  tableSize := 0
  listing := "NumBignumAlgorithm"

/-- The number a big-endian numeral denotes, in the factory's representation. -/
def ofBytes [Representation F] (factory : NumberFactory F) (bytes : Bytes) : Number F :=
  factory.zero.withBytes bytes

end NumberFactory

end CryptoSuite
