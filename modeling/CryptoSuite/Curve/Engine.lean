import CryptoSuite.Curve.Arithmetic
import CryptoSuite.Curve.KnownMultiple
import CryptoSuite.Parameters

/-!
# Curve engines

A `CurveEngine` makes curves from construction parameters and tests itself on numbers of a given
factory. The suite has one, for prime curves, which needs a number under the name `bignum` and
tests itself on known multiples of the base point of secp521r1.
-/

namespace CryptoSuite

/-- An engine of elliptic-curve arithmetic. -/
structure CurveEngine (F σ : Type) where
  /-- Name of the engine. -/
  name : String
  /-- A curve without parameters. -/
  newCurve : Parameters F σ → Except Error (Curve F)
  /-- Test the engine on the numbers of a factory. -/
  selfTest : NumberFactory F → Except Error Unit
  /-- Size of the implementation's own data. -/
  tableSize : Nat
  /-- Text for listings. -/
  listing : String

namespace CurveEngine

variable {F σ : Type} [Representation F]

/-- A curve in the representation of the number called `bignum`. -/
def newPrimeCurve (parameters : Parameters F σ) : Except Error (Curve F) := do
  return Curve.new (← parameters.requireNumber "prime curve init" "bignum")

/-- The error for a multiple that is not the known one. -/
def wrongMultiple (k : Nat) : Error :=
  .other "prime curve self-test" s!"k = {k} produced the wrong point"

/-- Compare multiples of a base point with known ones. One number and one point are set to a known
multiple after the other. -/
def checkMultiples (base : Point F) :
    Number F → Point F → List KnownMultiple → Except Error Unit
  | _, _, [] => .ok ()
  | k, expected, known :: rest => do
    let x ← PrimitiveError.forward (KnownMultiple.decodeHex known.x)
    let expected ← accepted (expected.setBytes .x x)
    let y ← PrimitiveError.forward (KnownMultiple.decodeHex known.y)
    let expected ← accepted (expected.setBytes .y y)
    let k := k.withSmall known.k
    let multiple ← base.mul k
    if (← multiple.compare expected) = .eq then checkMultiples base k expected rest
    else .error (wrongMultiple known.k)

/-- Compare the known multiples of the base point of secp521r1. -/
def selfTestPrime (factory : NumberFactory F) : Except Error Unit := do
  -- No hash function is handed over, so the type of its states does not matter.
  let parameters : Parameters F Empty := Parameters.empty.push "bignum" (.number factory.zero)
  let curve ← newPrimeCurve parameters
  let curve ← accepted (curve.load "secp521r1")
  checkMultiples curve.base factory.zero curve.pointAtInfinity KnownMultiple.secp521r1

/-- The engine for curves over prime fields. -/
def prime : CurveEngine F σ where
  name := "EllipticCurvePrime"
  newCurve := newPrimeCurve
  selfTest := selfTestPrime
  tableSize := 0
  listing := "PrimeCurveAlgorithm"

end CurveEngine

end CryptoSuite
