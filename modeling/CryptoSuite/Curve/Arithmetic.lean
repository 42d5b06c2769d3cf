import CryptoSuite.Curve.Point

/-!
# Arithmetic of points

The chord-and-tangent law in affine coordinates, with an inversion in each step, and scalar
multiples of one point or of two points at once. Results of additions carry the parameters of
the first operand. Every operation can fail, as the numbers' own operations can: on a modulus
that is no prime a slope may have a denominator without an inverse.
-/

namespace CryptoSuite

namespace Point

variable {F : Type} [Representation F]

/-! ## Operands -/

/-- The error for operands of different curves. -/
def differentCurves : Error :=
  .invalidParameter "curve point" "points belong to different curves"

/-- The error for a scalar below zero. -/
def negativeScalar : Error :=
  .invalidParameter "scalar" "negative scalar"

/-- Whether the curves of two points agree in the modulus and the coefficient of `x`, the two
parameters that the sums depend on. Points of one curve could do without the comparison, as long as
numbers compare as equal to themselves; integers do. -/
def onOneCurve (P Q : Point F) : Except Error Bool := do
  match ← P.curve.p.compare Q.curve.p with
  | .eq => return (← P.curve.a.compare Q.curve.a) = .eq
  | _ => return false

/-- Refuse operands of different curves. -/
def requireOneCurve (P Q : Point F) : Except Error Unit := do
  if ← P.onOneCurve Q then return () else .error differentCurves

/-- Refuse a scalar below zero. -/
def requireNonnegative (k : Number F) : Except Error Unit :=
  if k.isNegative then .error negativeScalar else .ok ()

/-- The finite point of the same curve with the given coordinates. -/
def finite (P : Point F) (x y : Number F) : Point F :=
  { P with infinity := false, x, y }

/-- The point at infinity of the same curve, remembering the same coordinates. -/
def atInfinity (P : Point F) : Point F :=
  { P with infinity := true }

/-! ## The curve equation -/

/-- Whether a point satisfies `y² = x³ + ax + b` modulo `p`, as the point at infinity does. -/
def isOnCurve (P : Point F) : Except Error Bool :=
  if P.infinity then .ok true
  else do
    let p := P.curve.p
    let left ← P.y.squareMod p
    let square ← P.x.squareMod p
    let cube ← square.mulMod P.x p
    let linear ← P.curve.a.mulMod P.x p
    let sum ← cube.add linear
    let sum ← sum.add P.curve.b
    let right ← sum.rem p
    return (← left.compare right) = .eq

/-! ## Inverses, doubles and sums -/

/-- The inverse of a point: its reflection in the first axis. -/
def invert (P : Point F) : Except Error (Point F) :=
  if P.infinity then .ok P.atInfinity
  else do
    let p := P.curve.p
    let y ← p.sub P.y
    let y ← y.rem p
    return P.finite P.x y

/-- The third point of the line through `P` and `Q` with the given slope, reflected: the sum of
`P` and `Q`. -/
def alongLine (P : Point F) (slope qx : Number F) : Except Error (Point F) := do
  let p := P.curve.p
  let square ← slope.squareMod p
  let x ← square.sub P.x
  let x ← x.sub qx
  let x ← x.rem p
  let run ← P.x.sub x
  let rise ← run.mulMod slope p
  let y ← rise.sub P.y
  let y ← y.rem p
  return P.finite x y

/-- Slope of the tangent at a finite point: `(3x² + a) / 2y`. -/
def tangentSlope (P : Point F) : Except Error (Number F) := do
  let p := P.curve.p
  let square ← P.x.squareMod p
  let triple ← square.mulMod (p.withSmall 3) p
  let numerator ← triple.add P.curve.a
  let denominator ← P.y.mul (p.withSmall 2)
  let inverse ← denominator.invMod p
  let slope ← numerator.mul inverse
  slope.rem p

/-- The double of a point. A point on the first axis has a vertical tangent, so its double is
the point at infinity. -/
def double (P : Point F) : Except Error (Point F) :=
  if P.infinity || P.y.isZero then .ok P.atInfinity
  else do P.alongLine (← P.tangentSlope) P.x

/-- Slope of the chord through two finite points: `(y₂ − y₁) / (x₂ − x₁)`. -/
def chordSlope (P Q : Point F) : Except Error (Number F) := do
  let p := P.curve.p
  let denominator ← Q.x.sub P.x
  let inverse ← denominator.invMod p
  let numerator ← Q.y.sub P.y
  let slope ← numerator.mul inverse.abs
  slope.rem p

/-- The sum of two points. Of two finite ones, equal points give the tangent's sum, and points
with one first coordinate but different second ones the point at infinity. -/
def add (P Q : Point F) : Except Error (Point F) := do
  P.requireOneCurve Q
  match P.infinity, Q.infinity with
  | true, true => return P.atInfinity
  | true, false => return P.finite Q.x Q.y
  | false, true => return P
  | false, false =>
    match ← P.compare Q with
    | .eq => P.double
    | _ => match ← P.x.compare Q.x with
      | .eq => return P.atInfinity
      | _ => P.alongLine (← P.chordSlope Q) Q.x

/-! ## Scalar multiples -/

/-- Double-and-add from the highest of `count` bits down: at each bit the accumulated point is
doubled and the term for that bit, if there is one, is added. -/
def doubleAndAdd (term : Nat → Option (Point F)) : Nat → Point F → Except Error (Point F)
  | 0, R => .ok R
  | i + 1, R => do
    let D ← R.double
    match term i with
    | some T => doubleAndAdd term i (← D.add T)
    | none => doubleAndAdd term i D

/-- The term of a bit in a multiple of one point. -/
def bitTerm (P : Point F) (a : Number F) (i : Nat) : Option (Point F) :=
  if a.testBit i then some P else none

/-- The term of a bit in a sum of multiples of two points, given the sum `Z` of the points. -/
def jointTerm (P Q Z : Point F) (a b : Number F) (i : Nat) : Option (Point F) :=
  match a.testBit i, b.testBit i with
  | true, true => some Z
  | true, false => some P
  | false, true => some Q
  | false, false => none

/-- The multiple `a·P`. -/
def mul (P : Point F) (a : Number F) : Except Error (Point F) := do
  requireNonnegative a
  doubleAndAdd (P.bitTerm a) a.bitSize P.atInfinity

/-- The sum `a·P + b·Q`, with one double and at most one addition for each bit. -/
def jointMul (P : Point F) (a : Number F) (Q : Point F) (b : Number F) :
    Except Error (Point F) := do
  requireNonnegative a
  P.requireOneCurve Q
  requireNonnegative b
  let Z ← P.add Q
  doubleAndAdd (P.jointTerm Q Z a b) (max b.bitSize a.bitSize) P.atInfinity

end Point

end CryptoSuite
