import CryptoSuite.Curve.Point
import CryptoSuite.Proofs.Curve.ChordTangent
import CryptoSuite.Proofs.Number.Residue
import Mathlib.Algebra.Field.ZMod
import Mathlib.Tactic.NormNum.Prime

/-!
# Valid points of a curve over a prime field

A `PrimeCurve` is a curve `y² = x³ + ax + b` without singular points over the
field of an odd prime, given by integers of any sign and size. A point is valid
on it (`PrimeCurve.Valid`) if it carries these parameters and is at infinity,
with any coordinates remembered, or has reduced coordinates that satisfy the
equation.

`PrimeCurve.Reads P A` says that `P` stands for the point `A` of the plane over
`ZMod p`. A valid point stands for exactly one point of the plane, on the curve,
and every point that stands for one on the curve is valid (`valid_iff`).
-/

namespace CryptoSuite

/-- A curve without singular points over the field of an odd prime `p`. -/
structure PrimeCurve where
  /-- The prime. -/
  p : ℕ
  /-- Coefficient of `x`. -/
  a : ℤ
  /-- Constant coefficient. -/
  b : ℤ
  prime : p.Prime
  odd : p ≠ 2
  nonsingular : ¬(p : ℤ) ∣ 4 * a ^ 3 + 27 * b ^ 2

namespace PrimeCurve

variable (E : PrimeCurve)

instance : Fact E.p.Prime :=
  ⟨E.prime⟩

theorem two_ne_zero : (2 : ZMod E.p) ≠ 0 := by
  intro h
  have hdvd : E.p ∣ 2 := (ZMod.natCast_eq_zero_iff 2 E.p).1 (by exact_mod_cast h)
  exact E.odd ((Nat.prime_dvd_prime_iff_eq E.prime Nat.prime_two).1 hdvd)

theorem nonsingular_cast : 4 * (E.a : ZMod E.p) ^ 3 + 27 * (E.b : ZMod E.p) ^ 2 ≠ 0 := by
  intro h
  apply E.nonsingular
  rw [← ZMod.intCast_zmod_eq_zero_iff_dvd]
  exact_mod_cast h

/-- The group of the points of the curve. -/
abbrev Group : Type :=
  (PlanePoint.weierstrass (E.a : ZMod E.p) (E.b : ZMod E.p)).Point

/-- A point of the plane is on the curve. -/
abbrev OnCurve (A : PlanePoint (ZMod E.p)) : Prop :=
  A.OnCurve (E.a : ZMod E.p) (E.b : ZMod E.p)

theorem exists_toPlane_eq {A : PlanePoint (ZMod E.p)} (hA : E.OnCurve A) :
    ∃ G : E.Group, PlanePoint.toPlane G = A :=
  PlanePoint.exists_toPlane_eq E.two_ne_zero E.nonsingular_cast hA

variable {F : Type}

/-! ## Valid points -/

/-- The prime and the coefficients of a curve are those of `E`. -/
structure Describes (curve : Curve F) : Prop where
  p : curve.p = .integer E.p
  a : curve.a = .integer E.a
  b : curve.b = .integer E.b

/-- A point of `E` : at infinity, or with coordinates in `[0, p)` that satisfy the equation. -/
structure Valid (P : Point F) : Prop where
  curve : E.Describes P.curve
  finite : P.infinity = false → ∃ x y : ℤ, P.x = .integer x ∧ P.y = .integer y ∧
    (0 ≤ x ∧ x < E.p) ∧ (0 ≤ y ∧ y < E.p) ∧ y ^ 2 ≡ x ^ 3 + E.a * x + E.b [ZMOD E.p]

/-- The point of the plane modulo `p` that a point stands for. -/
def plane (P : Point F) : PlanePoint (ZMod E.p) :=
  if P.infinity then .infinity else .finite P.x.toInt P.y.toInt

/-- A point with the parameters of `E` stands for a point of the plane. -/
inductive Reads : Point F → PlanePoint (ZMod E.p) → Prop
  | infinity (x y : Number F) {curve : Curve F} (h : E.Describes curve) :
    Reads ⟨true, x, y, curve⟩ .infinity
  | finite (x y : ZMod E.p) {curve : Curve F} (h : E.Describes curve) :
    Reads ⟨false, .residue x, .residue y, curve⟩ (.finite x y)

variable {E} {P : Point F} {A : PlanePoint (ZMod E.p)}

theorem Reads.describes (h : E.Reads P A) : E.Describes P.curve := by
  cases h with
  | infinity x y h => exact h
  | finite x y h => exact h

theorem Reads.plane_eq (h : E.Reads P A) : E.plane P = A := by
  cases h with
  | infinity x y h => rfl
  | finite x y h => simp [plane]

theorem Valid.reads (h : E.Valid P) : E.Reads P (E.plane P) := by
  obtain ⟨_ | _, X, Y, curve⟩ := P
  · obtain ⟨x, y, rfl, rfl, ⟨hx₀, hx⟩, ⟨hy₀, hy⟩, -⟩ := h.finite rfl
    have hr := Reads.finite (x : ZMod E.p) (y : ZMod E.p) h.curve
    rw [Number.residue_intCast hx₀ hx, Number.residue_intCast hy₀ hy] at hr
    exact hr
  · exact Reads.infinity X Y h.curve

theorem Valid.onCurve (h : E.Valid P) : E.OnCurve (E.plane P) := by
  obtain ⟨_ | _, X, Y, curve⟩ := P
  · obtain ⟨x, y, rfl, rfl, -, -, heq⟩ := h.finite rfl
    have hcast := (ZMod.intCast_eq_intCast_iff _ _ _).2 heq
    push_cast at hcast
    exact hcast
  · trivial

theorem Reads.valid (h : E.Reads P A) (hA : E.OnCurve A) : E.Valid P := by
  refine ⟨h.describes, fun hfin => ?_⟩
  cases h with
  | infinity x y h => cases hfin
  | finite x y h =>
    refine ⟨x.val, y.val, rfl, rfl, ⟨Int.natCast_nonneg _, ?_⟩, ⟨Int.natCast_nonneg _, ?_⟩, ?_⟩
    · exact_mod_cast x.val_lt
    · exact_mod_cast y.val_lt
    · rw [← ZMod.intCast_eq_intCast_iff]
      push_cast
      rw [ZMod.natCast_zmod_val, ZMod.natCast_zmod_val]
      exact hA

theorem valid_iff : E.Valid P ↔ ∃ A, E.Reads P A ∧ E.OnCurve A := by
  constructor
  · intro h
    exact ⟨E.plane P, h.reads, h.onCurve⟩
  · rintro ⟨A, hr, hA⟩
    exact hr.valid hA

/-! ## A small curve -/

/-- The curve `y² = x³ + 2x + 2` over the field of 17 elements. Its group has 19 elements. -/
def small : PrimeCurve where
  p := 17
  a := 2
  b := 2
  prime := by norm_num
  odd := by decide
  nonsingular := by decide

/-- A finite point with the parameters of the small curve. -/
def smallPoint (x y : ℤ) : Point Empty where
  infinity := false
  x := .integer x
  y := .integer y
  curve := { Curve.new (.integer 0) with p := .integer 17, a := .integer 2, b := .integer 2 }

theorem valid_smallPoint {x y : ℤ} (h : (0 ≤ x ∧ x < 17) ∧ (0 ≤ y ∧ y < 17) ∧
    y ^ 2 ≡ x ^ 3 + 2 * x + 2 [ZMOD 17]) : small.Valid (smallPoint x y) :=
  ⟨⟨rfl, rfl, rfl⟩, fun _ => ⟨x, y, rfl, rfl, h⟩⟩

theorem valid_five_one : small.Valid (smallPoint 5 1) :=
  valid_smallPoint (by decide)

theorem valid_six_three : small.Valid (smallPoint 6 3) :=
  valid_smallPoint (by decide)

theorem valid_five_sixteen : small.Valid (smallPoint 5 16) :=
  valid_smallPoint (by decide)

end PrimeCurve

end CryptoSuite
