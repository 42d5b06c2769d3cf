import Mathlib.AlgebraicGeometry.EllipticCurve.Affine.Point
import Mathlib.Tactic.LinearCombination

/-!
# The chord-and-tangent law over a field

Points of the plane over a field `K`, with the point at infinity, and their sum
on a curve `y² = x³ + ax + b` by the textbook case split : an operand at
infinity, opposite points, equal points (the tangent), and points with distinct
first coordinates (the chord). `double` is the case of equal points on its own,
with infinity for the points on the first axis.

The split is total, but means a sum only for points on the curve. There it is
the group law of the curve's Weierstrass model (`toPlane_add`, `toPlane_neg`,
`toPlane_double`), and if `4a³ + 27b² ≠ 0` every point on the curve is one of
the model (`exists_toPlane_eq`), which makes the axioms of a group available.
-/

namespace CryptoSuite

/-- A point of the plane over `K`, or the point at infinity. -/
inductive PlanePoint (K : Type*) where
  | infinity
  | finite (x y : K)

namespace PlanePoint

variable {K : Type*} [Field K] {a b : K}

/-! ## The textbook formulas -/

/-- The point satisfies `y² = x³ + ax + b`, as the point at infinity does. -/
def OnCurve (a b : K) : PlanePoint K → Prop
  | infinity => True
  | finite x y => y ^ 2 = x ^ 3 + a * x + b

/-- The reflection in the first axis. -/
def neg : PlanePoint K → PlanePoint K
  | infinity => infinity
  | finite x y => finite x (-y)

/-- The line of slope `l` through `(x₁, y₁)` meets the curve at `x₁`, at `x₂` and at a
third point. This is the reflection of the third. -/
def alongLine (l x₁ y₁ x₂ : K) : PlanePoint K :=
  finite (l ^ 2 - x₁ - x₂) (l * (x₁ - (l ^ 2 - x₁ - x₂)) - y₁)

/-- The sum of two points along their chord. -/
def chord (x₁ y₁ x₂ y₂ : K) : PlanePoint K :=
  alongLine ((y₂ - y₁) / (x₂ - x₁)) x₁ y₁ x₂

/-- The sum of a point and itself along the tangent. -/
def tangent (a x y : K) : PlanePoint K :=
  alongLine ((3 * x ^ 2 + a) / (2 * y)) x y x

/-- The double of a point : infinity on the first axis, else along the tangent. -/
def double [DecidableEq K] (a : K) : PlanePoint K → PlanePoint K
  | infinity => infinity
  | finite x y => if y = 0 then infinity else tangent a x y

/-- The sum of two points on a curve with coefficient `a` of `x`. -/
def sum [DecidableEq K] (a : K) : PlanePoint K → PlanePoint K → PlanePoint K
  | infinity, Q => Q
  | P, infinity => P
  | finite x₁ y₁, finite x₂ y₂ =>
    if x₁ = x₂ ∧ y₁ = -y₂ then infinity
    else if x₁ = x₂ ∧ y₁ = y₂ then tangent a x₁ y₁
    else chord x₁ y₁ x₂ y₂

/-- Two points of the curve with one first coordinate are equal or opposite. -/
theorem OnCurve.eq_or_eq_neg {x y₁ y₂ : K} (h₁ : OnCurve a b (finite x y₁))
    (h₂ : OnCurve a b (finite x y₂)) : y₁ = y₂ ∨ y₁ = -y₂ := by
  have h : y₁ ^ 2 = y₂ ^ 2 := Eq.trans h₁ (Eq.symm h₂)
  exact sq_eq_sq_iff_eq_or_eq_neg.1 h

theorem OnCurve.neg {P : PlanePoint K} (hP : OnCurve a b P) : OnCurve a b P.neg := by
  rcases P with _ | ⟨x, y⟩
  · trivial
  · exact Eq.trans (neg_sq y) hP

/-! ## The Weierstrass model -/

/-- The curve `y² = x³ + ax + b` as a Weierstrass curve. -/
abbrev weierstrass (a b : K) : WeierstrassCurve.Affine K :=
  { a₁ := 0, a₂ := 0, a₃ := 0, a₄ := a, a₆ := b }

theorem discriminant_weierstrass (a b : K) :
    (weierstrass a b).Δ = -16 * (4 * a ^ 3 + 27 * b ^ 2) := by
  simp only [WeierstrassCurve.Δ, WeierstrassCurve.b₂, WeierstrassCurve.b₄, WeierstrassCurve.b₆,
    WeierstrassCurve.b₈]
  ring

theorem equation_weierstrass_iff {x y : K} :
    (weierstrass a b).Equation x y ↔ OnCurve a b (finite x y) := by
  rw [WeierstrassCurve.Affine.equation_iff]
  simp [OnCurve]

theorem negY_weierstrass (x y : K) : (weierstrass a b).negY x y = -y := by
  simp [WeierstrassCurve.Affine.negY]

/-- A point of the Weierstrass model as a point of the plane. -/
def toPlane : (weierstrass a b).Point → PlanePoint K
  | .zero => infinity
  | .some x y _ => finite x y

@[simp] theorem toPlane_zero : toPlane (0 : (weierstrass a b).Point) = infinity :=
  rfl

@[simp] theorem toPlane_some {x y : K} (h : (weierstrass a b).Nonsingular x y) :
    toPlane (.some x y h) = finite x y :=
  rfl

theorem toPlane_injective : Function.Injective (toPlane (a := a) (b := b)) := by
  rintro (_ | ⟨x₁, y₁, h₁⟩) (_ | ⟨x₂, y₂, h₂⟩) h
  · rfl
  · cases h
  · cases h
  · obtain ⟨rfl, rfl⟩ := finite.inj h
    rfl

theorem onCurve_toPlane (G : (weierstrass a b).Point) : OnCurve a b (toPlane G) := by
  rcases G with _ | ⟨x, y, h⟩
  · trivial
  · exact equation_weierstrass_iff.1 h.1

/-- On a curve without singular points, every point on the curve is one of the model. -/
theorem exists_toPlane_eq (h2 : (2 : K) ≠ 0) (hab : 4 * a ^ 3 + 27 * b ^ 2 ≠ 0)
    {P : PlanePoint K} (hP : OnCurve a b P) : ∃ G : (weierstrass a b).Point, toPlane G = P := by
  have hΔ : (weierstrass a b).Δ ≠ 0 := by
    rw [discriminant_weierstrass, show (-16 : K) = -(2 ^ 4) by norm_num]
    exact mul_ne_zero (neg_ne_zero.2 (pow_ne_zero 4 h2)) hab
  rcases P with _ | ⟨x, y⟩
  · exact ⟨0, rfl⟩
  · have hns := (WeierstrassCurve.Affine.equation_iff_nonsingular_of_Δ_ne_zero hΔ).1
      (equation_weierstrass_iff.2 hP)
    exact ⟨.some x y hns, rfl⟩

theorem toPlane_neg (G : (weierstrass a b).Point) : toPlane (-G) = (toPlane G).neg := by
  rcases G with _ | ⟨x, y, h⟩
  · rfl
  · rw [WeierstrassCurve.Affine.Point.neg_some]
    simp only [toPlane, neg, negY_weierstrass]

/-! ## The group law -/

/-- The third point of a line, reflected, in the coordinates of the model. -/
theorem alongLine_weierstrass (a b l x₁ y₁ x₂ : K) :
    finite ((weierstrass a b).addX x₁ x₂ l) ((weierstrass a b).addY x₁ x₂ y₁ l) =
      alongLine l x₁ y₁ x₂ := by
  simp only [WeierstrassCurve.Affine.addX, WeierstrassCurve.Affine.addY,
    WeierstrassCurve.Affine.negAddY, negY_weierstrass, alongLine, finite.injEq]
  constructor <;> ring

variable [DecidableEq K]

theorem slope_chord {x₁ y₁ x₂ y₂ : K} (hx : x₁ ≠ x₂) :
    (weierstrass a b).slope x₁ x₂ y₁ y₂ = (y₂ - y₁) / (x₂ - x₁) := by
  rw [WeierstrassCurve.Affine.slope_of_X_ne hx, ← neg_sub y₂, ← neg_sub x₂, neg_div_neg_eq]

theorem slope_tangent {x y : K} (hy : y ≠ -y) :
    (weierstrass a b).slope x x y y = (3 * x ^ 2 + a) / (2 * y) := by
  rw [WeierstrassCurve.Affine.slope_of_Y_ne rfl (by rwa [negY_weierstrass]), negY_weierstrass]
  congr 1 <;> ring

/-- The textbook sum is the sum of the group. -/
theorem toPlane_add (G H : (weierstrass a b).Point) :
    toPlane (G + H) = sum a (toPlane G) (toPlane H) := by
  rcases G with _ | ⟨x₁, y₁, h₁⟩
  · rw [← WeierstrassCurve.Affine.Point.zero_def, zero_add]
    rfl
  rcases H with _ | ⟨x₂, y₂, h₂⟩
  · rw [← WeierstrassCurve.Affine.Point.zero_def, add_zero]
    rfl
  rw [toPlane_some, toPlane_some, sum]
  split_ifs with hopp heq
  · obtain ⟨hx, hy⟩ := hopp
    rw [WeierstrassCurve.Affine.Point.add_of_Y_eq hx (by rwa [negY_weierstrass])]
    rfl
  · obtain ⟨rfl, rfl⟩ := heq
    have hy : y₁ ≠ -y₁ := fun h => hopp ⟨rfl, h⟩
    rw [WeierstrassCurve.Affine.Point.add_self_of_Y_ne (by rwa [negY_weierstrass]), toPlane_some,
      alongLine_weierstrass, slope_tangent hy, tangent]
  · have hx : x₁ ≠ x₂ := by
      rintro rfl
      rcases OnCurve.eq_or_eq_neg (onCurve_toPlane (.some x₁ y₁ h₁))
        (onCurve_toPlane (.some x₁ y₂ h₂)) with h | h
      · exact heq ⟨rfl, h⟩
      · exact hopp ⟨rfl, h⟩
    rw [WeierstrassCurve.Affine.Point.add_of_X_ne hx, toPlane_some, alongLine_weierstrass,
      slope_chord hx, chord]

/-- The textbook double is the textbook sum of a point and itself. -/
theorem sum_self (h2 : (2 : K) ≠ 0) (P : PlanePoint K) : sum a P P = double a P := by
  rcases P with _ | ⟨x, y⟩
  · rfl
  · have hy : y = -y ↔ y = 0 := by
      rw [eq_neg_iff_add_eq_zero, ← two_mul, mul_eq_zero, or_iff_right h2]
    simp [sum, double, hy]

theorem toPlane_double (h2 : (2 : K) ≠ 0) (G : (weierstrass a b).Point) :
    toPlane (G + G) = double a (toPlane G) := by
  rw [toPlane_add, sum_self h2]

/-- Sums stay on the curve. -/
theorem OnCurve.sum (h2 : (2 : K) ≠ 0) (hab : 4 * a ^ 3 + 27 * b ^ 2 ≠ 0) {P Q : PlanePoint K}
    (hP : OnCurve a b P) (hQ : OnCurve a b Q) : OnCurve a b (PlanePoint.sum a P Q) := by
  obtain ⟨G, rfl⟩ := exists_toPlane_eq h2 hab hP
  obtain ⟨H, rfl⟩ := exists_toPlane_eq h2 hab hQ
  rw [← toPlane_add]
  exact onCurve_toPlane _

theorem OnCurve.double (h2 : (2 : K) ≠ 0) (hab : 4 * a ^ 3 + 27 * b ^ 2 ≠ 0) {P : PlanePoint K}
    (hP : OnCurve a b P) : OnCurve a b (PlanePoint.double a P) := by
  rw [← sum_self h2]
  exact hP.sum h2 hab hP

end PlanePoint

end CryptoSuite
