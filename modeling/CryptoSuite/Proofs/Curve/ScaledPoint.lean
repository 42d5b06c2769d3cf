import CryptoSuite.Proofs.Curve.ChordTangent
import Mathlib.Tactic.FieldSimp

/-!
# Sums without division

A `ScaledPoint` has three coordinates and stands for the finite point
`(x / z², y / z³)` of the plane, as long as `z` is not zero. Its double and its
sum with a finite point need no division : the denominator goes into `z`
(`Represents.double`, `Represents.add`).

The exceptional cases of the law, a vertical tangent and a common first
coordinate, make `z` vanish. A scaled point with `z = 0` stands for nothing, so
one look at the `z` of a result shows that no case on the way was exceptional.
-/

namespace CryptoSuite

/-- The point `(x / z², y / z³)`, if `z` is not zero. -/
@[ext]
structure ScaledPoint (R : Type*) where
  x : R
  y : R
  z : R

namespace ScaledPoint

section Operations

variable {R S : Type*} [CommRing R] [CommRing S]

/-- The double on a curve with coefficient `a` of `x`. -/
def double (a : R) (s : ScaledPoint R) : ScaledPoint R :=
  let m := s.x ^ 2 + s.x ^ 2 + s.x ^ 2 + a * s.z ^ 4
  let u := s.y ^ 2 + s.y ^ 2
  let t := s.x * (u + u)
  let x := m ^ 2 - (t + t)
  ⟨x, m * (t - x) - (u ^ 2 + u ^ 2), (s.y + s.y) * s.z⟩

/-- The sum with the finite point `(x₂, y₂)`. -/
def add (s : ScaledPoint R) (x₂ y₂ : R) : ScaledPoint R :=
  let h := x₂ * s.z ^ 2 - s.x
  let r := y₂ * s.z ^ 3 - s.y
  let t := s.x * h ^ 2
  let x := r ^ 2 - h ^ 3 - (t + t)
  ⟨x, r * (t - x) - s.y * h ^ 3, s.z * h⟩

/-- The point with every coordinate sent through `f`. -/
def map (f : R → S) (s : ScaledPoint R) : ScaledPoint S :=
  ⟨f s.x, f s.y, f s.z⟩

theorem map_double (f : R →+* S) (a : R) (s : ScaledPoint R) :
    (s.double a).map f = (s.map f).double (f a) := by
  simp [double, map]

theorem map_add (f : R →+* S) (s : ScaledPoint R) (x₂ y₂ : R) :
    (s.add x₂ y₂).map f = (s.map f).add (f x₂) (f y₂) := by
  simp [add, map]

end Operations

variable {K : Type*} [Field K] {s : ScaledPoint K} {A : PlanePoint K} {a : K}

/-- A scaled point stands for a finite point of the plane, unless `z` vanishes. -/
def Represents (s : ScaledPoint K) (A : PlanePoint K) : Prop :=
  s.z ≠ 0 → A = .finite (s.x / s.z ^ 2) (s.y / s.z ^ 3)

theorem represents_of_z_eq_zero (h : s.z = 0) (A : PlanePoint K) : s.Represents A :=
  fun hz => absurd h hz

theorem represents_one (x y : K) : Represents ⟨x, y, 1⟩ (.finite x y) := by
  intro _
  simp

variable [DecidableEq K]

theorem Represents.double (hs : s.Represents A) :
    (s.double a).Represents (A.double a) := by
  intro hz
  have h2y : 2 * s.y ≠ 0 := two_mul s.y ▸ left_ne_zero_of_mul hz
  have h2 : (2 : K) ≠ 0 := left_ne_zero_of_mul h2y
  have hy : s.y ≠ 0 := right_ne_zero_of_mul h2y
  have hz₀ : s.z ≠ 0 := right_ne_zero_of_mul hz
  have hslope : (3 * (s.x / s.z ^ 2) ^ 2 + a) / (2 * (s.y / s.z ^ 3)) =
      (3 * s.x ^ 2 + a * s.z ^ 4) / (2 * s.y * s.z) := by
    field_simp
  rw [hs hz₀, PlanePoint.double, if_neg (div_ne_zero hy (pow_ne_zero 3 hz₀)), PlanePoint.tangent,
    PlanePoint.alongLine, hslope, PlanePoint.finite.injEq]
  simp only [ScaledPoint.double, ← two_mul]
  constructor
  · field_simp
    ring
  · field_simp
    ring

theorem Represents.add {x₂ y₂ : K} (hs : s.Represents A) :
    (s.add x₂ y₂).Represents (A.sum a (.finite x₂ y₂)) := by
  intro hz
  have hz₀ : s.z ≠ 0 := left_ne_zero_of_mul hz
  obtain ⟨h, hh⟩ : ∃ h, x₂ * s.z ^ 2 - s.x = h := ⟨_, rfl⟩
  have hh₀ : h ≠ 0 := hh ▸ right_ne_zero_of_mul hz
  have hx₂ : x₂ = (h + s.x) / s.z ^ 2 := by
    rw [← hh, sub_add_cancel, mul_div_cancel_right₀ _ (pow_ne_zero 2 hz₀)]
  have hrun : x₂ - s.x / s.z ^ 2 = h / s.z ^ 2 := by
    rw [hx₂, ← sub_div, add_sub_cancel_right]
  have hx : s.x / s.z ^ 2 ≠ x₂ := by
    intro hx
    rw [hx, sub_self] at hrun
    exact div_ne_zero hh₀ (pow_ne_zero 2 hz₀) hrun.symm
  have hslope : (y₂ - s.y / s.z ^ 3) / (x₂ - s.x / s.z ^ 2) =
      (y₂ * s.z ^ 3 - s.y) / (s.z * h) := by
    rw [hrun]
    field_simp
  rw [hs hz₀, PlanePoint.sum, if_neg fun e => hx e.1, if_neg fun e => hx e.1, PlanePoint.chord,
    PlanePoint.alongLine, hslope, PlanePoint.finite.injEq]
  simp only [ScaledPoint.add, hh]
  constructor
  · rw [hx₂]
    field_simp
    ring
  · rw [hx₂]
    field_simp
    ring

end ScaledPoint

end CryptoSuite
