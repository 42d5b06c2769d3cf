import CryptoSuite.Proofs.Curve.Closure
import CryptoSuite.Proofs.Curve.Equation

/-!
# Operations stay on the curve

The third point of a tangent or of a chord satisfies the equation of the curve over any
commutative ring, as soon as the slope solves its defining equation and, for a chord, the
difference of the first coordinates is a unit (`equation_of_tangent`, `equation_of_chord`). Over
`ZMod p` this needs no prime `p`, and it does not matter which representatives of the classes
the coordinates are.

So the points over the integers that pass `isOnCurve` are closed under the operations
(`Point.closedUnder_member`), and every point that an operation answers from such points passes
it again (`Point.member_of_operation`).
-/

namespace CryptoSuite

namespace Point

open Number

/-! ## Lines over a commutative ring -/

section Ring

variable {R : Type*} [CommRing R] {a b l x y x₁ y₁ x₂ y₂ : R}

/-- The reflected third point of a tangent is on the curve. -/
theorem equation_of_tangent (h : y ^ 2 = x ^ 3 + a * x + b) (hslope : 2 * y * l = 3 * x ^ 2 + a) :
    (l * (x - (l ^ 2 - x - x)) - y) ^ 2 =
      (l ^ 2 - x - x) ^ 3 + a * (l ^ 2 - x - x) + b := by
  linear_combination h + (l ^ 2 - x - x - x) * hslope

/-- The reflected third point of a chord is on the curve. -/
theorem equation_of_chord (h₁ : y₁ ^ 2 = x₁ ^ 3 + a * x₁ + b)
    (h₂ : y₂ ^ 2 = x₂ ^ 3 + a * x₂ + b) (hunit : IsUnit (x₂ - x₁))
    (hslope : (x₂ - x₁) * l = y₂ - y₁) :
    (l * (x₁ - (l ^ 2 - x₁ - x₂)) - y₁) ^ 2 =
      (l ^ 2 - x₁ - x₂) ^ 3 + a * (l ^ 2 - x₁ - x₂) + b := by
  apply hunit.mul_left_cancel
  linear_combination (2 * x₂ - l ^ 2 + x₁) * h₁ + (l ^ 2 - x₁ - x₂ - x₁) * h₂ +
    (l ^ 2 - x₁ - x₂ - x₁) * (y₁ + y₂ + l * (x₂ - x₁)) * hslope

end Ring

/-! ## Points that pass the test -/

variable {F : Type} [Representation F] {p a b : ℤ}

/-- A point over the integers, with constant coefficient `b`, that passes the test of the
equation. -/
structure Member (p a b : ℤ) (P : Point F) : Prop where
  isOver : P.Over p a
  b : P.curve.b = .integer b
  isOnCurve : P.isOnCurve = .ok true

variable {P Q : Point F}

theorem Member.atInfinity (h : P.Member p a b) : P.atInfinity.Member p a b :=
  ⟨h.isOver.atInfinity, h.b, rfl⟩

section Modulus

variable {n : ℕ} [NeZero n] (hn : p.natAbs = n)
include hn

theorem isOnCurve_ofIntegers_iff {curve : Curve F} (hp : curve.p = .integer p)
    (ha : curve.a = .integer a) (hb : curve.b = .integer b) (x y : ℤ) :
    (ofIntegers curve x y).isOnCurve = .ok true ↔ (y : ZMod n) ^ 2 = x ^ 3 + a * x + b := by
  rw [isOnCurve_integer hp ha hb (ne_zero_of_natAbs_eq hn), Except.ok.injEq, decide_eq_true_iff,
    ← Int.modEq_natAbs, hn, ← ZMod.intCast_eq_intCast_iff]
  push_cast
  rfl

/-- The coordinates of a finite member satisfy the equation. -/
theorem Member.equation {curve : Curve F} {x y : ℤ} (h : (ofIntegers curve x y).Member p a b) :
    (y : ZMod n) ^ 2 = x ^ 3 + a * x + b :=
  (isOnCurve_ofIntegers_iff hn h.isOver.p h.isOver.a h.b x y).1 h.isOnCurve

/-- The reflected third point of a line is a member if it satisfies the equation. -/
theorem member_lineSum (h : P.Member p a b) {l x₁ y₁ x₂ : ZMod n}
    (heq : (l * (x₁ - (l ^ 2 - x₁ - x₂)) - y₁) ^ 2 =
      (l ^ 2 - x₁ - x₂) ^ 3 + a * (l ^ 2 - x₁ - x₂) + b) :
    (lineSum P.curve l x₁ y₁ x₂).Member p a b := by
  refine ⟨over_lineSum h.isOver.p h.isOver.a _ _ _ _, h.b, ?_⟩
  rw [lineSum, isOnCurve_ofIntegers_iff hn h.isOver.p h.isOver.a h.b]
  simpa only [Int.cast_natCast, ZMod.natCast_zmod_val] using heq

end Modulus

/-! ## The operations -/

section Operations

variable (hne : p ≠ 0)
include hne

theorem Member.double (h : P.Member p a b) :
    Outcome (Member p a b) IntegerFailure P.double := by
  have : NeZero p.natAbs := ⟨Int.natAbs_ne_zero.2 hne⟩
  have hcase := h.isOver.doubleCase
  generalize P.double = c at hcase ⊢
  cases hcase with
  | vertical => exact h.atInfinity
  | tangent hP hslope =>
    exact member_lineSum rfl h (equation_of_tangent (Member.equation rfl (hP ▸ h)) hslope)
  | failure he => exact he

theorem Member.add (hP : P.Member p a b) (hQ : Q.Member p a b) :
    Outcome (Member p a b) IntegerFailure (P.add Q) := by
  have : NeZero p.natAbs := ⟨Int.natAbs_ne_zero.2 hne⟩
  have hdouble := hP.double hne
  have hcase := hP.isOver.sumCase hQ.isOver
  generalize P.add Q = c at hcase ⊢
  cases hcase with
  | infinity => exact hP.atInfinity
  | left => exact hP
  | right hfin =>
    obtain ⟨x, y, hxy⟩ := hQ.isOver.exists_ofIntegers hfin
    have heq := Member.equation rfl (hxy ▸ hQ)
    rw [hxy]
    exact ⟨⟨hP.isOver.p, hP.isOver.a, fun _ => ⟨x, y, rfl, rfl⟩⟩, hP.b,
      (isOnCurve_ofIntegers_iff rfl hP.isOver.p hP.isOver.a hP.b x y).2 heq⟩
  | double => exact hdouble
  | chord hP' hQ' hunit hslope =>
    exact member_lineSum rfl hP (equation_of_chord (Member.equation rfl (hP' ▸ hP))
      (Member.equation rfl (hQ' ▸ hQ)) hunit hslope)
  | failure he => exact he

theorem Member.invert (h : P.Member p a b) :
    ∃ N, P.invert = .ok N ∧ N.Member p a b := by
  have : NeZero p.natAbs := ⟨Int.natAbs_ne_zero.2 hne⟩
  cases hfin : P.infinity with
  | true => exact ⟨P.atInfinity, invert_of_infinity hfin, h.atInfinity⟩
  | false =>
    obtain ⟨x, y, hxy⟩ := h.isOver.exists_ofIntegers hfin
    have heq := Member.equation rfl (hxy ▸ h)
    refine ⟨ofIntegers P.curve x (-(y : ZMod p.natAbs)).val, ?_,
      ⟨h.isOver.p, h.isOver.a, fun _ => ⟨_, _, rfl, rfl⟩⟩, h.b, ?_⟩
    · rw [hxy]
      exact invert_ofIntegers rfl h.isOver.p x y
    · rw [isOnCurve_ofIntegers_iff rfl h.isOver.p h.isOver.a h.b, Int.cast_natCast,
        ZMod.natCast_zmod_val, neg_sq, heq]

theorem closedUnder_member : ClosedUnder (Member p a b : Point F → Prop) IntegerFailure where
  atInfinity h := h.atInfinity
  double h := h.double hne
  add hP hQ := hP.add hne hQ

end Operations

/-- What an operation answers from points that pass the test of the equation, modulo any number
but zero, passes it, and has integer coordinates on the same curve. -/
theorem member_of_operation (hne : p ≠ 0) (hP : P.Member p a b) (hQ : Q.Member p a b)
    (k l : Number F) {R : Point F}
    (hR : P.double = .ok R ∨ P.invert = .ok R ∨ P.add Q = .ok R ∨ P.mul k = .ok R ∨
      P.jointMul k Q l = .ok R) : R.Member p a b := by
  have hclosed : ClosedUnder (Member p a b : Point F → Prop) IntegerFailure :=
    closedUnder_member hne
  rcases hR with h | h | h | h | h
  · exact (hclosed.double hP).of_eq_ok h
  · obtain ⟨N, hN, hmember⟩ := hP.invert hne
    rwa [Except.ok.inj (h.symm.trans hN)]
  · exact (hclosed.add hP hQ).of_eq_ok h
  · exact (hclosed.mul .negativeScalar hP k).of_eq_ok h
  · have hone := hP.isOver.requireOneCurve hQ.isOver
    exact (hclosed.jointMul .negativeScalar hone hP hQ k l).of_eq_ok h

/-- On `y² = x³ + x + 1` modulo 35, coordinates far from the interval `[0, 35)`. -/
theorem member_of_operation_composite :
    (ofIntegers (Curve.ofIntegers 35 1 1) 35 (-34)).Member 35 1 1 ∧
      (ofIntegers (Curve.ofIntegers 35 1 1) (-33) 44).Member 35 1 1 ∧
      (ofIntegers (Curve.ofIntegers 35 1 1) 35 (-34)).add
          (ofIntegers (Curve.ofIntegers 35 1 1) (-33) 44) =
        .ok (ofIntegers (Curve.ofIntegers 35 1 1) 14 13) ∧
      (ofIntegers (Curve.ofIntegers 35 1 1) 14 13).isOnCurve = .ok true := by
  have hP : (ofIntegers (Curve.ofIntegers 35 1 1) 35 (-34)).Member 35 1 1 :=
    ⟨⟨rfl, rfl, fun _ => ⟨_, _, rfl, rfl⟩⟩, rfl, by cbv⟩
  have hQ : (ofIntegers (Curve.ofIntegers 35 1 1) (-33) 44).Member 35 1 1 :=
    ⟨⟨rfl, rfl, fun _ => ⟨_, _, rfl, rfl⟩⟩, rfl, by cbv⟩
  have hadd : (ofIntegers (Curve.ofIntegers 35 1 1) 35 (-34)).add
      (ofIntegers (Curve.ofIntegers 35 1 1) (-33) 44) =
        .ok (ofIntegers (Curve.ofIntegers 35 1 1) 14 13) := by cbv
  exact ⟨hP, hQ, hadd, (member_of_operation (by decide) hP hQ (.integer 1) (.integer 1)
    (.inr (.inr (.inl hadd)))).isOnCurve⟩

end Point

end CryptoSuite
