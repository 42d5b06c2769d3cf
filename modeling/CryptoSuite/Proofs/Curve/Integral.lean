import CryptoSuite.Proofs.Curve.Equation
import CryptoSuite.Proofs.Curve.Families
import CryptoSuite.Proofs.Curve.SameCurve

/-!
# Curves and points made of integers

A curve is `Curve.Integral` if all its numbers are integers, and a point
`Point.Integral` if its coordinates are, those remembered at infinity included, and
its curve is. What an operation makes of such points is of this kind again
(`Point.Integral.operate`), by the closure of a family of points
(`Point.closedUnder_integral`).

On such points no number ever meets a number of another representation : an
operation fails for a zero modulus, for want of an inverse, for a negative scalar or
for the curves of its operands (`Point.OperationFailure`), a membership test for a
zero modulus only, and a comparison not at all.
-/

namespace CryptoSuite

variable {F ι : Type}

/-- Every number of the curve is an integer. -/
abbrev Curve.Integral (curve : Curve F) : Prop :=
  curve.All fun value => ∃ m, value = .integer m

/-- Both coordinates are integers, at infinity too, and so is every number of the curve. -/
abbrev Point.Integral (P : Point F) : Prop :=
  P.All fun value => ∃ m, value = .integer m

theorem Curve.Integral.base {curve : Curve F} (h : curve.Integral) : curve.base.Integral :=
  All.base h

namespace Point

open Number

/-! ## Operations -/

/-- What an operation on points made of integers fails with. -/
inductive OperationFailure : Error → Prop
  | integer {e : Error} (h : IntegerFailure e) : OperationFailure e
  | differentCurves : OperationFailure differentCurves

section Operations

variable {P Q : Point F}

/-- The five integers that a test of the equation reads. -/
theorem Integral.exists_givenBy (h : P.Integral) : ∃ p a b x y, P.GivenBy p a b x y := by
  obtain ⟨p, hp⟩ := h.curve .p
  obtain ⟨a, ha⟩ := h.curve .a
  obtain ⟨b, hb⟩ := h.curve .b
  obtain ⟨x, hx⟩ := h.x
  obtain ⟨y, hy⟩ := h.y
  exact ⟨p, a, b, x, y, hp, ha, hb, hx, hy⟩

theorem Integral.exists_over (h : P.Integral) : ∃ p a, P.Over p a := by
  obtain ⟨p, a, b, x, y, hgiven⟩ := h.exists_givenBy
  exact ⟨p, a, hgiven.p, hgiven.a, fun _ => ⟨x, y, hgiven.x, hgiven.y⟩⟩

theorem Integral.atInfinity (h : P.Integral) : P.atInfinity.Integral :=
  ⟨h.x, h.y, h.curve⟩

theorem integral_lineSum {curve : Curve F} (h : curve.Integral) {n : ℕ} (l x₁ y₁ x₂ : ZMod n) :
    (lineSum curve l x₁ y₁ x₂).Integral :=
  ⟨⟨_, rfl⟩, ⟨_, rfl⟩, h⟩

variable [Representation F]

/-- Points made of integers with one modulus and one coefficient of `x`. -/
theorem closedUnder_integral (p a : ℤ) :
    ClosedUnder (fun P : Point F => P.Integral ∧ P.Over p a) IntegerFailure := by
  have hdouble {P : Point F} (h : P.Integral ∧ P.Over p a) :
      Outcome (fun R => R.Integral ∧ R.Over p a) IntegerFailure P.double := by
    obtain ⟨hP, hover⟩ := h
    have hcase := hover.doubleCase
    generalize P.double = c at hcase ⊢
    cases hcase with
    | vertical => exact ⟨hP.atInfinity, hover.atInfinity⟩
    | tangent => exact ⟨integral_lineSum hP.curve _ _ _ _, over_lineSum hover.p hover.a _ _ _ _⟩
    | failure he => exact he
  refine ⟨fun h => ⟨h.1.atInfinity, h.2.atInfinity⟩, hdouble, ?_⟩
  intro P Q ⟨hP, hover⟩ ⟨hQ, hQover⟩
  have htwice := hdouble ⟨hP, hover⟩
  have hcase := hover.sumCase hQover
  generalize P.add Q = c at hcase ⊢
  cases hcase with
  | infinity => exact ⟨hP.atInfinity, hover.atInfinity⟩
  | left => exact ⟨hP, hover⟩
  | right hfin => exact ⟨⟨hQ.x, hQ.y, hP.curve⟩, hover.p, hover.a, fun _ => hQover.finite hfin⟩
  | double => exact htwice
  | chord => exact ⟨integral_lineSum hP.curve _ _ _ _, over_lineSum hover.p hover.a _ _ _ _⟩
  | failure he => exact he

/-- What an operation answers is made of integers, or it fails in one of the expected ways. -/
abbrev Stays (answer : Except Error (Point F)) : Prop :=
  Outcome Point.Integral OperationFailure answer

omit [Representation F] in
theorem stays_of_outcome {p a : ℤ} {answer : Except Error (Point F)}
    (h : Outcome (fun P : Point F => P.Integral ∧ P.Over p a) IntegerFailure answer) :
    Stays answer := by
  cases answer with
  | ok P => exact h.1
  | error e => exact .integer h

theorem Integral.invert (h : P.Integral) : Stays P.invert := by
  obtain ⟨p, hp⟩ : ∃ p, P.curve.p = .integer p := h.curve .p
  obtain ⟨y, hy⟩ := h.y
  cases hfin : P.infinity with
  | true =>
    rw [invert_of_infinity hfin]
    exact h.atInfinity
  | false =>
    rw [Point.invert, hfin, hp, hy]
    by_cases hzero : p = 0
    · subst hzero
      simp only [Bool.false_eq_true, if_false, sub_integer, rem_zero, bind, Except.bind]
      exact .integer .zeroModulus
    · simp only [Bool.false_eq_true, if_false, sub_integer, rem_integer _ hzero, bind, Except.bind]
      exact ⟨h.x, ⟨_, rfl⟩, h.curve⟩

theorem Integral.double (h : P.Integral) : Stays P.double := by
  obtain ⟨p, a, hover⟩ := h.exists_over
  exact stays_of_outcome ((closedUnder_integral p a).double ⟨h, hover⟩)

theorem Integral.add (hP : P.Integral) (hQ : Q.Integral) : Stays (P.add Q) := by
  obtain ⟨p, a, hover⟩ := hP.exists_over
  obtain ⟨p', a', hover'⟩ := hQ.exists_over
  by_cases hsame : p = p' ∧ a = a'
  · obtain ⟨rfl, rfl⟩ := hsame
    exact stays_of_outcome ((closedUnder_integral p a).add ⟨hP, hover⟩ ⟨hQ, hover'⟩)
  · rw [add_of_error (hover.requireOneCurve_of_ne hover' hsame)]
    exact .differentCurves

/-- The representation of a scalar does not matter. -/
theorem Integral.mul (h : P.Integral) (k : Number F) : Stays (P.mul k) := by
  obtain ⟨p, a, hover⟩ := h.exists_over
  exact stays_of_outcome ((closedUnder_integral p a).mul .negativeScalar ⟨h, hover⟩ k)

theorem Integral.jointMul (hP : P.Integral) (hQ : Q.Integral) (k l : Number F) :
    Stays (P.jointMul k Q l) := by
  obtain ⟨p, a, hover⟩ := hP.exists_over
  obtain ⟨p', a', hover'⟩ := hQ.exists_over
  by_cases hsame : p = p' ∧ a = a'
  · obtain ⟨rfl, rfl⟩ := hsame
    exact stays_of_outcome ((closedUnder_integral p a).jointMul .negativeScalar
      (hover.requireOneCurve hover') ⟨hP, hover⟩ ⟨hQ, hover'⟩ k l)
  · cases hk : k.isNegative with
    | true =>
      rw [jointMul_of_isNegative hk l]
      exact .integer .negativeScalar
    | false =>
      rw [jointMul_of_error hk l (hover.requireOneCurve_of_ne hover' hsame)]
      exact .differentCurves

theorem Integral.operate {points : ι → Point F} (h : ∀ name, (points name).Integral)
    (operation : Operation F ι) : Stays (Point.operate points operation) := by
  cases operation with
  | invert P => exact (h P).invert
  | double P => exact (h P).double
  | add P Q => exact (h P).add (h Q)
  | mul P k => exact (h P).mul k
  | jointMul P k Q l => exact (h P).jointMul (h Q) k l

/-! ## Questions -/

theorem Integral.exists_compare (hP : P.Integral) (hQ : Q.Integral) :
    ∃ order, P.compare Q = .ok order := by
  obtain ⟨infinity, X, Y, curve⟩ := P
  obtain ⟨infinity', X', Y', curve'⟩ := Q
  obtain ⟨⟨x, rfl⟩, ⟨y, rfl⟩, -⟩ := hP
  obtain ⟨⟨x', rfl⟩, ⟨y', rfl⟩, -⟩ := hQ
  cases infinity <;> cases infinity'
  case false.false =>
    obtain ⟨order, horder, -⟩ := exists_compare_ofIntegers curve curve' x y x' y'
    exact ⟨order, horder⟩
  case false.true => exact ⟨_, rfl⟩
  case true.false => exact ⟨_, rfl⟩
  case true.true => exact ⟨_, rfl⟩

end Operations

end Point

end CryptoSuite
