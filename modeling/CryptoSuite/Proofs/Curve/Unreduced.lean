import CryptoSuite.Proofs.Curve.Membership
import CryptoSuite.Proofs.Curve.ScalarMultiple

/-!
# Coordinates that are not reduced

Decoded points and written coordinates keep the integers they are given, and `Point.isOnCurve`
accepts all representatives of a class. The operations branch on the integers : the double on
whether the second coordinate is the number zero, the sum on whether the magnitudes of the
coordinates are equal and then on whether the first coordinates are. On points of a `PrimeCurve`
the answer is right exactly if the integers take the branch that their classes take.

`PrimeCurve.operations_right_iff` says for which accepted points each operation answers a reduced
point that stands for the double, the sum or the multiple in the group. Reduced points are among
them, and multiples are right for no others. Two encodings of one point need not have a sum
(`PrimeCurve.decoded_sum_refused`).
-/

namespace CryptoSuite

namespace PrimeCurve

open Number Point

variable {F : Type} [Representation F] {E : PrimeCurve} {P Q : Point F} {G H : E.Group}

/-! ## The conditions -/

section Conditions

variable (E) (P Q : Point F)

/-- A point over the integers with the parameters of `E` that passes the test of the equation. -/
abbrev Accepted : Prop :=
  P.Member E.p E.a E.b

omit [Representation F]

/-- The second coordinate is zero as an integer if it is zero modulo `p`. -/
def DoublesRight : Prop :=
  P.infinity = true ∨ P.y.toInt = 0 ∨ (P.y.toInt : ZMod E.p) ≠ 0

/-- The coordinates of two points take the branch of a sum that their classes modulo `p` take,
and an operand that is the answer is reduced. -/
def AddsRight : Prop :=
  match P.infinity, Q.infinity with
  | true, true => True
  | true, false => E.Valid Q
  | false, true => E.Valid P
  | false, false =>
    if P.x.toInt.natAbs = Q.x.toInt.natAbs ∧ P.y.toInt.natAbs = Q.y.toInt.natAbs then
      E.plane P = E.plane Q ∧ E.DoublesRight P
    else if P.x.toInt = Q.x.toInt then E.plane P = (E.plane Q).neg
    else (P.x.toInt : ZMod E.p) ≠ Q.x.toInt

end Conditions

/-! ## Accepted points -/

theorem describes_of_accepted (h : E.Accepted P) : E.Describes P.curve :=
  ⟨h.isOver.p, h.isOver.a, h.b⟩

/-- An accepted point stands for an element of the group, by the classes of its coordinates. -/
theorem exists_toPlane_of_accepted (h : E.Accepted P) :
    ∃ G : E.Group, PlanePoint.toPlane G = E.plane P := by
  refine E.exists_toPlane_eq ?_
  cases hfin : P.infinity with
  | true =>
    rw [plane, hfin]
    trivial
  | false =>
    obtain ⟨x, y, hxy⟩ := h.isOver.exists_ofIntegers hfin
    rw [hxy]
    exact Member.equation (Int.natAbs_natCast E.p) (hxy ▸ h)

omit [Representation F] in
theorem eq_zero_of_infinity (hG : PlanePoint.toPlane G = E.plane P) (h : P.infinity = true) :
    G = 0 := by
  apply PlanePoint.toPlane_injective
  rw [hG, plane, if_pos h, PlanePoint.toPlane_zero]

/-! ## Answers -/

omit [Representation F] in
/-- A point denotes at most one element of the group. -/
theorem Denotes.answers_iff (h : E.Denotes P G) {K : E.Group} : E.Answers (.ok P) K ↔ K = G := by
  constructor
  · rintro ⟨S, hS, hK⟩
    obtain rfl := Except.ok.inj hS
    exact PlanePoint.toPlane_injective (hK.plane_eq.symm.trans h.plane_eq)
  · rintro rfl
    exact h.answers

omit [Representation F] in
theorem not_answers_error (e : Error) : ¬E.Answers (.error e : Except Error (Point F)) G := by
  rintro ⟨S, hS, -⟩
  cases hS

omit [Representation F] in
/-- Of the points with coordinates in the classes of `G`, the reduced ones denote it. -/
theorem Valid.denotes (h : E.Valid P) (hG : PlanePoint.toPlane G = E.plane P) : E.Denotes P G := by
  rw [Denotes, hG]
  exact h.reads

omit [Representation F] in
theorem answers_iff_valid (hG : PlanePoint.toPlane G = E.plane P) :
    E.Answers (.ok P) G ↔ E.Valid P := by
  constructor
  · rintro ⟨S, hS, h⟩
    rw [Except.ok.inj hS]
    exact h.valid
  · intro h
    exact (h.denotes hG).answers

omit [Representation F] in
theorem answers_atInfinity_iff (h : E.Describes P.curve) :
    E.Answers (.ok P.atInfinity) G ↔ G = 0 := by
  have hzero : E.Denotes P.atInfinity 0 := Reads.infinity _ _ h
  exact hzero.answers_iff

/-! ## Doubles -/

theorem isUnit_two_mul_iff {y : ZMod E.p} : IsUnit (2 * y) ↔ y ≠ 0 := by
  rw [isUnit_iff_ne_zero, mul_ne_zero_iff, and_iff_right E.two_ne_zero]

omit [Representation F] in
theorem doublesRight_ofIntegers_iff {curve : Curve F} {x y : ℤ} :
    E.DoublesRight (ofIntegers curve x y) ↔ y = 0 ∨ (y : ZMod E.p) ≠ 0 := by
  simp [DoublesRight]

/-- What the double of an accepted point answers, if it answers at all, is right. -/
theorem answers_double_iff (h : E.Accepted P) (hG : PlanePoint.toPlane G = E.plane P)
    {K : E.Group} : E.Answers P.double K ↔ K = G + G ∧ E.DoublesRight P := by
  have hc := describes_of_accepted h
  cases hfin : P.infinity with
  | true =>
    rw [double_of_infinity hfin, answers_atInfinity_iff hc, eq_zero_of_infinity hG hfin, add_zero]
    exact (and_iff_left (.inl hfin)).symm
  | false =>
    obtain ⟨x, y, hxy⟩ := h.isOver.exists_ofIntegers hfin
    generalize P.curve = curve at hxy hc
    subst hxy
    have hdouble : PlanePoint.toPlane (G + G) =
        if (y : ZMod E.p) = 0 then .infinity else PlanePoint.tangent (E.a : ZMod E.p) x y := by
      rw [PlanePoint.toPlane_double E.two_ne_zero, hG]
      rfl
    rw [doublesRight_ofIntegers_iff]
    by_cases hy : y = 0
    · subst hy
      rw [if_pos Int.cast_zero] at hdouble
      have hzero : G + G = 0 := PlanePoint.toPlane_injective hdouble
      rw [double_of_y_eq_zero, answers_atInfinity_iff hc, hzero]
      exact (and_iff_left (.inl rfl)).symm
    by_cases hunit : (y : ZMod E.p) = 0
    · rw [double_of_not_isUnit (Int.natAbs_natCast E.p) h.isOver.p h.isOver.a x hy
        (by rwa [isUnit_two_mul_iff, not_not])]
      exact iff_of_false (not_answers_error _) (by simp [hy, hunit])
    · rw [if_neg hunit] at hdouble
      obtain ⟨D, hD, hr⟩ := double_ofIntegers hc x y hunit
      have hdenotes : E.Denotes D (G + G) := by rwa [Denotes, hdouble]
      rw [hD, hdenotes.answers_iff]
      exact (and_iff_left (.inr hunit)).symm

/-! ## Sums -/

section Sums

omit [Representation F]

variable (hG : PlanePoint.toPlane G = E.plane P) (hH : PlanePoint.toPlane H = E.plane Q)
include hG hH

theorem plane_eq_iff : E.plane P = E.plane Q ↔ G = H := by
  rw [← hG, ← hH, PlanePoint.toPlane_injective.eq_iff]

theorem plane_eq_neg_iff : E.plane P = (E.plane Q).neg ↔ G + H = 0 := by
  rw [← hG, ← hH, ← PlanePoint.toPlane_neg, PlanePoint.toPlane_injective.eq_iff,
    add_eq_zero_iff_eq_neg]

end Sums

omit [Representation F] in
theorem addsRight_ofIntegers_iff {curve curve' : Curve F} {x₁ y₁ x₂ y₂ : ℤ} :
    E.AddsRight (ofIntegers curve x₁ y₁) (ofIntegers curve' x₂ y₂) ↔
      if x₁.natAbs = x₂.natAbs ∧ y₁.natAbs = y₂.natAbs then
        E.plane (ofIntegers curve x₁ y₁) = E.plane (ofIntegers curve' x₂ y₂) ∧
          E.DoublesRight (ofIntegers curve x₁ y₁)
      else if x₁ = x₂ then
        E.plane (ofIntegers curve x₁ y₁) = (E.plane (ofIntegers curve' x₂ y₂)).neg
      else (x₁ : ZMod E.p) ≠ x₂ :=
  Iff.rfl

/-- The sum of two finite points. -/
theorem answers_add_ofIntegers_iff {curve curve' : Curve F} {x₁ y₁ x₂ y₂ : ℤ}
    (hP : E.Accepted (ofIntegers curve x₁ y₁)) (hQ : E.Accepted (ofIntegers curve' x₂ y₂))
    (hG : PlanePoint.toPlane G = E.plane (ofIntegers curve x₁ y₁))
    (hH : PlanePoint.toPlane H = E.plane (ofIntegers curve' x₂ y₂)) :
    E.Answers ((ofIntegers curve x₁ y₁).add (ofIntegers curve' x₂ y₂)) (G + H) ↔
      E.AddsRight (ofIntegers curve x₁ y₁) (ofIntegers curve' x₂ y₂) := by
  have hc := describes_of_accepted hP
  rw [addsRight_ofIntegers_iff]
  by_cases hmag : x₁.natAbs = x₂.natAbs ∧ y₁.natAbs = y₂.natAbs
  · rw [if_pos hmag, add_of_magnitudes_eq hP.isOver hQ.isOver hmag.1 hmag.2,
      answers_double_iff hP hG, plane_eq_iff hG hH, add_right_inj, eq_comm]
  by_cases hx : x₁ = x₂
  · rw [if_neg hmag, if_pos hx, add_of_x_eq hP.isOver hQ.isOver hmag hx, answers_atInfinity_iff hc,
      plane_eq_neg_iff hG hH]
  rw [if_neg hmag, if_neg hx]
  by_cases hcast : (x₁ : ZMod E.p) = x₂
  · rw [add_of_not_isUnit hP.isOver hQ.isOver hmag (Int.natAbs_natCast E.p) hx
      (by rw [isUnit_iff_ne_zero, not_not, hcast, sub_self])]
    exact iff_of_false (not_answers_error _) (not_not.2 hcast)
  · obtain ⟨S, hS, hr⟩ := add_ofIntegers hc (describes_of_accepted hQ) hmag hcast
    have hsum : PlanePoint.toPlane (G + H) = PlanePoint.chord (x₁ : ZMod E.p) y₁ x₂ y₂ := by
      rw [PlanePoint.toPlane_add, hG, hH]
      exact (if_neg fun h => hcast h.1).trans (if_neg fun h => hcast h.1)
    refine iff_of_true ⟨S, hS, ?_⟩ hcast
    rwa [Denotes, hsum]

/-- The sum of two accepted points is right exactly if `AddsRight` says so. -/
theorem answers_add_iff (hP : E.Accepted P) (hQ : E.Accepted Q)
    (hG : PlanePoint.toPlane G = E.plane P) (hH : PlanePoint.toPlane H = E.plane Q) :
    E.Answers (P.add Q) (G + H) ↔ E.AddsRight P Q := by
  have hc := describes_of_accepted hP
  have hone := hP.isOver.requireOneCurve hQ.isOver
  rw [AddsRight]
  cases hPfin : P.infinity with
  | true =>
    rw [add_of_left_infinity hone hPfin, eq_zero_of_infinity hG hPfin, zero_add]
    cases hQfin : Q.infinity with
    | true =>
      rw [if_pos rfl, answers_atInfinity_iff hc]
      exact iff_of_true (eq_zero_of_infinity hH hQfin) trivial
    | false =>
      have hplane : E.plane (P.finite Q.x Q.y) = E.plane Q := by
        rw [plane, plane, hQfin]
        rfl
      rw [if_neg (by decide), answers_iff_valid (hH.trans hplane.symm)]
      exact ⟨fun h => ⟨describes_of_accepted hQ, fun _ => h.finite rfl⟩,
        fun h => ⟨hc, fun _ => h.finite hQfin⟩⟩
  | false =>
    cases hQfin : Q.infinity with
    | true =>
      rw [add_of_right_infinity hone hPfin hQfin, eq_zero_of_infinity hH hQfin, add_zero,
        answers_iff_valid hG]
    | false =>
      obtain ⟨x₁, y₁, hxy₁⟩ := hP.isOver.exists_ofIntegers hPfin
      obtain ⟨x₂, y₂, hxy₂⟩ := hQ.isOver.exists_ofIntegers hQfin
      generalize P.curve = curve at hxy₁
      generalize Q.curve = curve' at hxy₂
      subst hxy₁ hxy₂
      exact answers_add_ofIntegers_iff hP hQ hG hH

/-! ## Multiples -/

/-- Once a point is the point itself, with the coordinates it has. -/
theorem mul_integer_one (hP : E.Accepted P) (hfin : P.infinity = false) :
    P.mul (.integer 1) = .ok P := by
  have hone : P.atInfinity.atInfinity.requireOneCurve P = .ok () :=
    hP.isOver.atInfinity.atInfinity.requireOneCurve hP.isOver
  have hadd : P.atInfinity.atInfinity.add P = .ok P := by
    rw [add_of_left_infinity hone rfl, hfin]
    obtain ⟨_, x, y, curve⟩ := P
    obtain rfl := hfin
    rfl
  have hbits : (integer 1 : Number F).bitSize = 1 := rfl
  have hterm : P.bitTerm (integer 1) 0 = some P := rfl
  rw [Point.mul, hbits, Point.doubleAndAdd, hterm, double_of_infinity rfl]
  show P.atInfinity.atInfinity.add P >>= _ = _
  rw [hadd]
  rfl

/-- Only the multiples of reduced points are all right. -/
theorem forall_answers_mul_iff (hP : E.Accepted P) (hG : PlanePoint.toPlane G = E.plane P) :
    (∀ k : ℕ, E.Answers (P.mul (.integer k)) (k • G)) ↔ E.Valid P := by
  constructor
  · intro h
    cases hfin : P.infinity with
    | true => exact ⟨describes_of_accepted hP, fun hfalse => absurd (hfalse.symm.trans hfin) nofun⟩
    | false =>
      have hmul := h 1
      rwa [Nat.cast_one, mul_integer_one hP hfin, one_nsmul, answers_iff_valid hG] at hmul
  · intro h k
    exact (h.denotes hG).mul k

/-! ## Which operations are right -/

/-- The doubles, sums and multiples of accepted points answer a reduced point for the element of
the group that the classes of the coordinates give, exactly under the conditions on the integers
that are named. Reduced points meet them. -/
theorem operations_right_iff (hP : E.Accepted P) (hQ : E.Accepted Q) :
    ∃ G H : E.Group, PlanePoint.toPlane G = E.plane P ∧ PlanePoint.toPlane H = E.plane Q ∧
      (E.Answers P.double (G + G) ↔ E.DoublesRight P) ∧
      (E.Answers (P.add Q) (G + H) ↔ E.AddsRight P Q) ∧
      ((∀ k : ℕ, E.Answers (P.mul (.integer k)) (k • G)) ↔ E.Valid P) ∧
      (E.Valid P → E.Valid Q → E.DoublesRight P ∧ E.AddsRight P Q) := by
  obtain ⟨G, hG⟩ := exists_toPlane_of_accepted hP
  obtain ⟨H, hH⟩ := exists_toPlane_of_accepted hQ
  have hdouble : E.Answers P.double (G + G) ↔ E.DoublesRight P :=
    (answers_double_iff hP hG).trans (and_iff_right rfl)
  have hadd : E.Answers (P.add Q) (G + H) ↔ E.AddsRight P Q := answers_add_iff hP hQ hG hH
  refine ⟨G, H, hG, hH, hdouble, hadd, forall_answers_mul_iff hP hG, fun hPv hQv => ?_⟩
  have hPG := hPv.denotes hG
  exact ⟨hdouble.1 hPG.double, hadd.1 (hPG.add (hQv.denotes hH))⟩

/-- `(5, 1)` and `(22, 1)` are one point of the small curve. Each has a right double, but not
their sum. -/
theorem operations_right_iff_small :
    ∃ G : small.Group, PlanePoint.toPlane G = small.plane (smallPoint 5 1) ∧
      small.plane (smallPoint 22 1) = small.plane (smallPoint 5 1) ∧
      small.Answers (smallPoint 5 1).double (G + G) ∧
      small.Answers (smallPoint 22 1).double (G + G) ∧
      ¬small.Answers ((smallPoint 5 1).add (smallPoint 22 1)) (G + G) := by
  have hP : small.Accepted (smallPoint 5 1) :=
    ⟨⟨rfl, rfl, fun _ => ⟨_, _, rfl, rfl⟩⟩, rfl, by cbv⟩
  have hQ : small.Accepted (smallPoint 22 1) :=
    ⟨⟨rfl, rfl, fun _ => ⟨_, _, rfl, rfl⟩⟩, rfl, by cbv⟩
  have hplane : small.plane (smallPoint 22 1) = small.plane (smallPoint 5 1) := by rfl
  obtain ⟨G, H, hG, hH, hdouble, hadd, -, -⟩ := operations_right_iff hP hQ
  obtain ⟨H', -, hH', -, hdouble', -, -, -⟩ := operations_right_iff hQ hP
  obtain rfl : G = H := PlanePoint.toPlane_injective ((hG.trans hplane.symm).trans hH.symm)
  obtain rfl : G = H' := PlanePoint.toPlane_injective ((hG.trans hplane.symm).trans hH'.symm)
  have hone : ((1 : ℤ) : ZMod 17) ≠ 0 := by decide
  have hx : ((5 : ℤ) : ZMod 17) = (22 : ℤ) := by decide
  refine ⟨G, hG, hplane, hdouble.2 (.inr (.inr hone)), hdouble'.2 (.inr (.inr hone)), ?_⟩
  rw [hadd, smallPoint, smallPoint, addsRight_ofIntegers_iff, if_neg (by decide),
    if_neg (by decide)]
  exact not_not.2 hx

/-- Two octet strings that decode to points on the small curve, with no sum, and a sum that is
not reduced. -/
theorem decoded_sum_refused :
    (Curve.ofIntegers 17 2 2).decodePoint [4, 5, 1] = .ok (smallPoint 5 1) ∧
      (Curve.ofIntegers 17 2 2).decodePoint [4, 22, 1] = .ok (smallPoint 22 1) ∧
      (smallPoint 5 1).isOnCurve = .ok true ∧ (smallPoint 22 1).isOnCurve = .ok true ∧
      (smallPoint 5 1).add (smallPoint 22 1) = .error notInvertible ∧
      (smallPoint 22 1).add (Curve.ofIntegers 17 2 2).pointAtInfinity = .ok (smallPoint 22 1) := by
  refine ⟨rfl, rfl, ?_, ?_, ?_, ?_⟩ <;> cbv

end PrimeCurve

end CryptoSuite
