import CryptoSuite.Curve.Arithmetic
import CryptoSuite.Proofs.Number.Residue
import Mathlib.Tactic.LinearCombination

/-!
# Points with integer coordinates modulo any number

The operations ask for no prime modulus and no reduced coordinates. What they compute from integer
coordinates of any size and sign, modulo any `n > 0`, is said here once : the three outcomes of a
double (`double_of_y_eq_zero`, `exists_double_of_isUnit`, `double_of_not_isUnit`) and the four of a
sum of finite points (`add_of_magnitudes_eq`, `add_of_x_eq`, `exists_add_of_isUnit`,
`add_of_not_isUnit`). A sum along a line is `lineSum`, with reduced coordinates. Its slope is a
quotient in the ring of classes, and is answered exactly if the denominator is a unit.

`Point.Over p a` says that a point has integer coordinates on a curve with modulus `p` and
coefficient `a` of `x`, whatever the constant coefficient is.
-/

namespace CryptoSuite

/-- The curve of integers with modulus `p` and coefficients `a` and `b`. -/
def Curve.ofIntegers (p a b : ℤ) : Curve Empty :=
  { Curve.new (.integer 0) with p := .integer p, a := .integer a, b := .integer b }

namespace Point

open Number

variable {F : Type}

/-- A point whose curve has the given modulus and coefficient of `x`, and whose coordinates, if
it is finite, are integers. -/
structure Over (p a : ℤ) (P : Point F) : Prop where
  p : P.curve.p = .integer p
  a : P.curve.a = .integer a
  finite : P.infinity = false → ∃ x y : ℤ, P.x = .integer x ∧ P.y = .integer y

/-- The finite point with the given integers as coordinates. -/
abbrev ofIntegers (curve : Curve F) (x y : ℤ) : Point F :=
  ⟨false, .integer x, .integer y, curve⟩

/-- The reflected third point of the line of slope `l` through `(x₁, y₁)` that meets the curve
again at `x₂`, with reduced coordinates. -/
def lineSum {n : ℕ} (curve : Curve F) (l x₁ y₁ x₂ : ZMod n) : Point F :=
  ofIntegers curve (l ^ 2 - x₁ - x₂).val (l * (x₁ - (l ^ 2 - x₁ - x₂)) - y₁).val

theorem Over.atInfinity {p a : ℤ} {P : Point F} (h : P.Over p a) : P.atInfinity.Over p a :=
  ⟨h.p, h.a, nofun⟩

theorem over_lineSum {p a : ℤ} {n : ℕ} {curve : Curve F} (hp : curve.p = .integer p)
    (ha : curve.a = .integer a) (l x₁ y₁ x₂ : ZMod n) : (lineSum curve l x₁ y₁ x₂).Over p a :=
  ⟨hp, ha, fun _ => ⟨_, _, rfl, rfl⟩⟩

variable [Representation F]

/-! ## The branches of a sum -/

section Branches

variable {P Q : Point F} {p a p' a' : ℤ}

/-- The curves of two points count as one if modulus and coefficient of `x` agree. -/
theorem onOneCurve_integer (hp : P.curve.p = .integer p) (ha : P.curve.a = .integer a)
    (hp' : Q.curve.p = .integer p') (ha' : Q.curve.a = .integer a') :
    P.onOneCurve Q = .ok (decide (p = p' ∧ a = a')) := by
  rw [onOneCurve, hp, hp', ha, ha', compare_integer, compare_integer]
  cases hcompare : Ord.compare p p' with
  | eq =>
    obtain rfl := compare_eq_iff_eq.1 hcompare
    simp [bind, Except.bind, pure, Except.pure]
  | lt | gt =>
    have hne : p ≠ p' := by
      rintro rfl
      simp at hcompare
    simp [bind, Except.bind, pure, Except.pure, hne]

theorem requireOneCurve_integer (hp : P.curve.p = .integer p) (ha : P.curve.a = .integer a)
    (hp' : Q.curve.p = .integer p) (ha' : Q.curve.a = .integer a) :
    P.requireOneCurve Q = .ok () := by
  rw [requireOneCurve, onOneCurve_integer hp ha hp' ha', decide_eq_true ⟨rfl, rfl⟩]
  rfl

theorem Over.requireOneCurve (hP : P.Over p a) (hQ : Q.Over p a) :
    P.requireOneCurve Q = .ok () :=
  requireOneCurve_integer hP.p hP.a hQ.p hQ.a

variable (hone : P.requireOneCurve Q = .ok ())
include hone

theorem add_of_left_infinity (hP : P.infinity = true) :
    P.add Q = .ok (if Q.infinity then P.atInfinity else P.finite Q.x Q.y) := by
  unfold add
  rw [hone, hP]
  cases Q.infinity <;> rfl

theorem add_of_right_infinity (hP : P.infinity = false) (hQ : Q.infinity = true) :
    P.add Q = .ok P := by
  unfold add
  rw [hone, hP, hQ]
  rfl

variable {o o' : Ordering} (hP : P.infinity = false) (hQ : Q.infinity = false)
include hP hQ

theorem add_eq_double (h : P.compare Q = .ok .eq) : P.add Q = P.double := by
  unfold add
  rw [hone, hP, hQ, h]
  rfl

theorem add_eq_atInfinity (h : P.compare Q = .ok o) (ho : o ≠ .eq)
    (hx : P.x.compare Q.x = .ok .eq) : P.add Q = .ok P.atInfinity := by
  unfold add
  rw [hone, hP, hQ, h, hx]
  cases o with
  | eq => exact absurd rfl ho
  | lt | gt => rfl

theorem add_eq_alongLine (h : P.compare Q = .ok o) (ho : o ≠ .eq)
    (hx : P.x.compare Q.x = .ok o') (ho' : o' ≠ .eq) :
    P.add Q = P.chordSlope Q >>= fun l => P.alongLine l Q.x := by
  unfold add
  rw [hone, hP, hQ, h, hx]
  cases o with
  | eq => exact absurd rfl ho
  | lt | gt =>
    cases o' with
    | eq => exact absurd rfl ho'
    | lt | gt => rfl

end Branches

/-! ## Lines and slopes -/

section Lines

variable {n : ℕ} [NeZero n] {p a : ℤ} (hn : p.natAbs = n) {curve curve' : Curve F}
  (hp : curve.p = .integer p)
include hn hp

theorem alongLine_ofIntegers (l : ZMod n) (x₁ y₁ x₂ : ℤ) :
    (ofIntegers curve x₁ y₁).alongLine (residue l) (.integer x₂) =
      .ok (lineSum curve l x₁ y₁ x₂) := by
  simp only [alongLine, hp, squareMod_of_natAbs_eq hn, mulMod_of_natAbs_eq hn, sub_integer,
    rem_of_natAbs_eq hn, bind, Except.bind, pure, Except.pure, Int.cast_sub, Int.cast_natCast,
    ZMod.natCast_zmod_val, Point.finite, lineSum, ← sq l, mul_comm _ l]

/-- The inverse keeps the first coordinate and answers a reduced second one. -/
theorem invert_ofIntegers (x y : ℤ) :
    (ofIntegers curve x y).invert = .ok (ofIntegers curve x (-(y : ZMod n)).val) := by
  have hzero : (p : ZMod n) = 0 := by
    rw [ZMod.intCast_zmod_eq_zero_iff_dvd, ← hn]
    exact Int.natAbs_dvd.2 dvd_rfl
  simp only [invert, Bool.false_eq_true, if_false, hp, sub_integer, rem_of_natAbs_eq hn,
    Int.cast_sub, hzero, zero_sub, Point.finite, bind, Except.bind, pure, Except.pure]

/-- The tangent has a slope if twice the second coordinate is a unit. -/
theorem exists_tangentSlope (ha : curve.a = .integer a) (x : ℤ) {y : ℤ}
    (hunit : IsUnit (2 * y : ZMod n)) : ∃ l : ZMod n,
      (ofIntegers curve x y).tangentSlope = .ok (residue l) ∧ 2 * y * l = 3 * x ^ 2 + a := by
  have hcast : ((y * 2 : ℤ) : ZMod n) = 2 * y := by
    push_cast
    ring
  obtain ⟨r, hr, hone⟩ := exists_invMod_of_isUnit (F := F) hn (hcast ▸ hunit)
  rw [hcast] at hone
  refine ⟨(3 * x ^ 2 + a) * r, ?_, ?_⟩
  · simp only [tangentSlope, hp, ha, withSmall, squareMod_of_natAbs_eq hn, mulMod_of_natAbs_eq hn,
      add_integer, mul_integer, Nat.cast_ofNat, hr, rem_of_natAbs_eq hn, bind, Except.bind,
      Int.cast_add, Int.cast_mul, Int.cast_natCast, Int.cast_ofNat, ZMod.natCast_zmod_val,
      ← sq (x : ZMod n), mul_comm _ (3 : ZMod n)]
  · linear_combination (3 * (x : ZMod n) ^ 2 + a) * hone

theorem tangentSlope_of_not_isUnit (ha : curve.a = .integer a) (x : ℤ) {y : ℤ}
    (hunit : ¬IsUnit (2 * y : ZMod n)) :
    (ofIntegers curve x y).tangentSlope = .error notInvertible := by
  have hcast : ((y * 2 : ℤ) : ZMod n) = 2 * y := by
    push_cast
    ring
  simp only [tangentSlope, hp, ha, withSmall, squareMod_of_natAbs_eq hn, mulMod_of_natAbs_eq hn,
    add_integer, mul_integer, Nat.cast_ofNat, invMod_of_not_isUnit hn (hcast ▸ hunit), bind,
    Except.bind]

/-- The chord has a slope if the difference of the first coordinates is a unit. -/
theorem exists_chordSlope {x₁ x₂ : ℤ} (y₁ y₂ : ℤ) (hunit : IsUnit (x₂ - x₁ : ZMod n)) :
    ∃ l : ZMod n,
      (ofIntegers curve x₁ y₁).chordSlope (ofIntegers curve' x₂ y₂) = .ok (residue l) ∧
        (x₂ - x₁) * l = y₂ - y₁ := by
  have hcast : ((x₂ - x₁ : ℤ) : ZMod n) = x₂ - x₁ := Int.cast_sub x₂ x₁
  obtain ⟨r, hr, hone⟩ := exists_invMod_of_isUnit (F := F) hn (hcast ▸ hunit)
  rw [hcast] at hone
  refine ⟨(y₂ - y₁) * r, ?_, ?_⟩
  · simp only [chordSlope, hp, sub_integer, hr, abs_integer, Int.natAbs_natCast, mul_integer,
      rem_of_natAbs_eq hn, bind, Except.bind, Int.cast_sub, Int.cast_mul, Int.cast_natCast]
  · linear_combination ((y₂ : ZMod n) - y₁) * hone

theorem chordSlope_of_not_isUnit {x₁ x₂ : ℤ} (y₁ y₂ : ℤ)
    (hunit : ¬IsUnit (x₂ - x₁ : ZMod n)) :
    (ofIntegers curve x₁ y₁).chordSlope (ofIntegers curve' x₂ y₂) = .error notInvertible := by
  have hcast : ((x₂ - x₁ : ℤ) : ZMod n) = x₂ - x₁ := Int.cast_sub x₂ x₁
  simp only [chordSlope, hp, sub_integer, invMod_of_not_isUnit hn (hcast ▸ hunit), bind,
    Except.bind]

end Lines

/-! ## Inverses at infinity and doubles -/

theorem invert_of_infinity {P : Point F} (h : P.infinity = true) :
    P.invert = .ok P.atInfinity := by
  rw [invert, if_pos h]

section Doubles

variable {n : ℕ} [NeZero n] {p a : ℤ} {curve : Curve F}

theorem double_of_infinity {P : Point F} (h : P.infinity = true) :
    P.double = .ok P.atInfinity := by
  rw [double, h]
  rfl

theorem double_of_y_eq_zero (curve : Curve F) (x : ℤ) :
    (ofIntegers curve x 0).double = .ok (ofIntegers curve x 0).atInfinity := rfl

theorem double_of_y_ne_zero (x : ℤ) {y : ℤ} (hy : y ≠ 0) :
    (ofIntegers curve x y).double =
      (ofIntegers curve x y).tangentSlope >>= fun l =>
        (ofIntegers curve x y).alongLine l (.integer x) := by
  rw [double, if_neg (by simpa [isZero] using hy)]

theorem exists_double_of_isUnit (hn : p.natAbs = n) (hp : curve.p = .integer p)
    (ha : curve.a = .integer a) (x : ℤ) {y : ℤ} (hy : y ≠ 0) (hunit : IsUnit (2 * y : ZMod n)) :
    ∃ l : ZMod n, (ofIntegers curve x y).double = .ok (lineSum curve l x y x) ∧
      2 * y * l = 3 * x ^ 2 + a := by
  obtain ⟨l, hl, hslope⟩ := exists_tangentSlope hn hp ha x hunit
  rw [double_of_y_ne_zero x hy, hl]
  exact ⟨l, alongLine_ofIntegers hn hp l x y x, hslope⟩

theorem double_of_not_isUnit (hn : p.natAbs = n) (hp : curve.p = .integer p)
    (ha : curve.a = .integer a) (x : ℤ) {y : ℤ} (hy : y ≠ 0) (hunit : ¬IsUnit (2 * y : ZMod n)) :
    (ofIntegers curve x y).double = .error notInvertible := by
  rw [double_of_y_ne_zero x hy, tangentSlope_of_not_isUnit hn hp ha x hunit]
  rfl

theorem double_of_zero_modulus (hp : curve.p = .integer 0) (x : ℤ) {y : ℤ} (hy : y ≠ 0) :
    (ofIntegers curve x y).double = .error zeroModulus := by
  rw [double_of_y_ne_zero x hy]
  simp only [tangentSlope, hp, squareMod_zero, bind, Except.bind]

end Doubles

/-! ## Sums of finite points -/

section Sums

variable {p a : ℤ} {curve curve' : Curve F} {x₁ y₁ x₂ y₂ : ℤ}
  (hP : (ofIntegers curve x₁ y₁).Over p a) (hQ : (ofIntegers curve' x₂ y₂).Over p a)

/-- Finite points are compared by their first coordinates, then by their second ones. -/
theorem compare_ofIntegers (curve curve' : Curve F) (x₁ y₁ x₂ y₂ : ℤ) :
    (ofIntegers curve x₁ y₁).compare (ofIntegers curve' x₂ y₂) =
      .ok ((Ord.compare x₁.natAbs x₂.natAbs).then (Ord.compare y₁.natAbs y₂.natAbs)) := by
  simp only [compare, compareMagnitude_integer, bind, Except.bind, pure, Except.pure]
  cases Ord.compare x₁.natAbs x₂.natAbs <;> rfl

theorem exists_compare_ofIntegers (curve curve' : Curve F) (x₁ y₁ x₂ y₂ : ℤ) :
    ∃ o, (ofIntegers curve x₁ y₁).compare (ofIntegers curve' x₂ y₂) = .ok o ∧
      (o = .eq ↔ x₁.natAbs = x₂.natAbs ∧ y₁.natAbs = y₂.natAbs) := by
  refine ⟨_, compare_ofIntegers curve curve' x₁ y₁ x₂ y₂, ?_⟩
  rw [Ordering.then_eq_eq, compare_eq_iff_eq, compare_eq_iff_eq]

include hP hQ

/-- Points whose coordinates have the same magnitudes count as equal. -/
theorem add_of_magnitudes_eq (hx : x₁.natAbs = x₂.natAbs) (hy : y₁.natAbs = y₂.natAbs) :
    (ofIntegers curve x₁ y₁).add (ofIntegers curve' x₂ y₂) = (ofIntegers curve x₁ y₁).double := by
  obtain ⟨o, ho, heq⟩ := exists_compare_ofIntegers curve curve' x₁ y₁ x₂ y₂
  rw [heq.2 ⟨hx, hy⟩] at ho
  exact add_eq_double (hP.requireOneCurve hQ) rfl rfl ho

variable (hne : ¬(x₁.natAbs = x₂.natAbs ∧ y₁.natAbs = y₂.natAbs))
include hne

/-- Other points with one first coordinate count as opposite. -/
theorem add_of_x_eq (hx : x₁ = x₂) :
    (ofIntegers curve x₁ y₁).add (ofIntegers curve' x₂ y₂) =
      .ok (ofIntegers curve x₁ y₁).atInfinity := by
  obtain ⟨o, ho, heq⟩ := exists_compare_ofIntegers curve curve' x₁ y₁ x₂ y₂
  refine add_eq_atInfinity (hP.requireOneCurve hQ) rfl rfl ho (fun h => hne (heq.1 h)) ?_
  rw [compare_integer, compare_eq_iff_eq.2 hx]

theorem add_of_x_ne (hx : x₁ ≠ x₂) :
    (ofIntegers curve x₁ y₁).add (ofIntegers curve' x₂ y₂) =
      (ofIntegers curve x₁ y₁).chordSlope (ofIntegers curve' x₂ y₂) >>= fun l =>
        (ofIntegers curve x₁ y₁).alongLine l (.integer x₂) := by
  obtain ⟨o, ho, heq⟩ := exists_compare_ofIntegers curve curve' x₁ y₁ x₂ y₂
  exact add_eq_alongLine (hP.requireOneCurve hQ) rfl rfl ho (fun h => hne (heq.1 h))
    (compare_integer x₁ x₂) fun h => hx (compare_eq_iff_eq.1 h)

theorem add_of_zero_modulus (hp : p = 0) (hx : x₁ ≠ x₂) :
    (ofIntegers curve x₁ y₁).add (ofIntegers curve' x₂ y₂) = .error zeroModulus := by
  have hzero : curve.p = .integer 0 := hp ▸ hP.p
  rw [add_of_x_ne hP hQ hne hx]
  simp only [chordSlope, hzero, sub_integer, invMod_zero, bind, Except.bind]

variable {n : ℕ} [NeZero n] (hn : p.natAbs = n)
include hn

theorem exists_add_of_isUnit (hx : x₁ ≠ x₂) (hunit : IsUnit (x₂ - x₁ : ZMod n)) :
    ∃ l : ZMod n, (ofIntegers curve x₁ y₁).add (ofIntegers curve' x₂ y₂) =
      .ok (lineSum curve l x₁ y₁ x₂) ∧ (x₂ - x₁) * l = y₂ - y₁ := by
  obtain ⟨l, hl, hslope⟩ := exists_chordSlope hn hP.p y₁ y₂ hunit
  rw [add_of_x_ne hP hQ hne hx, hl]
  exact ⟨l, alongLine_ofIntegers hn hP.p l x₁ y₁ x₂, hslope⟩

theorem add_of_not_isUnit (hx : x₁ ≠ x₂) (hunit : ¬IsUnit (x₂ - x₁ : ZMod n)) :
    (ofIntegers curve x₁ y₁).add (ofIntegers curve' x₂ y₂) = .error notInvertible := by
  rw [add_of_x_ne hP hQ hne hx, chordSlope_of_not_isUnit hn hP.p y₁ y₂ hunit]
  rfl

end Sums

/-! ## All cases at once -/

/-- What operations on integers fail with. -/
inductive IntegerFailure : Error → Prop
  | zeroModulus : IntegerFailure zeroModulus
  | notInvertible : IntegerFailure notInvertible
  | negativeScalar : IntegerFailure negativeScalar

/-- What the double of a point over the integers can be. -/
inductive DoubleCase (p a : ℤ) (P : Point F) : Except Error (Point F) → Prop
  | vertical : DoubleCase p a P (.ok P.atInfinity)
  | tangent {x y : ℤ} {l : ZMod p.natAbs} (hP : P = ofIntegers P.curve x y)
      (hslope : 2 * y * l = 3 * x ^ 2 + a) : DoubleCase p a P (.ok (lineSum P.curve l x y x))
  | failure {e : Error} (h : IntegerFailure e) : DoubleCase p a P (.error e)

/-- What the sum of two points over the integers can be. -/
inductive SumCase (p : ℤ) (P Q : Point F) : Except Error (Point F) → Prop
  | infinity : SumCase p P Q (.ok P.atInfinity)
  | left : SumCase p P Q (.ok P)
  | right (hQ : Q.infinity = false) : SumCase p P Q (.ok (P.finite Q.x Q.y))
  | double : SumCase p P Q P.double
  | chord {x₁ y₁ x₂ y₂ : ℤ} {l : ZMod p.natAbs} (hP : P = ofIntegers P.curve x₁ y₁)
      (hQ : Q = ofIntegers Q.curve x₂ y₂) (hunit : IsUnit (x₂ - x₁ : ZMod p.natAbs))
      (hslope : (x₂ - x₁) * l = y₂ - y₁) : SumCase p P Q (.ok (lineSum P.curve l x₁ y₁ x₂))
  | failure {e : Error} (h : IntegerFailure e) : SumCase p P Q (.error e)

section Cases

variable {p a : ℤ} {P Q : Point F}

omit [Representation F] in
/-- A finite point over the integers is given by two of them. -/
theorem Over.exists_ofIntegers (h : P.Over p a) (hfin : P.infinity = false) :
    ∃ x y : ℤ, P = ofIntegers P.curve x y := by
  obtain ⟨infinity, X, Y, curve⟩ := P
  obtain rfl : infinity = false := hfin
  obtain ⟨x, y, rfl, rfl⟩ := h.finite rfl
  exact ⟨x, y, rfl⟩

theorem Over.doubleCase (h : P.Over p a) : DoubleCase p a P P.double := by
  cases hfin : P.infinity with
  | true =>
    rw [double_of_infinity hfin]
    exact .vertical
  | false =>
    obtain ⟨x, y, hxy⟩ := h.exists_ofIntegers hfin
    generalize P.curve = curve at hxy
    subst hxy
    by_cases hy : y = 0
    · subst hy
      exact .vertical
    by_cases hp : p = 0
    · rw [double_of_zero_modulus (hp ▸ h.p) x hy]
      exact .failure .zeroModulus
    have : NeZero p.natAbs := ⟨Int.natAbs_ne_zero.2 hp⟩
    by_cases hunit : IsUnit (2 * y : ZMod p.natAbs)
    · obtain ⟨l, hl, hslope⟩ := exists_double_of_isUnit rfl h.p h.a x hy hunit
      rw [hl]
      exact .tangent rfl hslope
    · rw [double_of_not_isUnit rfl h.p h.a x hy hunit]
      exact .failure .notInvertible

theorem Over.sumCase (hP : P.Over p a) (hQ : Q.Over p a) : SumCase p P Q (P.add Q) := by
  have hone := hP.requireOneCurve hQ
  cases hPfin : P.infinity with
  | true =>
    rw [add_of_left_infinity hone hPfin]
    cases hQfin : Q.infinity with
    | true => exact .infinity
    | false => exact .right hQfin
  | false =>
    cases hQfin : Q.infinity with
    | true =>
      rw [add_of_right_infinity hone hPfin hQfin]
      exact .left
    | false =>
      obtain ⟨x₁, y₁, hxy₁⟩ := hP.exists_ofIntegers hPfin
      obtain ⟨x₂, y₂, hxy₂⟩ := hQ.exists_ofIntegers hQfin
      generalize P.curve = curve at hxy₁
      generalize Q.curve = curve' at hxy₂
      subst hxy₁ hxy₂
      by_cases hmag : x₁.natAbs = x₂.natAbs ∧ y₁.natAbs = y₂.natAbs
      · rw [add_of_magnitudes_eq hP hQ hmag.1 hmag.2]
        exact .double
      by_cases hx : x₁ = x₂
      · rw [add_of_x_eq hP hQ hmag hx]
        exact .infinity
      by_cases hp : p = 0
      · rw [add_of_zero_modulus hP hQ hmag hp hx]
        exact .failure .zeroModulus
      have : NeZero p.natAbs := ⟨Int.natAbs_ne_zero.2 hp⟩
      by_cases hunit : IsUnit (x₂ - x₁ : ZMod p.natAbs)
      · obtain ⟨l, hl, hslope⟩ := exists_add_of_isUnit hP hQ hmag rfl hx hunit
        rw [hl]
        exact .chord rfl rfl hunit hslope
      · rw [add_of_not_isUnit hP hQ hmag rfl hx hunit]
        exact .failure .notInvertible

end Cases

end Point

end CryptoSuite
