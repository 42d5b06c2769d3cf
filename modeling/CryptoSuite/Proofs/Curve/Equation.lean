import CryptoSuite.Curve.Arithmetic
import CryptoSuite.Proofs.Curve.IntegerPoint
import CryptoSuite.Proofs.Curve.PrimeCurve

/-!
# The curve equation

On integers `Point.isOnCurve` decides `y² ≡ x³ + ax + b` modulo `p`, for
parameters and coordinates of any sign and size (`Point.isOnCurve_integer`). Two
reductions inside the right side do not change its class
(`modEq_reduced_right`). Every valid point satisfies the equation
(`PrimeCurve.Valid.isOnCurve`).

`Point.GivenBy` names the five integers a test of the equation reads. The test has
three outcomes : it passes at infinity (`isOnCurve_of_infinity`), refuses a modulus of
zero (`GivenBy.isOnCurve_zero`), and else tells whether the modulus divides the
difference of the two sides (`GivenBy.isOnCurve_eq`). So it does not tell congruent
integers apart (`GivenBy.isOnCurve_congr`). Main statement : all of this at once
(`Point.isOnCurve_decides_equation`).
-/

namespace CryptoSuite

namespace Point

variable {F : Type} [Representation F]

/-- The right side of the equation, with the cube and the linear term reduced on their own. -/
theorem modEq_reduced_right (x a b : ℤ) (n : ℕ) :
    x * x % n * x % n + a * x % n + b ≡ x ^ 3 + a * x + b [ZMOD n] := by
  have hcube : x * x % n * x % n ≡ x ^ 3 [ZMOD n] := by
    calc x * x % n * x % n ≡ x * x % n * x [ZMOD n] := Int.mod_modEq _ _
      _ ≡ x * x * x [ZMOD n] := (Int.mod_modEq _ _).mul_right x
      _ = x ^ 3 := by ring
  exact (hcube.add (Int.mod_modEq _ _)).add_right b

theorem isOnCurve_integer {curve : Curve F} {p a b : ℤ} (hp : curve.p = .integer p)
    (ha : curve.a = .integer a) (hb : curve.b = .integer b) (hne : p ≠ 0) (x y : ℤ) :
    isOnCurve ⟨false, .integer x, .integer y, curve⟩ =
      .ok (decide (y ^ 2 ≡ x ^ 3 + a * x + b [ZMOD p])) := by
  have hiff : y * y % p.natAbs =
      (x * x % p.natAbs * x % p.natAbs + a * x % p.natAbs + b) % p.natAbs ↔
        y ^ 2 ≡ x ^ 3 + a * x + b [ZMOD p] := by
    have hright := modEq_reduced_right x a b p.natAbs
    rw [← sq, hright.eq, Int.natCast_natAbs, Int.emod_abs, Int.emod_abs]
    rfl
  simp only [isOnCurve, Bool.false_eq_true, if_false, hp, ha, hb, Number.squareMod_integer _ hne,
    Number.mulMod_integer _ _ hne, Number.add_integer, Number.rem_integer _ hne,
    Number.compare_integer, bind, Except.bind, pure, Except.pure, compare_eq_iff_eq, hiff]

/-! ## The outcomes of the test -/

/-- The coordinates of a point, also those remembered at infinity, and the modulus and the
coefficients of its curve are the given integers. -/
structure GivenBy (p a b x y : ℤ) (P : Point F) : Prop where
  p : P.curve.p = .integer p
  a : P.curve.a = .integer a
  b : P.curve.b = .integer b
  x : P.x = .integer x
  y : P.y = .integer y

variable {p a b x y a' b' x' y' : ℤ} {P Q : Point F}

theorem isOnCurve_of_infinity (hinf : P.infinity = true) : P.isOnCurve = .ok true := by
  rw [isOnCurve, if_pos hinf]

/-- The square of the second coordinate is refused. -/
theorem GivenBy.isOnCurve_zero (h : P.GivenBy 0 a b x y) (hfin : P.infinity = false) :
    P.isOnCurve = .error Number.zeroModulus := by
  simp only [isOnCurve, hfin, Bool.false_eq_true, if_false, h.p, h.y, Number.squareMod_zero, bind,
    Except.bind]

theorem GivenBy.isOnCurve_eq (h : P.GivenBy p a b x y) (hfin : P.infinity = false)
    (hne : p ≠ 0) : P.isOnCurve = .ok (decide (p ∣ y ^ 2 - (x ^ 3 + a * x + b))) := by
  obtain ⟨infinity, X, Y, curve⟩ := P
  obtain rfl : infinity = false := hfin
  obtain ⟨hp, ha, hb, rfl, rfl⟩ := h
  have hiff : y ^ 2 ≡ x ^ 3 + a * x + b [ZMOD p] ↔ p ∣ y ^ 2 - (x ^ 3 + a * x + b) :=
    Int.modEq_comm.trans Int.modEq_iff_dvd
  rw [isOnCurve_integer hp ha hb hne, decide_eq_decide.2 hiff]

theorem GivenBy.isOnCurve_eq_invalidParameter_iff (h : P.GivenBy p a b x y)
    (hfin : P.infinity = false) :
    (∃ context message, P.isOnCurve = .error (.invalidParameter context message)) ↔ p = 0 := by
  constructor
  · rintro ⟨context, message, he⟩
    by_contra hne
    rw [h.isOnCurve_eq hfin hne] at he
    cases he
  · rintro rfl
    exact ⟨_, _, h.isOnCurve_zero hfin⟩

/-- The difference of the two sides keeps its class. -/
theorem modEq_sides (ha : a' ≡ a [ZMOD p]) (hb : b' ≡ b [ZMOD p]) (hx : x' ≡ x [ZMOD p])
    (hy : y' ≡ y [ZMOD p]) :
    y' ^ 2 - (x' ^ 3 + a' * x' + b') ≡ y ^ 2 - (x ^ 3 + a * x + b) [ZMOD p] :=
  (hy.pow 2).sub (((hx.pow 3).add (ha.mul hx)).add hb)

/-- Congruent integers get one answer. -/
theorem GivenBy.isOnCurve_congr (hP : P.GivenBy p a b x y) (hQ : Q.GivenBy p a' b' x' y')
    (hinf : Q.infinity = P.infinity) (ha : a' ≡ a [ZMOD p]) (hb : b' ≡ b [ZMOD p])
    (hx : x' ≡ x [ZMOD p]) (hy : y' ≡ y [ZMOD p]) : Q.isOnCurve = P.isOnCurve := by
  cases hfin : P.infinity with
  | true => rw [isOnCurve_of_infinity hfin, isOnCurve_of_infinity (hinf.trans hfin)]
  | false =>
    by_cases hp : p = 0
    · subst hp
      rw [hP.isOnCurve_zero hfin, hQ.isOnCurve_zero (hinf.trans hfin)]
    · have hdvd : p ∣ y' ^ 2 - (x' ^ 3 + a' * x' + b') ↔ p ∣ y ^ 2 - (x ^ 3 + a * x + b) :=
        (modEq_sides ha hb hx hy).dvd_iff
      rw [hP.isOnCurve_eq hfin hp, hQ.isOnCurve_eq (hinf.trans hfin) hp, decide_eq_decide.2 hdvd]

/-- A point with integer coordinates on a curve with integer parameters, of any sign and size,
passes the test of the equation at infinity. A finite point is refused for a parameter exactly if
the modulus is zero, and else passes exactly if the modulus divides `y² - (x³ + ax + b)`. The
answer stays if coordinates and coefficients are replaced by congruent ones. -/
theorem isOnCurve_decides_equation (h : P.GivenBy p a b x y) :
    (P.infinity = true → P.isOnCurve = .ok true) ∧
    (P.infinity = false →
      ((∃ context message, P.isOnCurve = .error (.invalidParameter context message)) ↔ p = 0) ∧
      (p ≠ 0 → P.isOnCurve = .ok (decide (p ∣ y ^ 2 - (x ^ 3 + a * x + b))))) ∧
    ∀ (a' b' x' y' : ℤ) (Q : Point F), Q.GivenBy p a' b' x' y' → Q.infinity = P.infinity →
      a' ≡ a [ZMOD p] → b' ≡ b [ZMOD p] → x' ≡ x [ZMOD p] → y' ≡ y [ZMOD p] →
        Q.isOnCurve = P.isOnCurve := by
  refine ⟨isOnCurve_of_infinity, fun hfin => ?_, fun a' b' x' y' Q hQ => ?_⟩
  · exact ⟨h.isOnCurve_eq_invalidParameter_iff hfin, h.isOnCurve_eq hfin⟩
  · exact h.isOnCurve_congr hQ

/-- Modulo `-17` the point `(-12, 18)` of `y² = x³ - 15x + 19` passes, as the reduced `(5, 1)` of
`y² = x³ + 2x + 2` does. Modulo zero that point is refused, and passes at infinity. -/
theorem isOnCurve_decides_equation_unreduced :
    let P := ofIntegers (Curve.ofIntegers (-17) (-15) 19) (-12) 18
    let Q := ofIntegers (Curve.ofIntegers (-17) 2 2) 5 1
    let R := ofIntegers (Curve.ofIntegers 0 2 2) 5 1
    P.GivenBy (-17) (-15) 19 (-12) 18 ∧ Q.GivenBy (-17) 2 2 5 1 ∧ R.GivenBy 0 2 2 5 1 ∧
      P.isOnCurve = .ok true ∧ Q.isOnCurve = P.isOnCurve ∧
      (∃ context message, R.isOnCurve = .error (.invalidParameter context message)) ∧
      R.atInfinity.isOnCurve = .ok true := by
  intro P Q R
  have hP : P.GivenBy (-17) (-15) 19 (-12) 18 := ⟨rfl, rfl, rfl, rfl, rfl⟩
  have hQ : Q.GivenBy (-17) 2 2 5 1 := ⟨rfl, rfl, rfl, rfl, rfl⟩
  have hR : R.GivenBy 0 2 2 5 1 := ⟨rfl, rfl, rfl, rfl, rfl⟩
  have hinf : R.atInfinity.GivenBy 0 2 2 5 1 := ⟨rfl, rfl, rfl, rfl, rfl⟩
  obtain ⟨-, hfinite, hcongr⟩ := isOnCurve_decides_equation hP
  obtain ⟨hrefused, -⟩ := (isOnCurve_decides_equation hR).2.1 rfl
  have hpass : P.isOnCurve = .ok true := (hfinite rfl).2 (by decide)
  have hsame : Q.isOnCurve = P.isOnCurve :=
    hcongr 2 2 5 1 Q hQ rfl (by decide) (by decide) (by decide) (by decide)
  exact ⟨hP, hQ, hR, hpass, hsame, hrefused.2 rfl, (isOnCurve_decides_equation hinf).1 rfl⟩

end Point

namespace PrimeCurve

variable {F : Type} [Representation F] {E : PrimeCurve} {P : Point F}

/-- Valid points pass the test of the equation. -/
theorem Valid.isOnCurve (h : E.Valid P) : P.isOnCurve = .ok true := by
  obtain ⟨_ | _, X, Y, curve⟩ := P
  · obtain ⟨x, y, rfl, rfl, -, -, heq⟩ := h.finite rfl
    have hp : (E.p : ℤ) ≠ 0 := by exact_mod_cast E.prime.ne_zero
    rw [Point.isOnCurve_integer h.curve.p h.curve.a h.curve.b hp, decide_eq_true heq]
  · rfl

end PrimeCurve

end CryptoSuite
