import CryptoSuite.Proofs.Curve.IntegerPoint
import CryptoSuite.Proofs.Curve.PrimeCurve

/-!
# Addition follows the chord-and-tangent law

On valid points the operations of points never fail, answer valid points and
compute the textbook law over the field of the curve (`add_double_invert`). The
steps are those of the operations : the tangent (`double_ofIntegers`), the chord
(`add_ofIntegers`), and the order of points, which sees equality
(`Reads.exists_compare`).

Each inversion is of a residue that is not zero (`invMod_chord`,
`invMod_tangent`), so it succeeds, and answers a residue, which is its own
absolute value.
-/

namespace CryptoSuite

namespace PrimeCurve

open Number

variable {F : Type} [Representation F] {E : PrimeCurve}

/-! ## Inverses -/

section Inverses

variable (x₁ y₁ x₂ : ZMod E.p)

/-- The difference of distinct first coordinates is prime to `p` and has a reduced inverse. -/
theorem invMod_chord (hx : x₁ ≠ x₂) :
    Int.gcd (x₂.val - x₁.val) E.p = 1 ∧
      (integer (x₂.val - x₁.val) : Number F).invMod (integer E.p) =
        .ok (residue (x₂ - x₁)⁻¹) := by
  have hcast : (((x₂.val : ℤ) - x₁.val : ℤ) : ZMod E.p) = x₂ - x₁ := by
    rw [Int.cast_sub, Int.cast_natCast, Int.cast_natCast, ZMod.natCast_zmod_val,
      ZMod.natCast_zmod_val]
  have hne : (((x₂.val : ℤ) - x₁.val : ℤ) : ZMod E.p) ≠ 0 := by
    rw [hcast]
    exact sub_ne_zero.2 hx.symm
  refine ⟨Residue.gcd_eq_one_of_cast_ne_zero hne, ?_⟩
  rw [invMod_eq_residue hne, hcast]

/-- Twice a second coordinate that is not zero is prime to `p` and has a reduced inverse. -/
theorem invMod_tangent (hy : y₁ ≠ 0) :
    Int.gcd (y₁.val * 2) E.p = 1 ∧
      (integer (y₁.val * 2) : Number F).invMod (integer E.p) = .ok (residue (2 * y₁)⁻¹) := by
  have hcast : (((y₁.val : ℤ) * 2 : ℤ) : ZMod E.p) = 2 * y₁ := by
    rw [Int.cast_mul, Int.cast_natCast, ZMod.natCast_zmod_val, Int.cast_ofNat, mul_comm]
  have hne : (((y₁.val : ℤ) * 2 : ℤ) : ZMod E.p) ≠ 0 := by
    rw [hcast]
    exact mul_ne_zero E.two_ne_zero hy
  refine ⟨Residue.gcd_eq_one_of_cast_ne_zero hne, ?_⟩
  rw [invMod_eq_residue hne, hcast]

end Inverses

/-! ## Tangents and chords -/

section Lines

variable {curve curve' : Curve F}

omit [Representation F] in
theorem over_ofIntegers (h : E.Describes curve) (x y : ℤ) :
    (Point.ofIntegers curve x y).Over E.p E.a :=
  ⟨h.p, h.a, fun _ => ⟨x, y, rfl, rfl⟩⟩

/-- The double stands for the sum along the tangent, for coordinates of any size and sign. -/
theorem double_ofIntegers (h : E.Describes curve) (x y : ℤ) (hy : (y : ZMod E.p) ≠ 0) :
    ∃ D, (Point.ofIntegers curve x y).double = .ok D ∧
      E.Reads D (.tangent (E.a : ZMod E.p) x y) := by
  have hne : y ≠ 0 := by
    rintro rfl
    exact hy Int.cast_zero
  have htwo : 2 * (y : ZMod E.p) ≠ 0 := mul_ne_zero E.two_ne_zero hy
  obtain ⟨l, hl, hslope⟩ := Point.exists_double_of_isUnit (Int.natAbs_natCast E.p) h.p h.a x hne
    (isUnit_iff_ne_zero.2 htwo)
  refine ⟨_, hl, ?_⟩
  rw [PlanePoint.tangent, ← hslope, mul_div_cancel_left₀ l htwo]
  exact Reads.finite _ _ h

/-- The sum of points that do not compare as equal stands for the sum along the chord, if their
first coordinates are distinct modulo `p`. -/
theorem add_ofIntegers (h : E.Describes curve) (h' : E.Describes curve') {x₁ y₁ x₂ y₂ : ℤ}
    (hmag : ¬(x₁.natAbs = x₂.natAbs ∧ y₁.natAbs = y₂.natAbs)) (hx : (x₁ : ZMod E.p) ≠ x₂) :
    ∃ S, (Point.ofIntegers curve x₁ y₁).add (Point.ofIntegers curve' x₂ y₂) = .ok S ∧
      E.Reads S (.chord (x₁ : ZMod E.p) y₁ x₂ y₂) := by
  have hne : x₁ ≠ x₂ := fun heq => hx (congrArg Int.cast heq)
  have hdiff : (x₂ : ZMod E.p) - x₁ ≠ 0 := sub_ne_zero.2 hx.symm
  obtain ⟨l, hl, hslope⟩ := Point.exists_add_of_isUnit (over_ofIntegers h x₁ y₁)
    (over_ofIntegers h' x₂ y₂) hmag (Int.natAbs_natCast E.p) hne (isUnit_iff_ne_zero.2 hdiff)
  refine ⟨_, hl, ?_⟩
  rw [PlanePoint.chord, ← hslope, mul_div_cancel_left₀ l hdiff]
  exact Reads.finite _ _ h

end Lines

/-! ## The operations on points that stand for points of the plane -/

variable {P Q : Point F} {A B : PlanePoint (ZMod E.p)}

theorem requireOneCurve_eq_ok (hP : E.Describes P.curve) (hQ : E.Describes Q.curve) :
    P.requireOneCurve Q = .ok () :=
  Point.requireOneCurve_integer hP.p hP.a hQ.p hQ.a

theorem Reads.exists_compare (hP : E.Reads P A) (hQ : E.Reads Q B) :
    ∃ o, P.compare Q = .ok o ∧ (o = .eq ↔ A = B) := by
  cases hP with
  | infinity x₁ y₁ h₁ =>
    cases hQ with
    | infinity x₂ y₂ h₂ => exact ⟨.eq, rfl, by simp⟩
    | finite x₂ y₂ h₂ => exact ⟨.lt, rfl, by simp⟩
  | finite x₁ y₁ h₁ =>
    cases hQ with
    | infinity x₂ y₂ h₂ => exact ⟨.gt, rfl, by simp⟩
    | finite x₂ y₂ h₂ =>
      obtain ⟨o, ho, hx⟩ := exists_compareMagnitude_residue (F := F) x₁ x₂
      obtain ⟨o', ho', hy⟩ := exists_compareMagnitude_residue (F := F) y₁ y₂
      simp only [Point.compare, ho, ho', bind, Except.bind, PlanePoint.finite.injEq, ← hx, ← hy]
      cases o with
      | eq => exact ⟨o', rfl, by simp⟩
      | lt => exact ⟨.lt, rfl, by simp⟩
      | gt => exact ⟨.gt, rfl, by simp⟩

theorem Reads.compare_eq_iff (hP : E.Reads P A) (hQ : E.Reads Q B) :
    P.compare Q = .ok .eq ↔ A = B := by
  obtain ⟨o, ho, hAB⟩ := hP.exists_compare hQ
  rw [ho, ← hAB, Except.ok.injEq]

omit [Representation F] in
theorem Reads.atInfinity (h : E.Reads P A) : E.Reads P.atInfinity .infinity :=
  Reads.infinity P.x P.y h.describes

/-- The inverse stands for the reflection. -/
theorem Reads.invert (h : E.Reads P A) : ∃ N, P.invert = .ok N ∧ E.Reads N A.neg := by
  cases h with
  | infinity x y h => exact ⟨_, rfl, Reads.infinity x y h⟩
  | finite x y h =>
    have hinvert := Point.invert_ofIntegers (Int.natAbs_natCast E.p) h.p x.val y.val
    rw [Int.cast_natCast, ZMod.natCast_zmod_val] at hinvert
    exact ⟨_, hinvert, Reads.finite x (-y) h⟩

/-- The double stands for the textbook double. -/
theorem Reads.double (h : E.Reads P A) :
    ∃ D, P.double = .ok D ∧ E.Reads D (A.double (E.a : ZMod E.p)) := by
  cases h with
  | infinity x y h => exact ⟨_, rfl, Reads.infinity x y h⟩
  | finite x y h =>
    rw [PlanePoint.double]
    by_cases hy : y = 0
    · rw [Point.double, if_pos hy, if_pos (by simp [hy])]
      exact ⟨_, rfl, Reads.infinity _ _ h⟩
    · have htangent := double_ofIntegers h x.val y.val
      simp only [Int.cast_natCast, ZMod.natCast_zmod_val] at htangent
      rw [if_neg hy]
      exact htangent hy

/-! ### The sum -/

/-- The sum of two finite points of the curve, case by case. -/
theorem Reads.add_finite {x₁ y₁ x₂ y₂ : ZMod E.p} (hP : E.Reads P (.finite x₁ y₁))
    (hQ : E.Reads Q (.finite x₂ y₂)) (hA : E.OnCurve (.finite x₁ y₁))
    (hB : E.OnCurve (.finite x₂ y₂)) :
    ∃ S, P.add Q = .ok S ∧
      E.Reads S (PlanePoint.sum (E.a : ZMod E.p) (.finite x₁ y₁) (.finite x₂ y₂)) := by
  have hdouble := hP.double
  cases hP with | finite x₁ y₁ h₁ => ?_
  cases hQ with | finite x₂ y₂ h₂ => ?_
  have hval : (x₁.val : ℤ).natAbs = (x₂.val : ℤ).natAbs ∧
      (y₁.val : ℤ).natAbs = (y₂.val : ℤ).natAbs ↔ x₁ = x₂ ∧ y₁ = y₂ := by
    simp only [Int.natAbs_natCast, (ZMod.val_injective E.p).eq_iff]
  have hP := over_ofIntegers h₁ x₁.val y₁.val
  have hQ := over_ofIntegers h₂ x₂.val y₂.val
  by_cases heq : x₁ = x₂ ∧ y₁ = y₂
  · obtain ⟨hx, hy⟩ := hval.2 heq
    rw [Point.add_of_magnitudes_eq hP hQ hx hy, ← heq.1, ← heq.2, PlanePoint.sum_self E.two_ne_zero]
    exact hdouble
  have hmag := mt hval.1 heq
  by_cases hx : x₁ = x₂
  · -- Distinct points of the curve with one first coordinate are opposite.
    have hy : y₁ = -y₂ := by
      subst hx
      exact (hA.eq_or_eq_neg hB).resolve_left fun hy => heq ⟨rfl, hy⟩
    rw [Point.add_of_x_eq hP hQ hmag (by rw [hx]), PlanePoint.sum, if_pos ⟨hx, hy⟩]
    exact ⟨_, rfl, Reads.infinity _ _ h₁⟩
  · have hchord := add_ofIntegers h₁ h₂ hmag
    simp only [Int.cast_natCast, ZMod.natCast_zmod_val] at hchord
    rw [PlanePoint.sum, if_neg fun h => hx h.1, if_neg fun h => hx h.1]
    exact hchord hx

/-- The sum of two points of the curve stands for the textbook sum. -/
theorem Reads.add (hP : E.Reads P A) (hQ : E.Reads Q B) (hA : E.OnCurve A) (hB : E.OnCurve B) :
    ∃ S, P.add Q = .ok S ∧ E.Reads S (A.sum (E.a : ZMod E.p) B) := by
  have hone := requireOneCurve_eq_ok hP.describes hQ.describes
  cases hP with
  | infinity x₁ y₁ h₁ =>
    unfold Point.add
    rw [hone]
    cases hQ with
    | infinity x₂ y₂ h₂ => exact ⟨_, rfl, Reads.infinity x₁ y₁ h₁⟩
    | finite x₂ y₂ h₂ => exact ⟨_, rfl, Reads.finite x₂ y₂ h₁⟩
  | finite x₁ y₁ h₁ =>
    cases hQ with
    | infinity x₂ y₂ h₂ =>
      unfold Point.add
      rw [hone]
      exact ⟨_, rfl, Reads.finite x₁ y₁ h₁⟩
    | finite x₂ y₂ h₂ => exact (Reads.finite x₁ y₁ h₁).add_finite (.finite x₂ y₂ h₂) hA hB

/-! ## The law -/

/-- On valid points sums, doubles and inverses are answered, are valid, and stand for the
textbook sums, doubles and reflections. The two inversions on the way are of integers prime
to `p`, and the absolute value taken of the chord's is the inverse itself. -/
theorem add_double_invert (hP : E.Valid P) (hQ : E.Valid Q) :
    (∃ S, P.add Q = .ok S ∧ E.Valid S ∧
      E.plane S = (E.plane P).sum (E.a : ZMod E.p) (E.plane Q)) ∧
    (∃ D, P.double = .ok D ∧ E.Valid D ∧ E.plane D = (E.plane P).double (E.a : ZMod E.p)) ∧
    (∃ N, P.invert = .ok N ∧ E.Valid N ∧ E.plane N = (E.plane P).neg) ∧
    (P.infinity = false → Q.infinity = false → P.x ≠ Q.x →
      ∃ d r, Q.x.sub P.x = .ok d ∧ Int.gcd d.toInt E.p = 1 ∧ d.invMod P.curve.p = .ok r ∧
        r.abs = r) ∧
    (P.infinity = false → P.y.isZero = false →
      ∃ d r, P.y.mul (P.curve.p.withSmall 2) = .ok d ∧ Int.gcd d.toInt E.p = 1 ∧
        d.invMod P.curve.p = .ok r) := by
  obtain ⟨A, hA, hAc⟩ := valid_iff.1 hP
  obtain ⟨B, hB, hBc⟩ := valid_iff.1 hQ
  rw [hA.plane_eq, hB.plane_eq]
  refine ⟨?_, ?_, ?_, ?_, ?_⟩
  · obtain ⟨S, hS, hr⟩ := hA.add hB hAc hBc
    exact ⟨S, hS, hr.valid (hAc.sum E.two_ne_zero E.nonsingular_cast hBc), hr.plane_eq⟩
  · obtain ⟨D, hD, hr⟩ := hA.double
    exact ⟨D, hD, hr.valid (hAc.double E.two_ne_zero E.nonsingular_cast), hr.plane_eq⟩
  · obtain ⟨N, hN, hr⟩ := hA.invert
    exact ⟨N, hN, hr.valid hAc.neg, hr.plane_eq⟩
  · intro hPf hQf hx
    cases hA with | infinity => cases hPf | finite x₁ y₁ h₁ => ?_
    cases hB with | infinity => cases hQf | finite x₂ y₂ h₂ => ?_
    obtain ⟨hgcd, hinv⟩ := invMod_chord (F := F) x₁ x₂ fun h => hx (by rw [h])
    rw [h₁.p]
    exact ⟨_, _, sub_integer _ _, hgcd, hinv, abs_residue _⟩
  · intro hPf hy
    cases hA with | infinity => cases hPf | finite x₁ y₁ h₁ => ?_
    obtain ⟨hgcd, hinv⟩ := invMod_tangent (F := F) y₁ fun h => by simp [h] at hy
    rw [h₁.p]
    exact ⟨_, _, mul_integer _ _, hgcd, hinv⟩

/-- `(5, 1) + (6, 3)` on the small curve is `(10, 6)`, along a chord. -/
theorem add_double_invert_small :
    small.Valid (smallPoint 5 1) ∧ small.Valid (smallPoint 6 3) ∧
      (smallPoint 5 1).add (smallPoint 6 3) = .ok (smallPoint 10 6) ∧
      small.Valid (smallPoint 10 6) ∧
      small.plane (smallPoint 10 6) =
        (small.plane (smallPoint 5 1)).sum (small.a : ZMod small.p)
          (small.plane (smallPoint 6 3)) := by
  have hadd : (smallPoint 5 1).add (smallPoint 6 3) = .ok (smallPoint 10 6) := by cbv
  obtain ⟨⟨S, hS, hv, hplane⟩, -⟩ := add_double_invert valid_five_one valid_six_three
  obtain rfl : smallPoint 10 6 = S := Except.ok.inj (hadd.symm.trans hS)
  exact ⟨valid_five_one, valid_six_three, hadd, hv, hplane⟩

end PrimeCurve

end CryptoSuite
