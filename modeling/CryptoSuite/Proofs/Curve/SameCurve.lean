import CryptoSuite.Proofs.Curve.Closure

/-!
# Operands of different curves

Sums and joint multiples refuse operands whose curves differ in the modulus or in the
coefficient of `x`, before they look at anything but the sign of the first scalar, and refuse no
others for their curves (`Point.differentCurves_iff`).

The constant coefficient takes no part in that. Past the test only the coordinates of the second
operand are read (`Point.Over.add_onto`, `Point.Over.jointMul_onto`), so that a point of a curve
with another constant coefficient counts as a point of the first operand's curve, which it need
not be on (`Point.sum_on_neither_curve`).
-/

namespace CryptoSuite

namespace Point

open Number

variable {F : Type} [Representation F] {p a p' a' : ℤ} {P Q R : Point F}

/-! ## The test of the operands -/

theorem Over.requireOneCurve_of_ne (hP : P.Over p a) (hQ : Q.Over p' a')
    (hne : ¬(p = p' ∧ a = a')) : P.requireOneCurve Q = .error differentCurves := by
  rw [Point.requireOneCurve, onOneCurve_integer hP.p hP.a hQ.p hQ.a, decide_eq_false hne]
  rfl

theorem add_of_error {e : Error} (h : P.requireOneCurve Q = .error e) : P.add Q = .error e := by
  unfold add
  rw [h]
  rfl

/-- The sign of the first scalar is looked at before the curves. -/
theorem jointMul_of_isNegative {k : Number F} (hk : k.isNegative = true) (l : Number F) :
    P.jointMul k Q l = .error negativeScalar := by
  rw [jointMul, requireNonnegative, hk]
  rfl

theorem jointMul_of_error {k : Number F} (hk : k.isNegative = false) (l : Number F) {e : Error}
    (h : P.requireOneCurve Q = .error e) : P.jointMul k Q l = .error e := by
  rw [jointMul, requireNonnegative, hk, h]
  rfl

theorem not_integerFailure_differentCurves : ¬IntegerFailure differentCurves := by
  intro h
  generalize he : differentCurves = e at h
  cases h <;> revert he <;> decide

/-! ## What is read of the second operand -/

/-- The point with the same coordinates on another curve. -/
def onto (P : Point F) (curve : Curve F) : Point F :=
  { P with curve }

omit [Representation F] in
theorem Over.onto (hP : P.Over p a) (hQ : Q.Over p a) : (Q.onto P.curve).Over p a :=
  ⟨hP.p, hP.a, hQ.finite⟩

theorem Over.add_onto (hP : P.Over p a) (hQ : Q.Over p a) (hR : R.Over p a) :
    R.add (Q.onto P.curve) = R.add Q := by
  unfold Point.add
  rw [hR.requireOneCurve hQ, hR.requireOneCurve (hP.onto hQ)]
  rfl

/-- Terms that add alike give runs with one answer. -/
theorem ClosedUnder.doubleAndAdd_congr {good : Point F → Prop} {failure : Error → Prop}
    (h : ClosedUnder good failure) {term term' : ℕ → Option (Point F)}
    (hterm : ∀ i T, term i = some T → good T)
    (halike : ∀ i, Option.Rel (fun T T' => ∀ D, good D → D.add T = D.add T') (term i) (term' i))
    (count : ℕ) (hR : good R) :
    Point.doubleAndAdd term count R = Point.doubleAndAdd term' count R := by
  induction count generalizing R with
  | zero => rfl
  | succ i ih =>
    rw [Point.doubleAndAdd, Point.doubleAndAdd]
    refine (h.double hR).bind_congr fun D hD => ?_
    have hi := halike i
    have hti := hterm i
    generalize term i = t, term' i = t' at hi hti
    cases hi with
    | none => exact ih hD
    | some hadd =>
      have hsum := h.add hD (hti _ rfl)
      show Point.add _ _ >>= _ = Point.add _ _ >>= _
      rw [← hadd D hD]
      exact hsum.bind_congr fun S hS => ih hS

theorem Over.jointMul_onto (hP : P.Over p a) (hQ : Q.Over p a) (k l : Number F) :
    P.jointMul k (Q.onto P.curve) l = P.jointMul k Q l := by
  have hclosed : ClosedUnder (Over p a : Point F → Prop) IntegerFailure := closedUnder_over p a
  rw [Point.jointMul, Point.jointMul, hP.requireOneCurve hQ, hP.requireOneCurve (hP.onto hQ),
    hP.add_onto hQ hP, requireNonnegative, requireNonnegative]
  split
  · rfl
  split
  · rfl
  refine (hclosed.add hP hQ).bind_congr fun Z hZ => hclosed.doubleAndAdd_congr
    (fun i T hT => good_of_jointTerm hP (hP.onto hQ) hZ hT) (fun i => ?_) _ hP.atInfinity
  rw [jointTerm, jointTerm]
  split
  · exact .some fun D _ => rfl
  · exact .some fun D _ => rfl
  · exact .some fun D hD => hP.add_onto hQ hD
  · exact .none

/-! ## Which operands are refused -/

/-- A sum is refused for its operands' curves exactly if they differ in the modulus or in the
coefficient of `x`, and a joint multiple under the same condition, if its first scalar is not
negative. Else a point counts as one of the other's curve, whatever its constant coefficient. -/
theorem differentCurves_iff (hP : P.Over p a) (hQ : Q.Over p' a') (k l : Number F) :
    (P.add Q = .error differentCurves ↔ ¬(p = p' ∧ a = a')) ∧
    (P.jointMul k Q l = .error differentCurves ↔ k.isNegative = false ∧ ¬(p = p' ∧ a = a')) ∧
    (k.isNegative = true → P.jointMul k Q l = .error negativeScalar) ∧
    (p = p' ∧ a = a' →
      P.add Q = P.add (Q.onto P.curve) ∧ P.jointMul k Q l = P.jointMul k (Q.onto P.curve) l) := by
  have hneg : k.isNegative = true → P.jointMul k Q l = .error negativeScalar :=
    fun hk => jointMul_of_isNegative hk l
  by_cases h : p = p' ∧ a = a'
  · obtain ⟨rfl, rfl⟩ := h
    have hclosed : ClosedUnder (Over p a : Point F → Prop) IntegerFailure := closedUnder_over p a
    have hadd : P.add Q ≠ .error differentCurves := fun herror =>
      not_integerFailure_differentCurves ((hclosed.add hP hQ).of_eq_error herror)
    have hjoint : P.jointMul k Q l ≠ .error differentCurves := fun herror =>
      not_integerFailure_differentCurves ((hclosed.jointMul .negativeScalar
        (hP.requireOneCurve hQ) hP hQ k l).of_eq_error herror)
    refine ⟨iff_of_false hadd (by simp), iff_of_false hjoint (by simp), hneg, fun _ => ?_⟩
    exact ⟨(hP.add_onto hQ hP).symm, (hP.jointMul_onto hQ k l).symm⟩
  · have hone := hP.requireOneCurve_of_ne hQ h
    refine ⟨iff_of_true (add_of_error hone) h, ?_, hneg, fun hsame => absurd hsame h⟩
    cases hk : k.isNegative with
    | false => exact iff_of_true (jointMul_of_error hk l hone) ⟨rfl, h⟩
    | true =>
      rw [hneg hk]
      exact iff_of_false (fun herror => absurd (Except.error.inj herror) (by decide)) (by simp)

/-- A point of `y² = x³ + 2x + 3` modulo 17 counts as one of `y² = x³ + 2x + 2`, a point at
infinity of `y² = x³ + 3x + 2` does not. -/
theorem differentCurves_iff_small :
    (ofIntegers (Curve.ofIntegers 17 2 2) 5 1).add (ofIntegers (Curve.ofIntegers 17 2 3) 2 7) =
        (ofIntegers (Curve.ofIntegers 17 2 2) 5 1).add
          (ofIntegers (Curve.ofIntegers 17 2 2) 2 7) ∧
      (ofIntegers (Curve.ofIntegers 17 2 2) 5 1).jointMul (.integer 2)
          (Curve.ofIntegers 17 3 2).pointAtInfinity (.integer 3) = .error differentCurves := by
  have hP : (ofIntegers (Curve.ofIntegers 17 2 2) 5 1).Over 17 2 :=
    ⟨rfl, rfl, fun _ => ⟨_, _, rfl, rfl⟩⟩
  have hQ : (ofIntegers (Curve.ofIntegers 17 2 3) 2 7).Over 17 2 :=
    ⟨rfl, rfl, fun _ => ⟨_, _, rfl, rfl⟩⟩
  have hR : (Curve.ofIntegers 17 3 2).pointAtInfinity.Over 17 3 := ⟨rfl, rfl, nofun⟩
  obtain ⟨-, -, -, honto⟩ := differentCurves_iff hP hQ (.integer 2) (.integer 3)
  obtain ⟨-, hrefused, -, -⟩ := differentCurves_iff hP hR (.integer 2) (.integer 3)
  exact ⟨(honto (by decide)).1, hrefused.2 ⟨rfl, by decide⟩⟩

/-- The sum of a point of `y² = x³ + 2x + 2` and one of `y² = x³ + 2x + 3` modulo 17 is answered,
and is on neither curve. -/
theorem sum_on_neither_curve :
    (ofIntegers (Curve.ofIntegers 17 2 2) 5 1).isOnCurve = .ok true ∧
      (ofIntegers (Curve.ofIntegers 17 2 3) 2 7).isOnCurve = .ok true ∧
      (ofIntegers (Curve.ofIntegers 17 2 2) 5 1).add (ofIntegers (Curve.ofIntegers 17 2 3) 2 7) =
        .ok (ofIntegers (Curve.ofIntegers 17 2 2) 14 0) ∧
      (ofIntegers (Curve.ofIntegers 17 2 2) 14 0).isOnCurve = .ok false ∧
      (ofIntegers (Curve.ofIntegers 17 2 3) 14 0).isOnCurve = .ok false := by
  decide +kernel

end Point

end CryptoSuite
