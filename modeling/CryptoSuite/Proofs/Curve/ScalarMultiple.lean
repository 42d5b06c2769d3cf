import CryptoSuite.Proofs.Curve.Group
import CryptoSuite.Proofs.Number.Numeral

/-!
# Scalar multiples

Double-and-add keeps an invariant over the bits of its scalars : before bit `i`
is taken the accumulated point stands for the multiple of the bits above it.
`Denotes.pass` is one bit and `Denotes.doubleAndAdd` the whole run, for terms of
any kind. With the terms of one point the run is a multiple (`Denotes.mul`), and
with those of two points the sum of two multiples (`Denotes.jointMul`).

Hence `Point.mul` is repeated addition (`repeated_addition`), and `Point.jointMul`
the sum of two separate multiples (`joint_multiple`).
-/

namespace CryptoSuite

namespace Point

variable {F : Type} [Representation F]

/-- The `k`-fold sum of a point, built up from infinity by one addition at a time. -/
def repeatedSum (P : Point F) : ℕ → Except Error (Point F)
  | 0 => .ok P.atInfinity
  | k + 1 => do (← P.repeatedSum k).add P

theorem requireNonnegative_natCast (k : ℕ) :
    requireNonnegative (.integer k : Number F) = .ok () := by
  simp [requireNonnegative, Number.isNegative]

theorem requireNonnegative_of_neg {k : ℤ} (hk : k < 0) :
    requireNonnegative (.integer k : Number F) = .error negativeScalar := by
  simp [requireNonnegative, Number.isNegative, hk]

end Point

namespace PrimeCurve

open Number

variable {F : Type} {E : PrimeCurve} {P Q R : Point F} {G H K : E.Group}

/-! ## Double-and-add -/

variable (E) in
/-- What the loop adds at a bit stands for an element of the group, zero if nothing is added. -/
def TermDenotes : Option (Point F) → E.Group → Prop
  | none, H => H = 0
  | some T, H => E.Denotes T H

variable [Representation F] {term : ℕ → Option (Point F)}

/-- One bit : the accumulated point is doubled and the term of the bit added. -/
theorem Denotes.pass {i : ℕ} (hR : E.Denotes R G) (ht : E.TermDenotes (term i) H) :
    ∃ S, Point.doubleAndAdd term (i + 1) R = Point.doubleAndAdd term i S ∧
      E.Denotes S (G + G + H) := by
  obtain ⟨D, hD, hDG⟩ := hR.double
  rw [Point.doubleAndAdd, hD]
  cases hterm : term i with
  | none =>
    rw [hterm] at ht
    obtain rfl : H = 0 := ht
    exact ⟨D, rfl, by rwa [add_zero]⟩
  | some T =>
    rw [hterm] at ht
    obtain ⟨S, hS, hSG⟩ := hDG.add ht
    refine ⟨S, ?_, hSG⟩
    simp only [bind, Except.bind, hS]

/-- The whole run, by induction on the bits left. `top i` is what the accumulated point stands
for before the bits below `i` are taken. -/
theorem Denotes.doubleAndAdd (top : ℕ → E.Group)
    (hterm : ∀ i, ∃ H, E.TermDenotes (term i) H ∧ top i = top (i + 1) + top (i + 1) + H)
    {n : ℕ} (hR : E.Denotes R (top n)) : E.Answers (Point.doubleAndAdd term n R) (top 0) := by
  induction n generalizing R with
  | zero => exact hR.answers
  | succ i ih =>
    obtain ⟨H, ht, htop⟩ := hterm i
    obtain ⟨S, hrun, hS⟩ := hR.pass ht
    rw [hrun]
    rw [← htop] at hS
    exact ih hS

/-! ## Multiples -/

theorem Denotes.mul (hP : E.Denotes P G) (k : ℕ) : E.Answers (P.mul (.integer k)) (k • G) := by
  have hterm : ∀ i, ∃ H, E.TermDenotes (P.bitTerm (.integer k) i) H ∧
      topBits k i • G = topBits k (i + 1) • G + topBits k (i + 1) • G + H := by
    intro i
    refine ⟨(k.testBit i).toNat • G, ?_, ?_⟩
    · cases hbit : k.testBit i with
      | false => simp [Point.bitTerm, testBit, hbit, TermDenotes]
      | true => simpa [Point.bitTerm, testBit, hbit, TermDenotes] using hP
    · rw [topBits_eq k i, add_nsmul, two_mul, add_nsmul]
  have hstart : E.Denotes P.atInfinity (topBits k (integer k : Number F).bitSize • G) := by
    rw [topBits_eq_zero_of_bitSize_le le_rfl, zero_nsmul]
    exact hP.atInfinity
  have hrun := hstart.doubleAndAdd (fun i => topBits k i • G) hterm
  rw [topBits_zero] at hrun
  unfold Point.mul
  rw [Point.requireNonnegative_natCast]
  exact hrun

/-- The term of two points at a bit is the sum of their terms. -/
theorem Denotes.jointTerm {Z : Point F} (hP : E.Denotes P G) (hQ : E.Denotes Q H)
    (hZ : E.Denotes Z (G + H)) (a b i : ℕ) :
    E.TermDenotes (P.jointTerm Q Z (.integer a) (.integer b) i)
      ((a.testBit i).toNat • G + (b.testBit i).toNat • H) := by
  unfold Point.jointTerm
  simp only [testBit, Int.natAbs_natCast]
  cases a.testBit i with
  | false =>
    cases b.testBit i with
    | false => simp [TermDenotes]
    | true => simpa [TermDenotes] using hQ
  | true =>
    cases b.testBit i with
    | false => simpa [TermDenotes] using hP
    | true => simpa [TermDenotes] using hZ

theorem Denotes.jointMul (hP : E.Denotes P G) (hQ : E.Denotes Q H) (a b : ℕ) :
    E.Answers (P.jointMul (.integer a) Q (.integer b)) (a • G + b • H) := by
  obtain ⟨Z, hZ, hZG⟩ := hP.add hQ
  have hterm : ∀ i, ∃ K, E.TermDenotes (P.jointTerm Q Z (.integer a) (.integer b) i) K ∧
      topBits a i • G + topBits b i • H =
        (topBits a (i + 1) • G + topBits b (i + 1) • H) +
          (topBits a (i + 1) • G + topBits b (i + 1) • H) + K := by
    intro i
    refine ⟨_, hP.jointTerm hQ hZG a b i, ?_⟩
    rw [topBits_eq a i, topBits_eq b i, add_nsmul, add_nsmul, two_mul, two_mul, add_nsmul,
      add_nsmul]
    abel
  have hstart : E.Denotes P.atInfinity
      (topBits a (max (integer b : Number F).bitSize (integer a : Number F).bitSize) • G +
        topBits b (max (integer b : Number F).bitSize (integer a : Number F).bitSize) • H) := by
    rw [topBits_eq_zero_of_bitSize_le (le_max_right _ _),
      topBits_eq_zero_of_bitSize_le (le_max_left _ _), zero_nsmul, zero_nsmul, add_zero]
    exact hP.atInfinity
  have hrun := hstart.doubleAndAdd (fun i => topBits a i • G + topBits b i • H) hterm
  rw [topBits_zero, topBits_zero] at hrun
  unfold Point.jointMul
  rw [Point.requireNonnegative_natCast, Point.requireNonnegative_natCast,
    requireOneCurve_eq_ok hP.describes hQ.describes, hZ]
  exact hrun

theorem Denotes.repeatedSum (hP : E.Denotes P G) (k : ℕ) :
    E.Answers (P.repeatedSum k) (k • G) := by
  induction k with
  | zero =>
    rw [zero_nsmul]
    exact hP.atInfinity.answers
  | succ k ih =>
    rw [succ_nsmul]
    exact ih.bind fun S hS => hS.add hP

/-! ## Repeated addition and joint multiples -/

/-- A multiple is answered, valid, and the repeated sum; multiples of a sum of scalars are
sums of multiples, and those of a product multiples of multiples. -/
theorem repeated_addition (hP : E.Valid P) :
    (∀ k : ℕ, ∃ M, P.mul (.integer k) = .ok M ∧ E.Valid M ∧
      Point.Agree (.ok M) (P.repeatedSum k)) ∧
    (∀ a b : ℕ, Point.Agree (P.mul (.integer (a + b)))
      (do (← P.mul (.integer a)).add (← P.mul (.integer b)))) ∧
    (∀ a b : ℕ, Point.Agree (do (← P.mul (.integer a)).mul (.integer b))
      (P.mul (.integer (a * b)))) := by
  obtain ⟨G, hG⟩ := hP.exists_denotes
  refine ⟨?_, ?_, ?_⟩
  · intro k
    obtain ⟨M, hM, hMG⟩ := hG.mul k
    exact ⟨M, hM, hMG.valid, (hMG.answers.agree_iff (hG.repeatedSum k)).2 rfl⟩
  · intro a b
    have hl : E.Answers (P.mul (.integer (a + b))) ((a + b) • G) := by
      exact_mod_cast hG.mul (a + b)
    have hr : E.Answers (do (← P.mul (.integer a)).add (← P.mul (.integer b))) (a • G + b • G) :=
      (hG.mul a).bind fun M hM => (hG.mul b).bind fun N hN => hM.add hN
    exact (hl.agree_iff hr).2 (add_nsmul G a b)
  · intro a b
    have hl : E.Answers (do (← P.mul (.integer a)).mul (.integer b)) (b • a • G) :=
      (hG.mul a).bind fun M hM => hM.mul b
    have hr : E.Answers (P.mul (.integer (a * b))) ((a * b) • G) := by
      exact_mod_cast hG.mul (a * b)
    exact (hl.agree_iff hr).2 (mul_nsmul G a b).symm

/-- The 20-fold sum of `(5, 1)` on the small curve, once around the group. -/
theorem repeated_addition_small :
    small.Valid (smallPoint 5 1) ∧ ∃ M, (smallPoint 5 1).mul (.integer 20) = .ok M ∧
      small.Valid M ∧ Point.Agree (.ok M) ((smallPoint 5 1).repeatedSum 20) :=
  ⟨valid_five_one, (repeated_addition valid_five_one).1 20⟩

/-- The joint multiple of two points is answered and is the sum of their multiples; a scalar
below zero is refused. -/
theorem joint_multiple (hP : E.Valid P) (hQ : E.Valid Q) (a b : ℤ) :
    (0 ≤ a → 0 ≤ b → Point.Agree (P.jointMul (.integer a) Q (.integer b))
      (do (← P.mul (.integer a)).add (← Q.mul (.integer b)))) ∧
    (a < 0 ∨ b < 0 → P.jointMul (.integer a) Q (.integer b) =
      .error (.invalidParameter "scalar" "negative scalar")) := by
  obtain ⟨G, hG⟩ := hP.exists_denotes
  obtain ⟨H, hH⟩ := hQ.exists_denotes
  refine ⟨?_, ?_⟩
  · intro ha hb
    lift a to ℕ using ha
    lift b to ℕ using hb
    have hr : E.Answers (do (← P.mul (.integer a)).add (← Q.mul (.integer b))) (a • G + b • H) :=
      (hG.mul a).bind fun M hM => (hH.mul b).bind fun N hN => hM.add hN
    exact ((hG.jointMul hH a b).agree_iff hr).2 rfl
  · intro hneg
    unfold Point.jointMul
    rcases lt_or_ge a 0 with ha | ha
    · rw [Point.requireNonnegative_of_neg ha]
      rfl
    · have hb : b < 0 := hneg.resolve_left (not_lt.2 ha)
      lift a to ℕ using ha
      rw [Point.requireNonnegative_natCast, requireOneCurve_eq_ok hP.curve hQ.curve,
        Point.requireNonnegative_of_neg hb]
      rfl

/-- Opposite points on the small curve, with scalars of different lengths that share a bit. -/
theorem joint_multiple_small :
    small.Valid (smallPoint 5 1) ∧ small.Valid (smallPoint 5 16) ∧
      Point.Agree ((smallPoint 5 1).jointMul (.integer 9) (smallPoint 5 16) (.integer 3))
        (do (← (smallPoint 5 1).mul (.integer 9)).add (← (smallPoint 5 16).mul (.integer 3))) ∧
      (smallPoint 5 1).jointMul (.integer 9) (smallPoint 5 16) (.integer (-3)) =
        .error (.invalidParameter "scalar" "negative scalar") := by
  have hpos := (joint_multiple valid_five_one valid_five_sixteen 9 3).1 (by omega) (by omega)
  have hneg := (joint_multiple valid_five_one valid_five_sixteen 9 (-3)).2 (Or.inr (by omega))
  exact ⟨valid_five_one, valid_five_sixteen, hpos, hneg⟩

end PrimeCurve

end CryptoSuite
