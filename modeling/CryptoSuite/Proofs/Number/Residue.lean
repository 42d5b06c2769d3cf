import CryptoSuite.Proofs.Number.Modular

/-!
# Numbers as residues

`Number.residue z` is the integer in `[0, n)` of the class `z` modulo `n`. Every
operation modulo `n` on integers answers a residue, the one of the same
operation in the ring of classes, and `invMod` modulo a prime the inverse of the
field. A computation on residues is then followed by one in `ZMod n`. A modulus
of either sign counts by its absolute value.
-/

namespace CryptoSuite

namespace Number

variable {F : Type}

/-- The integer a number is, or zero for a value of another representation. -/
def toInt : Number F → ℤ
  | integer k => k
  | foreign _ => 0

@[simp] theorem toInt_integer (k : ℤ) : (integer k : Number F).toInt = k :=
  rfl

variable {n : ℕ}

/-- The smallest natural number of a class modulo `n`. -/
abbrev residue (z : ZMod n) : Number F :=
  integer z.val

/-- An integer of the interval `[0, n)` is the residue of its class. -/
theorem residue_intCast [NeZero n] {k : ℤ} (h₀ : 0 ≤ k) (hn : k < n) :
    (residue (k : ZMod n) : Number F) = integer k := by
  rw [residue, ZMod.val_intCast, Int.emod_eq_of_lt h₀ hn]

variable [Representation F]

/-! ## Order and sign -/

@[simp] theorem isZero_residue (z : ZMod n) :
    (residue z : Number F).isZero = decide (z = 0) := by
  rw [isZero, decide_eq_decide, Int.natCast_eq_zero, ZMod.val_eq_zero]

@[simp] theorem abs_residue (z : ZMod n) : (residue z : Number F).abs = residue z := by
  rw [abs_integer, Int.natAbs_natCast]

variable [NeZero n]

/-- Residues compare as equal exactly if their classes are. -/
theorem exists_compareMagnitude_residue (z w : ZMod n) :
    ∃ o, (residue z : Number F).compareMagnitude (residue w) = .ok o ∧ (o = .eq ↔ z = w) := by
  refine ⟨_, compareMagnitude_integer _ _, ?_⟩
  rw [compare_eq_iff_eq, Int.natAbs_natCast, Int.natAbs_natCast, (ZMod.val_injective n).eq_iff]

/-! ## Arithmetic modulo a number -/

section Modulus

variable {m : ℤ} (hm : m.natAbs = n)
include hm

omit [Representation F] in
theorem ne_zero_of_natAbs_eq : m ≠ 0 :=
  Int.natAbs_ne_zero.1 (hm ▸ NeZero.ne n)

theorem rem_of_natAbs_eq (k : ℤ) :
    (integer k : Number F).rem (integer m) = .ok (residue (k : ZMod n)) := by
  rw [rem_integer k (ne_zero_of_natAbs_eq hm), hm, residue, ZMod.val_intCast]

theorem mulMod_of_natAbs_eq (k l : ℤ) :
    (integer k : Number F).mulMod (integer l) (integer m) = .ok (residue (k * l : ZMod n)) := by
  rw [mulMod_integer k l (ne_zero_of_natAbs_eq hm), hm, residue, ← Int.cast_mul, ZMod.val_intCast]

theorem squareMod_of_natAbs_eq (k : ℤ) :
    (integer k : Number F).squareMod (integer m) = .ok (residue (k * k : ZMod n)) := by
  rw [squareMod_integer k (ne_zero_of_natAbs_eq hm), hm, residue, ← Int.cast_mul, ZMod.val_intCast]

omit [Representation F] [NeZero n] in
theorem isUnit_iff_gcd_eq_one {k : ℤ} : IsUnit (k : ZMod n) ↔ Int.gcd k m = 1 := by
  subst hm
  exact Residue.isUnit_intCast_iff

/-- A unit has an inverse, which is answered as a natural number. -/
theorem exists_invMod_of_isUnit {k : ℤ} (h : IsUnit (k : ZMod n)) : ∃ r : ℕ,
    (integer k : Number F).invMod (integer m) = .ok (integer r) ∧ (k * r : ZMod n) = 1 := by
  obtain ⟨s, hs, hnonneg, hmod, -⟩ :=
    exists_invMod (F := F) (ne_zero_of_natAbs_eq hm) ((isUnit_iff_gcd_eq_one hm).1 h)
  obtain ⟨r, rfl⟩ := Int.eq_ofNat_of_zero_le hnonneg
  refine ⟨r, hs, ?_⟩
  rw [Int.abs_eq_natAbs, hm, ← ZMod.intCast_eq_intCast_iff] at hmod
  exact_mod_cast hmod

theorem invMod_of_not_isUnit {k : ℤ} (h : ¬IsUnit (k : ZMod n)) :
    (integer k : Number F).invMod (integer m) = .error notInvertible :=
  invMod_of_gcd_ne_one (ne_zero_of_natAbs_eq hm) (mt (isUnit_iff_gcd_eq_one hm).2 h)

end Modulus

omit [NeZero n] in
theorem invMod_eq_residue {p : ℕ} [hp : Fact p.Prime] {k : ℤ} (h : (k : ZMod p) ≠ 0) :
    (integer k : Number F).invMod (integer p) = .ok (residue (k : ZMod p)⁻¹) := by
  rw [invMod_integer k (by exact_mod_cast hp.out.ne_zero), Int.natAbs_natCast,
    Residue.signedInverse?_prime h]
  rfl

end Number

end CryptoSuite
