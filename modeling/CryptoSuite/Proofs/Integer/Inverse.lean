import CryptoSuite.Integer.Residue
import Mathlib.Algebra.Field.ZMod
import Mathlib.Data.Int.GCD
import Mathlib.Data.Int.ModEq
import Mathlib.Data.ZMod.Basic
import Mathlib.Data.ZMod.Units
import Mathlib.Tactic.Ring

/-!
# Inverses modulo a number

`Residue.inverse?` has an answer exactly for numbers without a common divisor
with the modulus (`inverse?_eq_none_iff`), and the answer is an inverse below
the modulus (`inverse?_modEq`, `inverse?_lt`). `Residue.signedInverse?` has the
same condition (`signedInverse?_eq_none_iff`) and inverts integers of either
sign (`signedInverse?_modEq`). Its answer is below the modulus but for negative
integers modulo one (`signedInverse?_lt_iff`).

Modulo a prime the answer is the smallest representative of the inverse in the
field (`signedInverse?_prime`).
-/

namespace CryptoSuite

namespace Residue

variable {a m r : ℕ}

/-! ## Natural numbers -/

theorem gcd_self_mod (a m : ℕ) : Nat.gcd m (a % m) = Nat.gcd a m := by
  rw [Nat.gcd_comm m, ← Nat.gcd_rec, Nat.gcd_comm]

/-- The coefficient of Euclid's algorithm times `a` is the greatest common divisor. -/
theorem snd_euclid_modEq (a m : ℕ) :
    (euclid m (a % m) 0 1).2 * a ≡ (Nat.gcd a m : ℤ) [ZMOD m] := by
  have hs : (m : ℤ) ∣ ((a % m : ℕ) : ℤ) - 1 * a := by
    rw [Int.natCast_mod, one_mul]
    exact (Int.mod_modEq (a : ℤ) m).symm.dvd
  have h := euclid_invariant (m := m) (a := a) m (a % m) 0 1 (by simp) hs
  rw [fst_euclid, gcd_self_mod] at h
  exact Int.modEq_iff_dvd.2 h

theorem inverse?_eq_none_iff : inverse? a m = none ↔ ¬Nat.Coprime a m := by
  have hgcd : (euclid m (a % m) 0 1).1 = Nat.gcd a m := by
    rw [fst_euclid, gcd_self_mod]
  simp [inverse?, hgcd, Nat.Coprime]

/-- An inverse is the residue of the coefficient. -/
theorem eq_of_inverse?_eq_some (h : inverse? a m = some r) :
    Nat.Coprime a m ∧ r = ((euclid m (a % m) 0 1).2 % m).toNat := by
  refine ⟨?_, ?_⟩
  · by_contra hc
    rw [inverse?_eq_none_iff.2 hc] at h
    cases h
  · simp only [inverse?] at h
    split_ifs at h
    exact (Option.some.inj h).symm

theorem inverse?_lt (hm : 0 < m) (h : inverse? a m = some r) : r < m := by
  obtain ⟨-, rfl⟩ := eq_of_inverse?_eq_some h
  have hlt := Int.emod_lt_of_pos (euclid m (a % m) 0 1).2 (b := m) (by omega)
  omega

theorem inverse?_modEq (hm : 0 < m) (h : inverse? a m = some r) : (a * r : ℤ) ≡ 1 [ZMOD m] := by
  obtain ⟨hc, rfl⟩ := eq_of_inverse?_eq_some h
  rw [Int.toNat_of_nonneg (Int.emod_nonneg _ (by omega))]
  calc (a : ℤ) * ((euclid m (a % m) 0 1).2 % m)
      ≡ a * (euclid m (a % m) 0 1).2 [ZMOD m] := (Int.mod_modEq _ _).mul_left _
    _ = (euclid m (a % m) 0 1).2 * a := mul_comm _ _
    _ ≡ (Nat.gcd a m : ℤ) [ZMOD m] := snd_euclid_modEq a m
    _ = 1 := by rw [hc.gcd_eq_one, Nat.cast_one]

/-! ## Integers -/

variable {k s : ℤ}

theorem signedInverse?_eq_none_iff : signedInverse? k m = none ↔ Int.gcd k m ≠ 1 := by
  have hnone : signedInverse? k m = none ↔ inverse? k.natAbs m = none := by
    unfold signedInverse?
    cases inverse? k.natAbs m <;> simp
  rw [hnone, inverse?_eq_none_iff]
  rfl

theorem signedInverse?_eq_some_iff : signedInverse? k m = some s ↔
    ∃ r, inverse? k.natAbs m = some r ∧ s = if k < 0 then (m : ℤ) - r else r := by
  unfold signedInverse?
  cases inverse? k.natAbs m <;> simp [eq_comm]

theorem signedInverse?_modEq (hm : 0 < m) (h : signedInverse? k m = some s) :
    k * s ≡ 1 [ZMOD m] := by
  obtain ⟨r, hr, rfl⟩ := signedInverse?_eq_some_iff.1 h
  have hinv := inverse?_modEq hm hr
  split_ifs with hk
  · -- Of a negative integer the inverse is the opposite of its absolute value's.
    have habs : (k.natAbs : ℤ) = -k := by omega
    rw [habs] at hinv
    calc k * ((m : ℤ) - r) = -k * r + m * k := by ring
      _ ≡ -k * r [ZMOD m] := Int.modEq_add_fac_self
      _ ≡ 1 [ZMOD m] := hinv
  · have habs : (k.natAbs : ℤ) = k := by omega
    rwa [habs] at hinv

theorem signedInverse?_nonneg (hm : 0 < m) (h : signedInverse? k m = some s) : 0 ≤ s := by
  obtain ⟨r, hr, rfl⟩ := signedInverse?_eq_some_iff.1 h
  have hlt := inverse?_lt hm hr
  split_ifs <;> omega

theorem signedInverse?_lt (hm : 1 < m) (h : signedInverse? k m = some s) : s < m := by
  obtain ⟨r, hr, rfl⟩ := signedInverse?_eq_some_iff.1 h
  have hlt := inverse?_lt (by omega) hr
  split_ifs
  · -- Zero is no inverse modulo a number above one.
    rcases Nat.eq_zero_or_pos r with rfl | hpos
    · have hinv := inverse?_modEq (by omega) hr
      rw [Nat.cast_zero, mul_zero, Int.modEq_iff_dvd, sub_zero] at hinv
      have := Int.le_of_dvd one_pos hinv
      omega
    · omega
  · exact_mod_cast hlt

/-- Modulo one the inverse of a negative integer is the modulus itself. -/
theorem signedInverse?_one_of_neg (hk : k < 0) : signedInverse? k 1 = some 1 := by
  rw [signedInverse?_eq_some_iff]
  cases hr : inverse? k.natAbs 1 with
  | none => exact absurd (Nat.coprime_one_right k.natAbs) (inverse?_eq_none_iff.1 hr)
  | some r =>
    obtain rfl := Nat.lt_one_iff.1 (inverse?_lt one_pos hr)
    exact ⟨0, rfl, by rw [if_pos hk, Nat.cast_one, Nat.cast_zero, sub_zero]⟩

/-- The answer is reduced but for negative integers modulo one. -/
theorem signedInverse?_lt_iff (hm : 0 < m) (h : signedInverse? k m = some s) :
    s < m ↔ ¬(k < 0 ∧ m = 1) := by
  constructor
  · rintro hlt ⟨hk, rfl⟩
    rw [signedInverse?_one_of_neg hk, Option.some_inj] at h
    omega
  · intro hother
    by_cases hone : m = 1
    · obtain ⟨r, hr, rfl⟩ := signedInverse?_eq_some_iff.1 h
      rw [if_neg fun hk => hother ⟨hk, hone⟩]
      exact_mod_cast inverse?_lt hm hr
    · exact signedInverse?_lt (by omega) h

/-- An integer has an inverse exactly if its class is a unit. -/
theorem isUnit_intCast_iff : IsUnit (k : ZMod m) ↔ Int.gcd k m = 1 := by
  rw [ZMod.coe_int_isUnit_iff_isCoprime, isCoprime_comm, Int.isCoprime_iff_gcd_eq_one]

/-! ## Modulo a prime -/

theorem gcd_eq_one_of_cast_ne_zero {p : ℕ} [hp : Fact p.Prime] (h : (k : ZMod p) ≠ 0) :
    Int.gcd k p = 1 :=
  isUnit_intCast_iff.1 (isUnit_iff_ne_zero.2 h)

/-- Modulo a prime the inverse of what is not divisible by it is that of the field. -/
theorem signedInverse?_prime {p : ℕ} [hp : Fact p.Prime] (h : (k : ZMod p) ≠ 0) :
    signedInverse? k p = some ((k : ZMod p)⁻¹.val : ℤ) := by
  have hpos := hp.out.pos
  cases hs : signedInverse? k p with
  | none => exact absurd (gcd_eq_one_of_cast_ne_zero h) (signedInverse?_eq_none_iff.1 hs)
  | some s =>
    have hmul : (k : ZMod p) * s = 1 := by
      have hmod := (ZMod.intCast_eq_intCast_iff _ _ _).2 (signedInverse?_modEq hpos hs)
      simpa using hmod
    have hnonneg := signedInverse?_nonneg hpos hs
    have hlt := signedInverse?_lt hp.out.one_lt hs
    rw [ZMod.inv_eq_of_mul_eq_one p _ _ hmul, ZMod.val_intCast, Int.emod_eq_of_lt hnonneg hlt]

end Residue

end CryptoSuite
