import CryptoSuite.Number.Basic
import Mathlib.Data.List.Induction
import Mathlib.Data.List.TakeWhile
import Mathlib.Tactic.Ring

/-!
# Bits and octets of a number

`topBits k i` is the natural number that the bits of `k` from bit `i` up form.
Going down by one bit doubles it and adds the bit (`topBits_eq`), down to `k`
itself (`topBits_zero`). From `bitSize` on nothing is left
(`topBits_eq_zero_of_bitSize_le`).

The shortest numeral of `n` has at most `k` octets exactly if `n < 256 ^ k`
(`Bytes.length_ofNat_le_iff`), and `byteSize` announces its length
(`Number.length_toBytes`). A numeral that is read and written again loses its
leading zeros (`Bytes.ofNat_toNat`), and padding to the old length restores them
(`Bytes.padLeft_ofNat_toNat`).
-/

namespace CryptoSuite

/-! ## Bits -/

namespace Number

/-- The bits of `k` from bit `i` up, as a number. -/
def topBits (k i : ℕ) : ℕ :=
  k / 2 ^ i

theorem topBits_zero (k : ℕ) : topBits k 0 = k := by
  rw [topBits, pow_zero, Nat.div_one]

theorem topBits_eq (k i : ℕ) : topBits k i = 2 * topBits k (i + 1) + (k.testBit i).toNat := by
  rw [topBits, topBits, pow_succ, ← Nat.div_div_eq_div_mul, Nat.toNat_testBit, Nat.div_add_mod]

/-- The bits from the highest one up. -/
theorem topBits_log2 {k : ℕ} (hk : k ≠ 0) : topBits k k.log2 = 1 := by
  have hlow : 1 * 2 ^ k.log2 ≤ k := by
    rw [one_mul]
    exact Nat.log2_self_le hk
  have hhigh : k < (1 + 1) * 2 ^ k.log2 := by
    rw [one_add_one_eq_two, ← pow_succ']
    exact Nat.lt_log2_self
  exact Nat.div_eq_of_lt_le hlow hhigh

variable {F : Type} [Representation F]

theorem bitSize_le_iff {k : ℤ} {n : ℕ} :
    (integer k : Number F).bitSize ≤ n ↔ k.natAbs < 2 ^ n := by
  rw [bitSize]
  split_ifs with hk
  · simp [hk]
  · rw [Nat.add_one_le_iff, Nat.log2_lt (Int.natAbs_ne_zero.2 hk)]

theorem topBits_eq_zero_of_bitSize_le {k n : ℕ} (h : (integer k : Number F).bitSize ≤ n) :
    topBits k n = 0 :=
  Nat.div_eq_of_lt (bitSize_le_iff.1 h)

end Number

/-! ## Octets -/

namespace Bytes

theorem length_ofNat_le_iff {n k : ℕ} : (ofNat n).length ≤ k ↔ n < 256 ^ k := by
  induction k generalizing n with
  | zero =>
    by_cases hn : n = 0
    · simp [hn]
    · simp [ofNat_of_ne_zero hn, hn]
  | succ k ih =>
    by_cases hn : n = 0
    · simp [hn]
    · rw [ofNat_of_ne_zero hn, List.length_append, List.length_singleton, Nat.add_le_add_iff_right,
        ih, Nat.div_lt_iff_lt_mul (by norm_num), pow_succ]

/-- Reading forgets the leading zeros of a numeral and nothing else. -/
theorem ofNat_toNat (bytes : Bytes) : ofNat bytes.toNat = bytes.dropWhile (· == 0) := by
  induction bytes using List.reverseRecOn with
  | nil => simp
  | append_singleton bytes b ih =>
    have hdiv : (toNat bytes * 256 + b.toNat) / 256 = toNat bytes := by
      have := b.toNat_lt
      omega
    have hmod : UInt8.ofNat ((toNat bytes * 256 + b.toNat) % 256) = b := by
      rw [Nat.mul_add_mod_self_right]
      simp
    rw [toNat_append_singleton, List.dropWhile_append, ← ih]
    by_cases hbytes : toNat bytes = 0
    · by_cases hb : b = 0
      · simp [hbytes, hb]
      · have hne : b.toNat ≠ 0 := fun h => hb (UInt8.toNat_inj.1 h)
        rw [ofNat_of_ne_zero (by omega), hdiv, hmod, hbytes]
        simp [hb]
    · rw [ofNat_of_ne_zero (by omega), hdiv, hmod]
      have hne : ofNat (toNat bytes) ≠ [] := by
        intro h
        rw [← toNat_ofNat (toNat bytes), h] at hbytes
        exact hbytes rfl
      rw [if_neg (by simpa using hne)]

theorem length_ofNat_toNat_le (bytes : Bytes) : (ofNat bytes.toNat).length ≤ bytes.length := by
  rw [ofNat_toNat]
  exact (List.dropWhile_suffix _).length_le

/-- Padding to the old length restores the zeros that reading forgot. -/
theorem padLeft_ofNat_toNat (bytes : Bytes) :
    padLeft bytes.length (ofNat bytes.toNat) = bytes := by
  have hsplit := List.takeWhile_append_dropWhile (p := (· == 0)) (l := bytes)
  have hzeros : bytes.takeWhile (· == 0) =
      List.replicate (bytes.length - (bytes.dropWhile (· == 0)).length) 0 := by
    refine List.eq_replicate_iff.2 ⟨?_, fun b hb => ?_⟩
    · have := congrArg List.length hsplit
      rw [List.length_append] at this
      omega
    · simpa using List.mem_takeWhile_imp hb
  rw [padLeft, ofNat_toNat, ← hzeros, hsplit]

end Bytes

namespace Number

variable {F : Type} [Representation F]

theorem byteSize_le_iff {k : ℤ} {n : ℕ} :
    (integer k : Number F).byteSize ≤ n ↔ k.natAbs < 256 ^ n := by
  have hpow : (256 : ℕ) ^ n = 2 ^ (8 * n) := by rw [pow_mul]; norm_num
  rw [hpow, ← bitSize_le_iff (F := F), byteSize]
  omega

theorem lt_byteSize_iff {k : ℤ} {n : ℕ} :
    n < (integer k : Number F).byteSize ↔ 256 ^ n ≤ k.natAbs := by
  rw [← not_le, byteSize_le_iff, not_lt]

/-- The announced number of octets is that of the shortest numeral. -/
theorem length_toBytes (k : ℤ) :
    (integer k : Number F).toBytes.length = (integer k : Number F).byteSize :=
  eq_of_forall_ge_iff fun _ => Bytes.length_ofNat_le_iff.trans byteSize_le_iff.symm

end Number

end CryptoSuite
