import CryptoSuite.Number.Basic
import CryptoSuite.Proofs.Number.Numeral
import Mathlib.Algebra.BigOperators.Intervals
import Mathlib.Data.Nat.Digits.Defs

/-!
# The views of a magnitude

An integer shows its magnitude as a numeral of octets, as a numeral padded to a
width, bit by bit, and by the number of its octets and of its bits. A numeral is
read by its digits in base 256 (`Bytes.toNat_eq_ofDigits`). At every position the
bits from there up and the bits below make up the number
(`Number.topBits_mul_add_lowBits`), and from `bitSize` up there are none.

Main statement : all these views are of one number (`Number.views_of_magnitude`).
-/

namespace CryptoSuite

open Finset

/-- A big-endian numeral has the digits of the number in base 256, the highest first. -/
theorem Bytes.toNat_eq_ofDigits (bytes : Bytes) :
    bytes.toNat = Nat.ofDigits 256 (bytes.reverse.map UInt8.toNat) := by
  induction bytes using List.reverseRecOn with
  | nil => rfl
  | append_singleton bytes b ih =>
    rw [toNat_append_singleton, ih, List.reverse_concat, List.map_cons, Nat.ofDigits_cons]
    ring

namespace Number

/-! ## Bits -/

/-- The bits of `k` below bit `i`, as a number. -/
def lowBits (k i : ℕ) : ℕ :=
  ∑ j ∈ (range i).filter (k.testBit ·), 2 ^ j

theorem lowBits_succ (k i : ℕ) :
    lowBits k (i + 1) = lowBits k i + (k.testBit i).toNat * 2 ^ i := by
  rw [lowBits, lowBits, sum_filter, sum_range_succ, ← sum_filter]
  cases k.testBit i <;> simp

/-- The bits from `i` up and the bits below `i`. -/
theorem topBits_mul_add_lowBits (k i : ℕ) : topBits k i * 2 ^ i + lowBits k i = k := by
  induction i with
  | zero => simp [topBits_zero, lowBits]
  | succ i ih =>
    rw [topBits_eq] at ih
    rw [lowBits_succ, pow_succ]
    linarith

variable {F : Type} [Representation F] {n : ℤ}

theorem lowBits_bitSize (n : ℤ) :
    lowBits n.natAbs (integer n : Number F).bitSize = n.natAbs := by
  have h := topBits_mul_add_lowBits n.natAbs (integer n : Number F).bitSize
  have htop : topBits n.natAbs (integer n : Number F).bitSize = 0 :=
    Nat.div_eq_of_lt (bitSize_le_iff.1 le_rfl)
  rwa [htop, zero_mul, zero_add] at h

theorem testBit_of_bitSize_le {i : ℕ} (h : (integer n : Number F).bitSize ≤ i) :
    (integer n : Number F).testBit i = false :=
  Nat.testBit_lt_two_pow (bitSize_le_iff.1 h)

/-- The highest bit that counts is set. -/
theorem testBit_bitSize_sub_one (h : n ≠ 0) :
    (integer n : Number F).testBit ((integer n : Number F).bitSize - 1) = true := by
  have hsize : (integer n : Number F).bitSize - 1 = n.natAbs.log2 := by
    rw [bitSize, if_neg h, Nat.add_sub_cancel]
  have htop := topBits_log2 (Int.natAbs_ne_zero.2 h)
  rw [topBits_eq] at htop
  rw [hsize, testBit]
  cases hbit : n.natAbs.testBit n.natAbs.log2 with
  | true => rfl
  | false =>
    rw [hbit, Bool.toNat_false] at htop
    omega

/-! ## Octets -/

theorem ofBytes_integers (octets : Bytes) :
    (NumberFactory.integers : NumberFactory F).ofBytes octets = integer octets.toNat := rfl

theorem toPaddedBytes_of_le {width : ℕ} (h : (integer n : Number F).byteSize ≤ width) :
    (integer n : Number F).toPaddedBytes width =
      .ok ((integer n : Number F).toBytes.padLeft width) := by
  rw [← length_toBytes] at h
  exact if_neg (not_lt.2 h)

theorem toPaddedBytes_of_lt {width : ℕ} (h : width < (integer n : Number F).byteSize) :
    (integer n : Number F).toPaddedBytes width =
      .error (.invalidLength "bignum encoding" width (integer n : Number F).byteSize) := by
  rw [← length_toBytes] at h ⊢
  exact if_pos h

theorem toNat_toBytes (n : ℤ) : (integer n : Number F).toBytes.toNat = n.natAbs :=
  Bytes.toNat_ofNat n.natAbs

/-- An octet string is read by its digits in base 256 and is written without its leading zeros.
What is written of an integer reads as its absolute value, and has the announced number of octets.
The absolute value is the sum of the powers of two at the bits that are set below the announced
number of bits; no bit is set from there on, and the last one before is, unless the integer is
zero. If the announced number of octets fits into a width there is a numeral of that width, which
reads as the absolute value, and otherwise the length is refused. -/
theorem views_of_magnitude (n : ℤ) (octets : Bytes) (width : ℕ) :
    let value : Number F := integer n
    let read : Bytes → Number F := NumberFactory.integers.ofBytes
    (read octets = integer (Nat.ofDigits 256 (octets.reverse.map UInt8.toNat) : ℕ) ∧
      (read octets).toBytes = octets.dropWhile (· == 0) ∧
      read value.toBytes = integer n.natAbs) ∧
    value.byteSize = value.toBytes.length ∧
    (n.natAbs = ∑ i ∈ (range value.bitSize).filter (value.testBit ·), 2 ^ i ∧
      (∀ i, value.bitSize ≤ i → value.testBit i = false) ∧
      (n ≠ 0 → value.testBit (value.bitSize - 1) = true)) ∧
    (value.byteSize ≤ width → ∃ padded, value.toPaddedBytes width = .ok padded ∧
      padded.length = width ∧ read padded = integer n.natAbs) ∧
    (width < value.byteSize →
      value.toPaddedBytes width =
        .error (.invalidLength "bignum encoding" width value.byteSize)) := by
  intro value read
  have hread (octets : Bytes) : read octets = integer octets.toNat := ofBytes_integers octets
  refine ⟨⟨?_, ?_, ?_⟩, (length_toBytes n).symm, ⟨(lowBits_bitSize n).symm,
    fun i => testBit_of_bitSize_le, testBit_bitSize_sub_one⟩, fun hfits => ?_,
    toPaddedBytes_of_lt⟩
  · rw [hread, Bytes.toNat_eq_ofDigits]
  · rw [hread]
    exact Bytes.ofNat_toNat octets
  · rw [hread, toNat_toBytes]
  · have hlength : value.toBytes.length ≤ width := (length_toBytes n).trans_le hfits
    refine ⟨_, toPaddedBytes_of_le hfits, Bytes.length_padLeft hlength, ?_⟩
    rw [hread, Bytes.toNat_padLeft, toNat_toBytes]

end Number

end CryptoSuite
