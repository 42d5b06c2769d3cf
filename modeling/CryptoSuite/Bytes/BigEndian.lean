import CryptoSuite.Bytes.Basic

/-!
# Big-endian numerals

A byte string is read as a natural number in base 256, most significant octet first
(`Bytes.toNat`), and a natural number is written with as few octets as possible
(`Bytes.ofNat`), zero with none. Main statements: reading a written number gives it back
(`Bytes.toNat_ofNat`), and padding in front changes no value (`Bytes.toNat_padLeft`).
-/

namespace CryptoSuite

namespace Bytes

/-- The number a big-endian numeral denotes. -/
def toNat (bytes : Bytes) : Nat :=
  bytes.foldl (fun n b => n * 256 + b.toNat) 0

/-- The octets of a number, least significant first and without leading zeros. -/
def littleEndian (n : Nat) : Bytes :=
  if n = 0 then [] else UInt8.ofNat (n % 256) :: littleEndian (n / 256)
termination_by n
decreasing_by omega

/-- The shortest big-endian numeral of a number. -/
def ofNat (n : Nat) : Bytes :=
  (littleEndian n).reverse

/-- The numeral of a number in at least `width` octets. -/
def ofNatPadded (width n : Nat) : Bytes :=
  padLeft width (ofNat n)

/-! ## Reading -/

@[simp]
theorem toNat_nil : toNat [] = 0 := rfl

@[simp]
theorem toNat_append_singleton (bytes : Bytes) (b : UInt8) :
    toNat (bytes ++ [b]) = toNat bytes * 256 + b.toNat := by
  simp [toNat]

@[simp]
theorem toNat_cons_zero (bytes : Bytes) : toNat (0 :: bytes) = toNat bytes := by
  simp [toNat]

@[simp]
theorem toNat_padLeft (width : Nat) (bytes : Bytes) :
    toNat (padLeft width bytes) = toNat bytes := by
  unfold padLeft
  generalize width - bytes.length = k
  induction k with
  | zero => rfl
  | succ k ih => rw [List.replicate_succ, List.cons_append, toNat_cons_zero, ih]

/-! ## Writing -/

@[simp]
theorem littleEndian_zero : littleEndian 0 = [] := by
  rw [littleEndian, if_pos rfl]

theorem littleEndian_of_ne_zero {n : Nat} (h : n ≠ 0) :
    littleEndian n = UInt8.ofNat (n % 256) :: littleEndian (n / 256) := by
  rw [littleEndian, if_neg h]

@[simp]
theorem ofNat_zero : ofNat 0 = [] := by
  simp [ofNat]

theorem ofNat_of_ne_zero {n : Nat} (h : n ≠ 0) :
    ofNat n = ofNat (n / 256) ++ [UInt8.ofNat (n % 256)] := by
  simp [ofNat, littleEndian_of_ne_zero h]

@[simp]
theorem toNat_ofNat (n : Nat) : toNat (ofNat n) = n := by
  induction n using Nat.strongRecOn with
  | ind n ih =>
    by_cases h : n = 0
    · simp [h]
    · rw [ofNat_of_ne_zero h, toNat_append_singleton, ih _ (by omega)]
      have : (UInt8.ofNat (n % 256)).toNat = n % 256 := by
        simp
      omega

@[simp]
theorem toNat_ofNatPadded (width n : Nat) : toNat (ofNatPadded width n) = n := by
  simp [ofNatPadded]

end Bytes

end CryptoSuite
