/-!
# Byte strings

Byte strings are lists of octets. This module holds padding to a width and the comparison used
on authentication tags, whose result, not whose course, depends on the contents:
`Bytes.constantTimeEq_iff` says that it decides equality.
-/

namespace CryptoSuite

/-- A string of octets. -/
abbrev Bytes := List UInt8

namespace Bytes

/-- `bytes` with zero octets in front, up to `width` octets in all. -/
def padLeft (width : Nat) (bytes : Bytes) : Bytes :=
  List.replicate (width - bytes.length) 0 ++ bytes

theorem length_padLeft {width : Nat} {bytes : Bytes} (h : bytes.length ≤ width) :
    (padLeft width bytes).length = width := by
  simp [padLeft]
  omega

/-! ## Comparison of tags -/

/-- All the bits in which two strings of one length differ, collected in one octet. -/
def difference (a b : Bytes) : UInt8 :=
  (List.zipWith (· ^^^ ·) a b).foldr (· ||| ·) 0

/-- The verdict of the comparison as an octet: 1 for equal strings and 0 for different ones.
Strings of different lengths are told apart without a look at their contents. -/
def constantTimeChoice (a b : Bytes) : UInt8 :=
  if a.length ≠ b.length then 0 else if difference a b = 0 then 1 else 0

/-- The verdict of the comparison. -/
def constantTimeEq (a b : Bytes) : Bool :=
  constantTimeChoice a b = 1

theorem difference_eq_zero_iff {a b : Bytes} (h : a.length = b.length) :
    difference a b = 0 ↔ a = b := by
  induction a generalizing b with
  | nil => cases b <;> simp_all [difference]
  | cons x xs ih =>
    cases b with
    | nil => simp at h
    | cons y ys =>
      have ih := ih (b := ys) (by simpa using h)
      simp only [difference] at ih
      simp [difference, ih]

theorem constantTimeChoice_eq (a b : Bytes) :
    constantTimeChoice a b = if a = b then 1 else 0 := by
  unfold constantTimeChoice
  by_cases h : a.length = b.length
  · simp [h, difference_eq_zero_iff h]
  · have hne : a ≠ b := fun e => h (by rw [e])
    simp [h, hne]

theorem constantTimeEq_iff {a b : Bytes} : constantTimeEq a b = true ↔ a = b := by
  by_cases h : a = b <;> simp [constantTimeEq, constantTimeChoice_eq, h]

end Bytes

end CryptoSuite
