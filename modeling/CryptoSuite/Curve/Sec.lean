import CryptoSuite.Bytes.Basic
import CryptoSuite.Error.Primitive

/-!
# Point encodings

The octet forms of SEC 1 for a point of a prime curve. The point at infinity is one zero octet;
a finite point is the octet 4 and its two coordinates, each as wide as the field prime.
Compressed forms are recognised and refused.

`Sec.decode` splits an octet string into coordinates and `Sec.encode` joins two numerals padded
to a width. A string that starts with the zero octet is the point at infinity whatever follows.
Main statement: splitting what was joined gives the padded numerals back (`Sec.decode_encode`).
-/

namespace CryptoSuite

namespace Sec

/-- Format of an encoded point. -/
inductive Format where
  /-- Both coordinates. -/
  | uncompressed
  /-- The first coordinate and a bit of the second. -/
  | compressed
  deriving DecidableEq

/-- An encoded point split into its coordinates. -/
inductive Decoded where
  /-- The point at infinity. -/
  | infinity
  /-- A finite point with the numerals of its coordinates. -/
  | affine (x y : Bytes)
  deriving DecidableEq

/-! ## Errors -/

/-- The error for an octet string without a first octet. -/
def emptyEncoding : PrimitiveError := .parameter "SEC point" "empty encoding"

/-- What is refused when a compressed form is. -/
def compressedForms : String := "compressed SEC points"

/-- The error for a compressed form. -/
def compressedForm : Error := .notImplemented compressedForms

/-- The error for any other first octet. -/
def unknownForm : PrimitiveError := .notImplemented "SEC point format"

/-! ## Reading and writing -/

/-- The encoding of the point at infinity. -/
def infinity : Bytes := [0]

open PrimitiveError in
/-- Split an encoding. -/
def decode : Bytes → Except PrimitiveError Decoded
  | [] => .error emptyEncoding
  | tag :: rest =>
    if tag = 0 then .ok .infinity
    else if tag = 4 then do
      require (rest.length % 2 = 0) "SEC point" "coordinates have unequal lengths"
      return .affine (rest.take (rest.length / 2)) (rest.drop (rest.length / 2))
    else do
      requireSupported (tag ≠ 2 ∧ tag ≠ 3) compressedForms
      throw unknownForm

open PrimitiveError in
/-- Join the numerals of two coordinates, each padded to `width` octets. -/
def encode (width : Nat) (x y : Bytes) : Except PrimitiveError Bytes := do
  requireAtMost "SEC x coordinate" x.length width
  requireAtMost "SEC y coordinate" y.length width
  return 4 :: (x.padLeft width ++ y.padLeft width)

/-- Length of the encoding of a finite point. -/
def affineSize (width : Nat) : Nat := 2 * width + 1

/-! ## Laws -/

variable {width : Nat} {x y octets : Bytes}

theorem encode_eq_ok_iff : encode width x y = .ok octets ↔
    (x.length ≤ width ∧ y.length ≤ width) ∧
      octets = 4 :: (x.padLeft width ++ y.padLeft width) := by
  rw [eq_comm (a := octets)]
  simp [encode, bind_eq_ok_iff, PrimitiveError.requireAtMost_eq_ok_iff, pure, Except.pure,
    and_assoc]

/-- Joining fails for a coordinate that is too long, and says so. -/
theorem encode_eq_error {e : PrimitiveError} (h : encode width x y = .error e) :
    (width < x.length ∨ width < y.length) ∧
      ∃ context actual, e = .length context width actual ∧ width < actual := by
  by_cases hx : x.length > width
  · simp only [encode, PrimitiveError.requireAtMost, if_pos hx] at h
    cases h
    exact ⟨.inl hx, _, _, rfl, hx⟩
  by_cases hy : y.length > width
  · simp only [encode, PrimitiveError.requireAtMost, if_neg hx, if_pos hy] at h
    cases h
    exact ⟨.inr hy, _, _, rfl, hy⟩
  have hok := encode_eq_ok_iff.2 ⟨⟨Nat.le_of_not_gt hx, Nat.le_of_not_gt hy⟩, rfl⟩
  cases hok.symm.trans h

theorem length_encode (h : encode width x y = .ok octets) :
    octets.length = affineSize width := by
  obtain ⟨⟨hx, hy⟩, rfl⟩ := encode_eq_ok_iff.1 h
  rw [List.length_cons, List.length_append, Bytes.length_padLeft hx, Bytes.length_padLeft hy,
    affineSize]
  omega

theorem decode_append (h : x.length = y.length) :
    decode (4 :: (x ++ y)) = .ok (.affine x y) := by
  have hlen : (x ++ y).length = 2 * x.length := by
    simp [← h]
    omega
  have hhalf : (x ++ y).length / 2 = x.length := by omega
  have heven : decide ((x ++ y).length % 2 = 0) = true := decide_eq_true (by omega)
  simp only [decode]
  rw [if_neg (by decide), if_pos trivial, (PrimitiveError.require_eq_ok_iff (u := ())).2 heven,
    hhalf, List.take_left, List.drop_left]
  rfl

theorem decode_encode (h : encode width x y = .ok octets) :
    decode octets = .ok (.affine (x.padLeft width) (y.padLeft width)) := by
  obtain ⟨⟨hx, hy⟩, rfl⟩ := encode_eq_ok_iff.1 h
  apply decode_append
  rw [Bytes.length_padLeft hx, Bytes.length_padLeft hy]

end Sec

end CryptoSuite
