import CryptoSuite.Proofs.Curve.Encoding

/-!
# Canonical encodings of points

Decoding accepts more octet strings than encoding makes : anything behind the
zero octet, and coordinates of any common length (`Sec.Readable`). Encoding makes
the canonical ones only, with coordinates as wide as the modulus
(`Point.canonical_of_toSec`), and a canonical string is the encoding of the point
it decodes to (`Point.toSec_of_canonical`) : a coordinate loses its leading zeros
as an integer, and padding restores them.

Main statement : on a curve over the integers, with any modulus, encoding and
decoding are inverse to each other, up to canonical form on one side and point
equality on the other (`Point.toSec_decodePoint_inverse`).
-/

namespace CryptoSuite

namespace Sec

/-- The strings that decode : the zero octet and anything, or the octet 4 and an even number of
octets. -/
def Readable (octets : Bytes) : Prop :=
  (∃ rest, octets = 0 :: rest) ∨ ∃ rest, octets = 4 :: rest ∧ rest.length % 2 = 0

/-- The canonical strings : the zero octet alone, or the octet 4 and two coordinates of the given
width. -/
def Canonical (width : ℕ) (octets : Bytes) : Prop :=
  octets = [0] ∨ ∃ rest, octets = 4 :: rest ∧ rest.length = 2 * width

variable {width : ℕ} {x y octets : Bytes}

theorem decode_eq_infinity_iff : decode octets = .ok .infinity ↔ ∃ rest, octets = 0 :: rest := by
  cases octets with
  | nil => simp [decode]
  | cons tag rest =>
    rw [decode]
    split_ifs with hzero
    · simp [hzero]
    all_goals simp [bind_eq_ok_iff, hzero, pure, Except.pure, throw, throwThe, MonadExceptOf.throw]

theorem decode_eq_affine_iff :
    decode octets = .ok (.affine x y) ↔ octets = 4 :: (x ++ y) ∧ x.length = y.length := by
  refine ⟨fun h => ?_, fun ⟨h, hlength⟩ => h ▸ decode_append hlength⟩
  cases octets with
  | nil => cases h
  | cons tag rest =>
    rw [decode] at h
    split_ifs at h with hzero hfour
    · cases h
    · obtain ⟨_, heven, h⟩ := bind_eq_ok_iff.1 h
      have heven := of_decide_eq_true (PrimitiveError.require_eq_ok_iff.1 heven)
      obtain ⟨rfl, rfl⟩ := Decoded.affine.inj (Except.ok.inj h)
      rw [hfour, List.take_append_drop, List.length_take, List.length_drop]
      exact ⟨rfl, by omega⟩
    · obtain ⟨_, -, h⟩ := bind_eq_ok_iff.1 h
      cases h

theorem exists_decode_iff : (∃ decoded, decode octets = .ok decoded) ↔ Readable octets := by
  constructor
  · rintro ⟨_ | ⟨x, y⟩, h⟩
    · exact .inl (decode_eq_infinity_iff.1 h)
    · obtain ⟨rfl, hlength⟩ := decode_eq_affine_iff.1 h
      exact .inr ⟨_, rfl, by rw [List.length_append]; omega⟩
  · rintro (h | ⟨rest, rfl, heven⟩)
    · exact ⟨_, decode_eq_infinity_iff.2 h⟩
    · have hhalves := decode_append (x := rest.take (rest.length / 2))
        (y := rest.drop (rest.length / 2)) (by rw [List.length_take, List.length_drop]; omega)
      rw [List.take_append_drop] at hhalves
      exact ⟨_, hhalves⟩

end Sec

namespace Point

variable {F : Type} [Representation F]

/-! ## Encoding makes canonical strings -/

theorem canonical_of_toSec {P : Point F} {octets : Bytes}
    (h : P.toSec .uncompressed = .ok octets) : Sec.Canonical P.curve.fieldWidth octets := by
  rw [toSec] at h
  split_ifs at h with hinf
  · exact .inl (Except.ok.inj h).symm
  · obtain ⟨⟨hx, hy⟩, rfl⟩ := Sec.encode_eq_ok_iff.1 (PrimitiveError.forward_eq_ok_iff.1 h)
    refine .inr ⟨_, rfl, ?_⟩
    rw [List.length_append, Bytes.length_padLeft hx, Bytes.length_padLeft hy, two_mul]

/-- A point has no encoding if and only if it is finite and a coordinate takes more octets than
the modulus. The error is that of a wrong length. -/
theorem toSec_eq_error_iff (curve : Curve F) (infinity : Bool) (x y : ℤ) :
    (∃ e, toSec ⟨infinity, .integer x, .integer y, curve⟩ .uncompressed = .error e) ↔
      infinity = false ∧
        (256 ^ curve.fieldWidth ≤ x.natAbs ∨ 256 ^ curve.fieldWidth ≤ y.natAbs) := by
  cases infinity with
  | true => simp [toSec]
  | false =>
    have hlong (k : ℤ) : curve.fieldWidth < (Bytes.ofNat k.natAbs).length ↔
        256 ^ curve.fieldWidth ≤ k.natAbs := by
      rw [← not_le, Bytes.length_ofNat_le_iff, not_lt]
    rw [← hlong x, ← hlong y]
    constructor
    · rintro ⟨e, h⟩
      obtain ⟨cause, hcause, -⟩ := PrimitiveError.forward_eq_error_iff.1 h
      exact ⟨rfl, (Sec.encode_eq_error hcause).1⟩
    · rintro ⟨-, h⟩
      cases henc : toSec ⟨false, .integer x, .integer y, curve⟩ .uncompressed with
      | error e => exact ⟨e, rfl⟩
      | ok octets =>
        obtain ⟨⟨hx, hy⟩, -⟩ := Sec.encode_eq_ok_iff.1 (PrimitiveError.forward_eq_ok_iff.1 henc)
        exact absurd h (not_or.2 ⟨not_lt.2 hx, not_lt.2 hy⟩)

theorem invalidLength_of_toSec {P : Point F} {e : Error} (h : P.toSec .uncompressed = .error e) :
    ∃ context actual, e = .invalidLength context P.curve.fieldWidth actual ∧
      P.curve.fieldWidth < actual := by
  rw [toSec] at h
  split_ifs at h with hinf
  obtain ⟨cause, hcause, rfl⟩ := PrimitiveError.forward_eq_error_iff.1 h
  obtain ⟨-, context, actual, rfl, hlong⟩ := Sec.encode_eq_error hcause
  exact ⟨context, actual, rfl, hlong⟩

/-- Points over the integers with one encoding compare as equal. -/
theorem compare_of_toSec {curve : Curve F} {infinity infinity' : Bool} {x y x' y' : ℤ}
    {octets : Bytes}
    (h : toSec ⟨infinity, .integer x, .integer y, curve⟩ .uncompressed = .ok octets)
    (h' : toSec ⟨infinity', .integer x', .integer y', curve⟩ .uncompressed = .ok octets) :
    compare ⟨infinity, .integer x, .integer y, curve⟩
      ⟨infinity', .integer x', .integer y', curve⟩ = .ok .eq := by
  cases infinity with
  | true =>
    cases infinity' with
    | true => rfl
    | false =>
      cases h
      cases (Sec.encode_eq_ok_iff.1 (PrimitiveError.forward_eq_ok_iff.1 h')).2
  | false =>
    cases infinity' with
    | true =>
      cases h'
      cases (Sec.encode_eq_ok_iff.1 (PrimitiveError.forward_eq_ok_iff.1 h)).2
    | false =>
      have hencode := PrimitiveError.forward_eq_ok_iff.1 h
      have hencode' := PrimitiveError.forward_eq_ok_iff.1 h'
      have hdecoded :=
        Except.ok.inj ((Sec.decode_encode hencode).symm.trans (Sec.decode_encode hencode'))
      obtain ⟨hx, hy⟩ := Sec.Decoded.affine.inj hdecoded
      replace hx := congrArg Bytes.toNat hx
      replace hy := congrArg Bytes.toNat hy
      simp only [Bytes.toNat_padLeft, Number.toBytes, Bytes.toNat_ofNat] at hx hy
      simp [compare, hx, hy, bind, Except.bind]

/-! ## Decoding on a curve over the integers -/

variable {curve : Curve F} {m : ℤ}

theorem exists_decodePoint_iff {octets : Bytes} :
    (∃ Q, curve.decodePoint octets = .ok Q) ↔ Sec.Readable octets := by
  rw [← Sec.exists_decode_iff, Curve.decodePoint_eq]
  cases Sec.decode octets <;> simp [Except.map]

/-- What decodes is the encoding of infinity with more octets behind it, or of a point with the
numbers of two numerals of one length. -/
theorem decodePoint_eq_ok_iff (hp : curve.p = .integer m) {octets : Bytes} {Q : Point F} :
    curve.decodePoint octets = .ok Q ↔
      ((∃ rest, octets = 0 :: rest) ∧ Q = curve.pointAtInfinity) ∨
      ∃ x y : Bytes, (octets = 4 :: (x ++ y) ∧ x.length = y.length) ∧
        Q = ⟨false, .integer x.toNat, .integer y.toNat, curve⟩ := by
  simp only [← Sec.decode_eq_infinity_iff, ← Sec.decode_eq_affine_iff]
  rw [Curve.decodePoint_eq]
  rcases Sec.decode octets with e | (_ | ⟨x, y⟩)
  · simp [Except.map]
  · simp [Except.map, setDecoded, Curve.pointAtInfinity, eq_comm]
  · simp [Except.map, setDecoded, Curve.pointAtInfinity, hp, Number.withBytes, eq_comm]

/-- A canonical string is the encoding of the point it decodes to. -/
theorem toSec_of_canonical (hp : curve.p = .integer m) {octets : Bytes} {Q : Point F}
    (hQ : curve.decodePoint octets = .ok Q) (h : Sec.Canonical curve.fieldWidth octets) :
    Q.toSec .uncompressed = .ok octets := by
  rcases (decodePoint_eq_ok_iff hp).1 hQ with ⟨⟨rest, rfl⟩, rfl⟩ | ⟨x, y, ⟨rfl, hxy⟩, rfl⟩
  · rcases h with hzero | ⟨rest', hfour, -⟩
    · rw [hzero]
      rfl
    · cases hfour
  · rcases h with hzero | ⟨rest, hfour, hlength⟩
    · cases hzero
    · cases hfour
      rw [List.length_append] at hlength
      obtain ⟨hx, hy⟩ : x.length = curve.fieldWidth ∧ y.length = curve.fieldWidth := by omega
      rw [toSec_finite, PrimitiveError.forward_eq_ok_iff, Sec.encode_eq_ok_iff]
      refine ⟨⟨?_, ?_⟩, ?_⟩
      · exact hx ▸ Bytes.length_ofNat_toNat_le x
      · exact hy ▸ Bytes.length_ofNat_toNat_le y
      -- Padding to the old width puts back the zeros that a numeral lost as an integer.
      · conv_rhs => rw [← hx, Bytes.padLeft_ofNat_toNat, hx, ← hy, Bytes.padLeft_ofNat_toNat]

/-- The encoding of a point decodes to infinity, or to the magnitudes of the coordinates. -/
theorem exists_decodePoint_of_toSec (hp : curve.p = .integer m) {infinity : Bool} {x y : ℤ}
    {octets : Bytes}
    (h : toSec ⟨infinity, .integer x, .integer y, curve⟩ .uncompressed = .ok octets) :
    ∃ Q, curve.decodePoint octets = .ok Q ∧ Q.infinity = infinity ∧
      (infinity = false → Q.x = .integer x.natAbs ∧ Q.y = .integer y.natAbs) := by
  cases infinity with
  | true =>
    cases h
    exact ⟨curve.pointAtInfinity, rfl, rfl, nofun⟩
  | false =>
    have habs : toSec ⟨false, .integer x.natAbs, .integer y.natAbs, curve⟩ .uncompressed =
        .ok octets := by
      rw [toSec_finite, ← h]
      rfl
    exact ⟨_, decodePoint_of_toSec hp habs, rfl, fun _ => ⟨rfl, rfl⟩⟩

/-- What was decoded and encodes again decodes to the same point, hidden coordinates included. -/
theorem decodePoint_toSec_of_decodePoint (hp : curve.p = .integer m) {octets encoded : Bytes}
    {Q : Point F} (hQ : curve.decodePoint octets = .ok Q)
    (h : Q.toSec .uncompressed = .ok encoded) : curve.decodePoint encoded = .ok Q := by
  rcases (decodePoint_eq_ok_iff hp).1 hQ with ⟨-, rfl⟩ | ⟨x, y, -, rfl⟩
  · cases h
    rfl
  · exact decodePoint_of_toSec hp h

theorem toSec_eq_self_iff (hp : curve.p = .integer m) {octets encoded : Bytes} {Q : Point F}
    (hQ : curve.decodePoint octets = .ok Q) (h : Q.toSec .uncompressed = .ok encoded) :
    encoded = octets ↔ Sec.Canonical curve.fieldWidth octets := by
  have hcurve : Q.curve = curve := by
    rcases (decodePoint_eq_ok_iff hp).1 hQ with ⟨-, rfl⟩ | ⟨x, y, -, rfl⟩ <;> rfl
  constructor
  · rintro rfl
    exact hcurve ▸ canonical_of_toSec h
  · intro hcanonical
    exact Except.ok.inj (h.symm.trans (toSec_of_canonical hp hQ hcanonical))

/-- On a curve over the integers, whatever its modulus, a point has an encoding unless a
coordinate is wider than the modulus, and the encoding of natural coordinates decodes to them.
Exactly the readable strings decode. What they decode to, if it encodes at all, encodes to a string
that decodes to the same point, and to the string itself exactly if that is canonical. Points with
one encoding are equal. -/
theorem toSec_decodePoint_inverse (hp : curve.p = .integer m) :
    (∀ (infinity : Bool) (x y : ℤ),
      ((∃ e, toSec ⟨infinity, .integer x, .integer y, curve⟩ .uncompressed = .error e) ↔
        infinity = false ∧
          (256 ^ curve.fieldWidth ≤ x.natAbs ∨ 256 ^ curve.fieldWidth ≤ y.natAbs)) ∧
      (∀ e, toSec ⟨infinity, .integer x, .integer y, curve⟩ .uncompressed = .error e →
        ∃ context actual, e = .invalidLength context curve.fieldWidth actual) ∧
      ∀ octets, toSec ⟨infinity, .integer x, .integer y, curve⟩ .uncompressed = .ok octets →
        ∃ Q, curve.decodePoint octets = .ok Q ∧ Q.infinity = infinity ∧
          (infinity = false → 0 ≤ x → 0 ≤ y → Q.x = .integer x ∧ Q.y = .integer y)) ∧
    (∀ octets, (∃ Q, curve.decodePoint octets = .ok Q) ↔ Sec.Readable octets) ∧
    (∀ octets Q, curve.decodePoint octets = .ok Q →
      (∀ encoded, Q.toSec .uncompressed = .ok encoded → curve.decodePoint encoded = .ok Q ∧
        (encoded = octets ↔ Sec.Canonical curve.fieldWidth octets)) ∧
      (Sec.Canonical curve.fieldWidth octets → Q.toSec .uncompressed = .ok octets)) ∧
    ∀ (infinity infinity' : Bool) (x y x' y' : ℤ) octets,
      toSec ⟨infinity, .integer x, .integer y, curve⟩ .uncompressed = .ok octets →
      toSec ⟨infinity', .integer x', .integer y', curve⟩ .uncompressed = .ok octets →
      compare ⟨infinity, .integer x, .integer y, curve⟩
        ⟨infinity', .integer x', .integer y', curve⟩ = .ok .eq := by
  refine ⟨fun infinity x y => ⟨toSec_eq_error_iff curve infinity x y, fun e h => ?_,
    fun octets h => ?_⟩, fun octets => exists_decodePoint_iff, fun octets Q hQ => ?_,
    fun _ _ _ _ _ _ _ => compare_of_toSec⟩
  · obtain ⟨context, actual, he, -⟩ := invalidLength_of_toSec h
    exact ⟨context, actual, he⟩
  · obtain ⟨Q, hQ, hinf, hcoordinates⟩ := exists_decodePoint_of_toSec hp h
    refine ⟨Q, hQ, hinf, fun hfin hx hy => ?_⟩
    rw [← Int.natAbs_of_nonneg hx, ← Int.natAbs_of_nonneg hy]
    exact hcoordinates hfin
  · refine ⟨fun encoded h => ⟨decodePoint_toSec_of_decodePoint hp hQ h, ?_⟩,
      toSec_of_canonical hp hQ⟩
    exact toSec_eq_self_iff hp hQ h

/-- Over a modulus of two octets a coordinate of three has no encoding, and the zero in front of
the second coordinate is restored. -/
theorem toSec_decodePoint_inverse_two_octets :
    let curve : Curve Empty := { Curve.new (.integer 0) with p := .integer 257 }
    curve.p = .integer 257 ∧
      (∃ e, toSec ⟨false, .integer 65536, .integer 7, curve⟩ .uncompressed = .error e) ∧
      ∃ Q, curve.decodePoint [4, 1, 0, 0, 7] = .ok Q ∧
        Q.toSec .uncompressed = .ok [4, 1, 0, 0, 7] := by
  intro curve
  have hp : curve.p = .integer 257 := rfl
  have hwidth : curve.fieldWidth = 2 := by decide
  obtain ⟨hpoints, hreadable, hstrings, -⟩ := toSec_decodePoint_inverse hp
  obtain ⟨Q, hQ⟩ := (hreadable [4, 1, 0, 0, 7]).2 (.inr ⟨_, rfl, rfl⟩)
  refine ⟨hp, (hpoints false 65536 7).1.2 ⟨rfl, .inl ?_⟩, Q, hQ, (hstrings _ Q hQ).2 ?_⟩
  · rw [hwidth]
    decide
  · rw [hwidth]
    exact .inr ⟨_, rfl, rfl⟩

end Point

end CryptoSuite
