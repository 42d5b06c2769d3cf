import CryptoSuite.Proofs.Curve.Equation
import CryptoSuite.Proofs.Curve.ScalarMultiple
import CryptoSuite.Proofs.Number.Numeral

/-!
# Encoded points and key agreement

A finite point whose coordinates are natural numbers not above the modulus has
an uncompressed encoding (`Point.exists_toSec`), and whatever encodes such a
point decodes to the same coordinates (`Point.decodePoint_of_toSec`). The
coordinates of a valid point are below the prime, so it can be sent : the
decoded point stands for the element of the group that was encoded
(`Denotes.exists_decodePoint`).

In an agreement on a key each of two parties sends the encoding of its multiple
of one base point (`Point.publicOctets`) and takes its own multiple of what it
received (`Curve.agreedPoint`). Both end with one point (`key_agreement`).
-/

namespace CryptoSuite

namespace Point

variable {F : Type} [Representation F] {curve other : Curve F} {x y : ℕ}

theorem toSec_finite (curve : Curve F) (x y : ℕ) :
    toSec ⟨false, .integer x, .integer y, curve⟩ .uncompressed =
      PrimitiveError.forward
        (Sec.encode curve.fieldWidth (Bytes.ofNat x) (Bytes.ofNat y)) := by
  simp [toSec, Number.toBytes]

theorem exists_toSec {p : ℤ} (hp : curve.p = .integer p) (hx : x ≤ p.natAbs)
    (hy : y ≤ p.natAbs) :
    ∃ octets, toSec ⟨false, .integer x, .integer y, curve⟩ .uncompressed = .ok octets := by
  have hfit : ∀ k ≤ p.natAbs, (Bytes.ofNat k).length ≤ curve.fieldWidth := by
    intro k hk
    rw [Curve.fieldWidth, hp, Bytes.length_ofNat_le_iff]
    exact hk.trans_lt (Number.byteSize_le_iff.1 le_rfl)
  rw [toSec_finite]
  exact ⟨_, PrimitiveError.forward_eq_ok_iff.2
    (Sec.encode_eq_ok_iff.2 ⟨⟨hfit x hx, hfit y hy⟩, rfl⟩)⟩

/-- On a curve over the integers an encoding decodes to the coordinates that were encoded. -/
theorem decodePoint_of_toSec {p : ℤ} (hp : other.p = .integer p) {octets : Bytes}
    (h : toSec ⟨false, .integer x, .integer y, curve⟩ .uncompressed = .ok octets) :
    other.decodePoint octets = .ok ⟨false, .integer x, .integer y, other⟩ := by
  rw [toSec_finite, PrimitiveError.forward_eq_ok_iff] at h
  rw [Curve.decodePoint_eq, Sec.decode_encode h]
  simp [Except.map, setDecoded, Curve.pointAtInfinity, hp, Number.withBytes]

/-- What the holder of the secret `k` sends : the encoding of its multiple of the base point. -/
def publicOctets (G : Point F) (k : Number F) : Except Error Bytes := do
  (← G.mul k).toSec .uncompressed

end Point

/-- What the holder of the secret `k` makes of the octets it received : its multiple of the
point they encode. -/
def Curve.agreedPoint {F : Type} [Representation F] (curve : Curve F) (octets : Bytes)
    (k : Number F) : Except Error (Point F) := do
  (← curve.decodePoint octets).mul k

namespace PrimeCurve

variable {F : Type} [Representation F] {E : PrimeCurve} {P : Point F} {G : E.Group}
  {curve : Curve F}

/-! ## Sending a point -/

/-- A point that stands for one of the plane has an encoding, which decodes to such a point on
every curve with the same parameters. -/
theorem Reads.exists_decodePoint {A : PlanePoint (ZMod E.p)} (hP : E.Reads P A)
    (hc : E.Describes curve) : ∃ octets Q, P.toSec .uncompressed = .ok octets ∧
      curve.decodePoint octets = .ok Q ∧ E.Reads Q A := by
  cases hP with
  | infinity x y h =>
    exact ⟨Sec.infinity, curve.pointAtInfinity, rfl, rfl, Reads.infinity curve.p curve.p hc⟩
  | finite x y h =>
    obtain ⟨octets, hsec⟩ :=
      Point.exists_toSec h.p (x := x.val) (y := y.val) x.val_lt.le y.val_lt.le
    exact ⟨octets, _, hsec, Point.decodePoint_of_toSec hc.p hsec, Reads.finite x y hc⟩

theorem Denotes.exists_decodePoint (hP : E.Denotes P G) (hc : E.Describes curve) :
    ∃ octets Q, P.toSec .uncompressed = .ok octets ∧ curve.decodePoint octets = .ok Q ∧
      E.Denotes Q G :=
  Reads.exists_decodePoint hP hc

/-! ## Agreement on a key -/

/-- What is made of the octets sent for `a` under the secret `b` is the multiple by both. -/
theorem Denotes.exists_agreedPoint (hP : E.Denotes P G) (hc : E.Describes curve) (a b : ℕ) :
    ∃ octets, P.publicOctets (.integer a) = .ok octets ∧
      E.Answers (curve.agreedPoint octets (.integer b)) (b • a • G) := by
  obtain ⟨A, hA, hAG⟩ := hP.mul a
  obtain ⟨octets, Q, hsec, hdecode, hQ⟩ := hAG.exists_decodePoint hc
  refine ⟨octets, ?_, ?_⟩
  · rw [Point.publicOctets, hA]
    exact hsec
  · rw [Curve.agreedPoint, hdecode]
    exact hQ.mul b

/-- Two parties with natural secrets send encodings that the other accepts, and make points of
the curve of them that compare as equal. -/
theorem key_agreement {base : Point F} (hc : E.Describes curve) (hbase : E.Valid base)
    (a b : ℕ) :
    ∃ α β S T, base.publicOctets (.integer a) = .ok α ∧ base.publicOctets (.integer b) = .ok β ∧
      curve.agreedPoint α (.integer b) = .ok S ∧ curve.agreedPoint β (.integer a) = .ok T ∧
      S.compare T = .ok .eq ∧ S.isOnCurve = .ok true ∧ T.isOnCurve = .ok true := by
  obtain ⟨G, hG⟩ := hbase.exists_denotes
  obtain ⟨α, hα, S, hS, hSG⟩ := hG.exists_agreedPoint hc a b
  obtain ⟨β, hβ, T, hT, hTG⟩ := hG.exists_agreedPoint hc b a
  have heq : S.compare T = .ok .eq := (hSG.compare_eq_iff hTG).2 (smul_comm b a G)
  exact ⟨α, β, S, T, hα, hβ, hS, hT, heq, hSG.valid.isOnCurve, hTG.valid.isOnCurve⟩

/-- On the small curve the multiple of `(5, 1)` by 19 is sent as infinity. -/
theorem key_agreement_small :
    small.Describes (smallPoint 5 1).curve ∧ small.Valid (smallPoint 5 1) ∧
      (smallPoint 5 1).publicOctets (.integer 19) = .ok [0] ∧
      ∃ α β S T, (smallPoint 5 1).publicOctets (.integer 19) = .ok α ∧
        (smallPoint 5 1).publicOctets (.integer 3) = .ok β ∧
        (smallPoint 5 1).curve.agreedPoint α (.integer 3) = .ok S ∧
        (smallPoint 5 1).curve.agreedPoint β (.integer 19) = .ok T ∧
        S.compare T = .ok .eq ∧ S.isOnCurve = .ok true ∧ T.isOnCurve = .ok true := by
  have hsent : (smallPoint 5 1).publicOctets (.integer 19) = .ok [0] := by cbv
  exact ⟨valid_five_one.curve, valid_five_one, hsent,
    key_agreement valid_five_one.curve valid_five_one 19 3⟩

end PrimeCurve

end CryptoSuite
