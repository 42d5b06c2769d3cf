import CryptoSuite.Proofs.Curve.CanonicalEncoding
import CryptoSuite.Proofs.Curve.Integral

/-!
# Announced sizes

Curves and points announce the number of octets of a parameter or a coordinate
without writing it. `Announces` compares such an answer with the octets : both are
given and fit, or both are refused for one kind of reason. Over the integers every
number announces its length (`announces_toBytes`), so all sizes are right but one.
The size of a whole finite point is computed from the modulus alone, and a
coordinate that takes more octets than the modulus has no place in an encoding
(`Point.Oversized`) : there a size is announced and nothing can be written.

Main statement : `Point.Oversized` is the only exception
(`Curve.sizes_announced_iff`).
-/

namespace CryptoSuite

/-- The announced size is the number of octets, or both are refused with errors of one class. -/
def Announces (size : Except Error ℕ) (octets : Except Error Bytes) : Prop :=
  InStep SameKind (fun announced written => announced = written.length) size octets

variable {F : Type}

theorem announces_error (e : Error) : Announces (.error e) (.error e) :=
  .error rfl

theorem not_announces_ok_error (size : ℕ) (e : Error) : ¬Announces (.ok size) (.error e) :=
  nofun

/-- A finite point with a coordinate of more octets than the modulus. -/
def Point.Oversized [Representation F] (P : Point F) : Prop :=
  P.infinity = false ∧
    (P.curve.fieldWidth < P.x.byteSize ∨ P.curve.fieldWidth < P.y.byteSize)

theorem Curve.Integral.scalar {curve : Curve F} (h : curve.Integral) (s : Curve.Scalar) :
    ∃ m, curve.scalar s = .integer m := by
  cases s
  case p => exact h .p
  case a => exact h .a
  case b => exact h .b
  case n => exact h .n
  case h => exact h .h

variable [Representation F]

/-- An integer announces the length of its numeral. -/
theorem announces_toBytes {value : Number F} (h : ∃ m, value = .integer m) :
    Announces (.ok value.byteSize) (.ok value.toBytes) := by
  obtain ⟨m, rfl⟩ := h
  exact .ok (Number.length_toBytes m).symm

/-! ## Points -/

namespace Point

variable {P : Point F}

/-- An encoding is as long as announced. -/
theorem byteSize_of_toSec {octets : Bytes} (h : P.toSec .uncompressed = .ok octets) :
    P.byteSize .sec = .ok octets.length := by
  rw [toSec] at h
  rw [byteSize]
  split_ifs at h ⊢ with hinf
  · cases h
    rfl
  · rw [Sec.length_encode (PrimitiveError.forward_eq_ok_iff.1 h)]

theorem Integral.toSec_eq_error_iff_oversized (hP : P.Integral) :
    (∃ e, P.toSec .uncompressed = .error e) ↔ P.Oversized := by
  obtain ⟨infinity, X, Y, curve⟩ := P
  obtain ⟨⟨x, rfl⟩, ⟨y, rfl⟩, -⟩ := hP
  rw [toSec_eq_error_iff, Oversized, Number.lt_byteSize_iff, Number.lt_byteSize_iff]

/-- A coordinate that is too long cannot be written, but the size of the point is announced. -/
theorem Integral.byteSize_of_oversized (hP : P.Integral) (h : P.Oversized) :
    P.byteSize .sec = .ok (Sec.affineSize P.curve.fieldWidth) ∧ ∃ context actual,
      P.bytes .sec = .error (.invalidLength context P.curve.fieldWidth actual) := by
  obtain ⟨e, he⟩ := hP.toSec_eq_error_iff_oversized.2 h
  obtain ⟨context, actual, rfl, -⟩ := invalidLength_of_toSec he
  refine ⟨?_, context, actual, he⟩
  rw [byteSize, h.1]
  rfl

theorem Integral.announces_sec_iff (hP : P.Integral) :
    Announces (P.byteSize .sec) (P.bytes .sec) ↔ ¬P.Oversized := by
  rw [← hP.toSec_eq_error_iff_oversized, bytes]
  cases hsec : P.toSec .uncompressed with
  | ok octets =>
    rw [byteSize_of_toSec hsec]
    exact iff_of_true (.ok rfl) nofun
  | error e => exact iff_of_false (not_announces_ok_error _ e) (not_not.2 ⟨e, rfl⟩)

omit [Representation F] in
theorem Integral.of_coordinate (hP : P.Integral) {part : Coordinate} {value : Number F}
    (h : P.coordinate part = .ok value) : ∃ m, value = .integer m := by
  unfold coordinate at h
  split at h
  · cases h
  cases part with
  | x => cases h; exact hP.x
  | y => cases h; exact hP.y
  | sec => cases h
  | secCompressed => cases h

/-- At infinity a single coordinate is refused, and so is its size. -/
theorem Integral.announces_coordinate (hP : P.Integral) (part : Coordinate) :
    Announces (do return (← P.coordinate part).byteSize)
      (do return (← P.coordinate part).toBytes) := by
  cases hvalue : P.coordinate part with
  | error e => exact announces_error e
  | ok value => exact announces_toBytes (hP.of_coordinate hvalue)

theorem Integral.announces_iff (hP : P.Integral) (part : Coordinate) :
    Announces (P.byteSize part) (P.bytes part) ↔ ¬(part = .sec ∧ P.Oversized) := by
  cases part with
  | sec => simpa using hP.announces_sec_iff
  | secCompressed => exact iff_of_true (announces_error _) (by simp)
  | x => exact iff_of_true (hP.announces_coordinate .x) (by simp)
  | y => exact iff_of_true (hP.announces_coordinate .y) (by simp)

end Point

/-! ## Curves -/

namespace Curve

variable {curve : Curve F}

/-- The base point is asked for as the point that it is. -/
theorem byteSize_base (curve : Curve F) : curve.byteSize "g" .sec = curve.base.byteSize .sec :=
  (mirrors_base curve).byteSize_eq

theorem bytes_base (curve : Curve F) : curve.bytes "g" .sec = curve.base.bytes .sec :=
  (mirrors_base curve).baseSec_eq

theorem Integral.announces_iff (h : curve.Integral) (field : String) (part : Coordinate) :
    Announces (curve.byteSize field part) (curve.bytes field part) ↔
      ¬((field = "g" ∧ part = .sec) ∧ curve.base.Oversized) := by
  cases hfield : Field.ofName? field with
  | none =>
    have hne : field ≠ "g" := Field.ofName?_eq_none_iff.1 hfield .base
    rw [byteSize, bytes, Field.ofName, hfield]
    exact iff_of_true (announces_error _) (by simp [hne])
  | some known =>
    obtain rfl := Field.ofName?_eq_some_iff.1 hfield
    cases known with
    | scalar s =>
      have hne : (Field.scalar s).name ≠ "g" := by simp [Field.name_eq_base_iff]
      rw [byteSize, bytes, Field.ofName_name]
      exact iff_of_true (announces_toBytes (h.scalar s)) (by simp [hne])
    | base =>
      have hname : Field.base.name = "g" := rfl
      rw [hname]
      cases part with
      | sec =>
        rw [byteSize_base, bytes_base, h.base.announces_sec_iff]
        simp
      | secCompressed => exact iff_of_true (announces_error _) (by simp)
      | x => exact iff_of_true (announces_toBytes h.base.x) (by simp)
      | y => exact iff_of_true (announces_toBytes h.base.y) (by simp)

/-- Over the integers a parameter of a curve, and a coordinate of a point, has exactly the announced
number of octets, or both are refused with errors of one class. The encoding of a finite point with
a coordinate of more octets than the modulus is the only exception, for base points and all others :
twice the length of the modulus and one is announced, and the encoding is refused for its length. -/
theorem sizes_announced_iff {P : Point F} (h : curve.Integral) (hP : P.Integral) :
    (∀ field part, Announces (curve.byteSize field part) (curve.bytes field part) ↔
      ¬((field = "g" ∧ part = .sec) ∧ curve.base.Oversized)) ∧
    (∀ part, Announces (P.byteSize part) (P.bytes part) ↔ ¬(part = .sec ∧ P.Oversized)) ∧
    (curve.base.Oversized → curve.byteSize "g" .sec = .ok (Sec.affineSize curve.fieldWidth) ∧
      ∃ context actual,
        curve.bytes "g" .sec = .error (.invalidLength context curve.fieldWidth actual)) ∧
    (P.Oversized → P.byteSize .sec = .ok (Sec.affineSize P.curve.fieldWidth) ∧
      ∃ context actual,
        P.bytes .sec = .error (.invalidLength context P.curve.fieldWidth actual)) := by
  refine ⟨h.announces_iff, hP.announces_iff, fun hlong => ?_, hP.byteSize_of_oversized⟩
  rw [byteSize_base, bytes_base]
  exact h.base.byteSize_of_oversized hlong

/-- Modulo 17 the point `(261, 3)` is on the small curve, and takes two octets for its first
coordinate. Each coordinate is announced rightly, but not the point. -/
theorem sizes_announced_iff_small :
    let P := PrimeCurve.smallPoint 261 3
    let curve := { P.curve with baseAtInfinity := false, gx := P.x, gy := P.y }
    curve.Integral ∧ P.Integral ∧
      Announces (curve.byteSize "g" .x) (curve.bytes "g" .x) ∧
      ¬Announces (curve.byteSize "g" .sec) (curve.bytes "g" .sec) ∧
      Announces (P.byteSize .x) (P.bytes .x) ∧ ¬Announces (P.byteSize .sec) (P.bytes .sec) := by
  intro P curve
  have hcurve : P.curve.Integral := fun s => by cases s <;> exact ⟨_, rfl⟩
  have h : curve.Integral := fun s => by cases s <;> exact ⟨_, rfl⟩
  have hP : P.Integral := ⟨⟨_, rfl⟩, ⟨_, rfl⟩, hcurve⟩
  have hlong : P.Oversized := ⟨rfl, .inl (by decide)⟩
  have hbase : curve.base.Oversized := ⟨rfl, .inl (by decide)⟩
  obtain ⟨hfields, hparts, -, -⟩ := sizes_announced_iff h hP
  refine ⟨h, hP, (hfields "g" .x).2 (by simp), ?_, (hparts .x).2 (by simp), ?_⟩
  · rw [hfields]
    exact not_not.2 ⟨⟨rfl, rfl⟩, hbase⟩
  · rw [hparts]
    exact not_not.2 ⟨rfl, hlong⟩

/-- A point whose octets decode on the small curve, and have no encoding there. -/
theorem announced_and_not_written :
    let P := PrimeCurve.smallPoint 261 3
    P.curve.decodePoint [4, 1, 5, 0, 3] = .ok P ∧ P.isOnCurve = .ok true ∧
      P.byteSize .sec = .ok 3 ∧ P.bytes .sec = .error (.invalidLength "SEC x coordinate" 1 2) := by
  decide +kernel

end Curve

end CryptoSuite
