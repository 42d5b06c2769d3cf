import CryptoSuite.Proofs.Curve.History

/-!
# Writes to a base point and to a point

A curve keeps its base point apart from points, with setters and an encoder of its
own. The same octets and numbers can be written to the base point of a curve and to
a point (`Point.Write`). A curve `Mirrors` a point if its base point has the flag and the
coordinates of the point, hidden ones included, and both have one field prime. A
write is accepted by both or refused by both, with an error of one class, and leaves
them mirrored in any case (`Curve.Mirrors.attempt`), and so does a history of writes
(`Curve.Mirrors.run`). Main statement : `Curve.base_mirrors_point`.
-/

namespace CryptoSuite

variable {F : Type}

/-- A write to a part of a point. -/
inductive Point.Write (F : Type) where
  /-- Set the part from octets. -/
  | octets (part : Coordinate) (numeral : Bytes)
  /-- Set the part from a number. -/
  | number (part : Coordinate) (value : Number F)

/-- The write to the base point of a curve. -/
def Point.Write.onBase : Point.Write F → Curve.Call F
  | .octets part numeral => .setBytes "g" numeral part
  | .number part value => .setNumber "g" value part

/-- The class of the error a computation fails with, if it fails. -/
def refusal {α : Type} : Except Error α → Option Error.Kind
  | .ok _ => none
  | .error e => some e.kind

variable [Representation F]

namespace Point

/-- What a write to a point answers, and the point it leaves. -/
def attempt (P : Point F) : Write F → Except Error Unit × Point F
  | .octets part numeral => P.setBytes part numeral
  | .number part value => P.setCoordinate part value

/-- The point that a write leaves. -/
def accept (P : Point F) (write : Write F) : Point F :=
  (P.attempt write).2

/-- The point after a history of writes. -/
def acceptAll (P : Point F) (writes : List (Write F)) : Point F :=
  writes.foldl accept P

end Point

namespace Curve

/-- The base point of the curve is the point, up to the parameters it carries, which have the
same field prime. -/
structure Mirrors (curve : Curve F) (P : Point F) : Prop where
  infinity : curve.baseAtInfinity = P.infinity
  x : curve.gx = P.x
  y : curve.gy = P.y
  p : curve.p = P.curve.p

/-- Both changes succeed or fail with errors of one class, and what they leave is mirrored. -/
structure InLockStep (onCurve : Except Error Unit × Curve F)
    (onPoint : Except Error Unit × Point F) : Prop where
  refusal : refusal onCurve.1 = refusal onPoint.1
  mirrors : onCurve.2.Mirrors onPoint.2

variable {curve : Curve F} {P : Point F}

omit [Representation F] in
theorem mirrors_base (curve : Curve F) : curve.Mirrors curve.base :=
  ⟨rfl, rfl, rfl, rfl⟩

namespace Mirrors

/-! ## One write -/

theorem setDecoded (h : curve.Mirrors P) (decoded : Sec.Decoded) :
    (curve.setBaseDecoded decoded).unnamed.Mirrors (P.setDecoded decoded) := by
  cases decoded with
  | infinity => exact ⟨rfl, h.x, h.y, h.p⟩
  | affine x y => exact ⟨rfl, congrArg (·.withBytes x) h.x, congrArg (·.withBytes y) h.y, h.p⟩

/-- Both decode before they touch anything. -/
theorem setSec (h : curve.Mirrors P) {part : Coordinate}
    (hpart : part = .sec ∨ part = .secCompressed) (octets : Bytes) :
    InLockStep (curve.setBytes "g" octets part) (P.setSec octets) := by
  have hfield : Field.ofName "g" = .ok .base := rfl
  rw [Curve.setBytes_eq, Point.setSec_eq, hfield]
  rcases hpart with rfl | rfl <;> cases Sec.decode octets with
    | error e => exact ⟨rfl, h⟩
    | ok decoded => exact ⟨rfl, h.setDecoded decoded⟩

theorem setBytes (h : curve.Mirrors P) (part : Coordinate) (octets : Bytes) :
    InLockStep (curve.setBytes "g" octets part) (P.setBytes part octets) := by
  cases part with
  | x => exact ⟨rfl, rfl, congrArg (·.withBytes octets) h.x, h.y, h.p⟩
  | y => exact ⟨rfl, rfl, h.x, congrArg (·.withBytes octets) h.y, h.p⟩
  | sec => exact h.setSec (.inl rfl) octets
  | secCompressed => exact h.setSec (.inr rfl) octets

/-- Both look at the representation before they look at the part. -/
theorem setNumber (h : curve.Mirrors P) (part : Coordinate) (value : Number F) :
    InLockStep (curve.setNumber "g" value part) (P.setCoordinate part value) := by
  have hfield : Field.ofName "g" = .ok .base := rfl
  simp only [Curve.setNumber_eq, Point.setCoordinate_eq, hfield, ← h.p, bind, Except.bind]
  by_cases hsame : value.algorithm = curve.p.algorithm
  · rw [if_neg (Classical.not_not.2 hsame), if_neg (Classical.not_not.2 hsame)]
    cases part with
    | x => exact ⟨rfl, rfl, rfl, h.y, h.p⟩
    | y => exact ⟨rfl, rfl, h.x, rfl, h.p⟩
    | sec => exact ⟨rfl, h⟩
    | secCompressed => exact ⟨rfl, h⟩
  · rw [if_pos hsame, if_pos hsame]
    exact ⟨rfl, h⟩

theorem attempt (h : curve.Mirrors P) (write : Point.Write F) :
    InLockStep (curve.attempt write.onBase) (P.attempt write) := by
  cases write with
  | octets part numeral => exact h.setBytes part numeral
  | number part value => exact h.setNumber part value

/-! ## Histories, and what is read afterwards -/

theorem run (h : curve.Mirrors P) (writes : List (Point.Write F)) :
    Mirrors (curve.run (writes.map Point.Write.onBase)) (P.acceptAll writes) := by
  induction writes generalizing curve P with
  | nil => exact h
  | cons write writes ih => exact ih (h.attempt write).mirrors

theorem baseSec_eq (h : curve.Mirrors P) : curve.baseSec .uncompressed = P.toSec .uncompressed := by
  simp only [baseSec, Point.toSec, fieldWidth, h.infinity, h.x, h.y, h.p]

theorem byteSize_eq (h : curve.Mirrors P) : curve.byteSize "g" .sec = P.byteSize .sec := by
  show Except.ok _ = Except.ok _
  rw [h.infinity, fieldWidth, fieldWidth, h.p]

end Mirrors

/-- Write the same to the base point of a curve and to the point it was at the start. After any
history of writes each further one is accepted by both or refused by both with an error of one
class, the flag and the coordinates are the same, those remembered at infinity included, and so are
the encodings or the failures to encode, and the announced size. -/
theorem base_mirrors_point (curve : Curve F) (writes : List (Point.Write F)) :
    let written := curve.run (writes.map Point.Write.onBase)
    let P := curve.base.acceptAll writes
    (∀ write : Point.Write F,
      refusal (written.attempt write.onBase).1 = refusal (P.attempt write).1) ∧
    (written.base.infinity = P.infinity ∧ written.base.x = P.x ∧ written.base.y = P.y) ∧
    (written.bytes "g" .sec = P.toSec .uncompressed ∧
      written.baseSec .uncompressed = P.toSec .uncompressed) ∧
    written.byteSize "g" .sec = P.byteSize .sec := by
  intro written P
  have h : written.Mirrors P := (mirrors_base curve).run writes
  have hbytes : written.bytes "g" .sec = written.baseSec .uncompressed := rfl
  exact ⟨fun write => (h.attempt write).refusal, ⟨h.infinity, h.x, h.y⟩,
    ⟨hbytes.trans h.baseSec_eq, h.baseSec_eq⟩, h.byteSize_eq⟩

end Curve

end CryptoSuite
