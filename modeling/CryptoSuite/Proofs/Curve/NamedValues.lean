import CryptoSuite.Curve.Basic
import Mathlib.Control.Monad.Basic
import Mathlib.Data.Nat.Notation

/-!
# Values of the named curves

A curve has seven places for numbers (`Curve.Slot`). The octets that an entry of
the table has for a slot are read off its texts two digits at a time
(`NamedCurve.octets`), apart from the decoder of the table, and so are the
numbers (`NamedCurve.number`).

No text of the table is refused, and every one decodes to these octets
(`NamedCurve.decode_of_mem`). So a load fails for an unknown name only, and
otherwise fills every slot (`Curve.load_eq`), over the integers with the numbers
of the entry (`Curve.withNamed_eq`).
-/

namespace CryptoSuite

namespace Curve

/-- The places of a curve for numbers. -/
inductive Slot where
  | p
  | a
  | b
  | n
  | h
  | gx
  | gy
  deriving DecidableEq

/-- The number in a slot. -/
def slot {F : Type} (curve : Curve F) : Slot → Number F
  | .p => curve.p
  | .a => curve.a
  | .b => curve.b
  | .n => curve.n
  | .h => curve.h
  | .gx => curve.gx
  | .gy => curve.gy

end Curve

namespace NamedCurve

/-! ## Texts of the table -/

/-- The value of a decimal digit or a lower-case letter. -/
def digitValue (digit : UInt8) : ℕ :=
  if digit.toNat < 0x3a then digit.toNat - 0x30 else digit.toNat - 0x57

/-- The octets that pairs of hexadecimal digits denote. -/
def octetsOfDigits : Bytes → Bytes
  | high :: low :: rest =>
    UInt8.ofNat (16 * digitValue high + digitValue low) :: octetsOfDigits rest
  | _ => []

/-- Both coordinates of the base point, as one text of octets without the tag in front. -/
def baseOctets (named : NamedCurve) : Bytes :=
  (octetsOfDigits (Bytes.ofText named.g)).tail

/-- The octets that an entry has for a slot. Half of those of the base point belong to either of
its coordinates. -/
def octets (named : NamedCurve) : Curve.Slot → Bytes
  | .p => octetsOfDigits (Bytes.ofText named.p)
  | .a => octetsOfDigits (Bytes.ofText named.a)
  | .b => octetsOfDigits (Bytes.ofText named.b)
  | .n => octetsOfDigits (Bytes.ofText named.n)
  | .h => octetsOfDigits (Bytes.ofText named.h)
  | .gx => named.baseOctets.take (named.baseOctets.length / 2)
  | .gy => named.baseOctets.drop (named.baseOctets.length / 2)

/-- The number that an entry has for a slot. -/
def number (named : NamedCurve) (slot : Curve.Slot) : ℕ :=
  (named.octets slot).toNat

/-- What the decoder is to make of an entry. -/
def values (named : NamedCurve) : Values where
  p := named.octets .p
  a := named.octets .a
  b := named.octets .b
  n := named.octets .n
  h := named.octets .h
  base := .affine (named.octets .gx) (named.octets .gy)

/-- Every text of the table is in order. -/
theorem decode_of_mem : ∀ named ∈ all, named.decode = .ok named.values := by
  decide +kernel

end NamedCurve

/-! ## Loads -/

variable {F : Type}

/-- The curve of integers that an entry of the table describes. -/
def NamedCurve.onIntegers (named : NamedCurve) : Curve F where
  name := some named.name
  p := .integer (named.number .p)
  a := .integer (named.number .a)
  b := .integer (named.number .b)
  n := .integer (named.number .n)
  h := .integer (named.number .h)
  baseAtInfinity := false
  gx := .integer (named.number .gx)
  gy := .integer (named.number .gy)

namespace Curve

variable [Representation F] {curve written : Curve F}

/-- A load fills every slot, unless the name is not in the table. -/
theorem load_eq (curve : Curve F) (name : String) :
    curve.load name =
      match NamedCurve.find? name with
      | none => (.error unknownCurve, curve)
      | some named => (.ok (), curve.withNamed named.name named.values) := by
  rw [load]
  cases hfind : NamedCurve.find? name with
  | none => rfl
  | some named =>
    simp [NamedCurve.decode_of_mem named (NamedCurve.mem_of_find? hfind).1]

theorem load_eq_ok_iff {name : String} : curve.load name = (.ok (), written) ↔
    ∃ named, NamedCurve.find? name = some named ∧
      written = curve.withNamed named.name named.values := by
  rw [load_eq]
  cases NamedCurve.find? name <;> simp [eq_comm]

/-- Exactly the names of the table load, whatever the curve holds. -/
theorem exists_load_iff {name : String} : (∃ loaded, curve.load name = (.ok (), loaded)) ↔
    ∃ named ∈ NamedCurve.all, named.name = name := by
  constructor
  · rintro ⟨loaded, h⟩
    obtain ⟨named, hfind, -⟩ := load_eq_ok_iff.mp h
    exact ⟨named, NamedCurve.mem_of_find? hfind⟩
  · rintro ⟨named, hmem, hname⟩
    have hsome : (NamedCurve.find? name).isSome :=
      List.find?_isSome.mpr ⟨named, hmem, by simp [hname]⟩
    obtain ⟨found, hfind⟩ := Option.isSome_iff_exists.mp hsome
    exact ⟨_, load_eq_ok_iff.mpr ⟨found, hfind, rfl⟩⟩

/-- A curve over the integers receives the numbers of the table. -/
theorem withNamed_eq {m : Int} (hcurve : curve.p = .integer m) (named : NamedCurve) :
    curve.withNamed named.name named.values = named.onIntegers := by
  simp only [withNamed, hcurve]
  rfl

end Curve

end CryptoSuite
