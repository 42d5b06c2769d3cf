import CryptoSuite.Number.Basic
import Mathlib.Data.Nat.Notation

/-!
# Implementations of numbers

Numbers go by the name of the implementation they come from (`Number.algorithm`), and
that is all a setter asks of a number. The results of operations go by the name of
the first operand, over the integers anyway and in other representations by their
law (`Number.KeepsName`).

The name need not tell the type : a value of another representation may go by the
name of the integers (`Number.IsImpostor`). It passes where a number of this name is
asked for, and is still refused as an operand of an integer.
-/

namespace CryptoSuite

namespace Number

variable {F : Type} [Representation F]

/-! ## Names -/

theorem algorithm_integer (m : Int) : (integer m : Number F).algorithm = integerAlgorithm := rfl

/-- A value of another representation under the name of the integers. -/
def IsImpostor (value : Number F) : Prop :=
  ∃ a, value = .foreign a ∧ Representation.algorithm a = integerAlgorithm

/-- What goes by the name of the integers is an integer or an impostor. -/
theorem exists_integer {value : Number F} (hname : value.algorithm = integerAlgorithm)
    (h : ¬value.IsImpostor) : ∃ m, value = .integer m := by
  cases value with
  | integer m => exact ⟨m, rfl⟩
  | foreign a => exact absurd ⟨a, rfl, hname⟩ h

omit [Representation F] in
theorem not_exists_integer_foreign (a : F) : ¬∃ m, foreign a = .integer m :=
  fun ⟨_, h⟩ => nomatch h

/-- A number set from octets is an integer exactly if it was one. -/
theorem exists_withBytes_integer {value : Number F} {octets : Bytes} :
    (∃ m, value.withBytes octets = .integer m) ↔ ∃ m, value = .integer m := by
  cases value with
  | integer m => exact iff_of_true ⟨octets.toNat, rfl⟩ ⟨m, rfl⟩
  | foreign a => exact iff_of_false (not_exists_integer_foreign _) (not_exists_integer_foreign a)

/-! ## The law of the names -/

/-- The law of a representation that new values and results of operations go by the name of the
value they are made from, which is the first operand. -/
structure KeepsName (F : Type) [Representation F] : Prop where
  setBytes (a : F) (octets : Bytes) :
    Representation.algorithm (Representation.setBytes a octets) = Representation.algorithm a
  add {a : F} {b r : Number F} (h : Representation.add a b = .ok r) :
    r.algorithm = Representation.algorithm a
  sub {a : F} {b r : Number F} (h : Representation.sub a b = .ok r) :
    r.algorithm = Representation.algorithm a
  mul {a : F} {b r : Number F} (h : Representation.mul a b = .ok r) :
    r.algorithm = Representation.algorithm a
  rem {a : F} {m r : Number F} (h : Representation.rem a m = .ok r) :
    r.algorithm = Representation.algorithm a
  mulMod {a : F} {b m r : Number F} (h : Representation.mulMod a b m = .ok r) :
    r.algorithm = Representation.algorithm a
  squareMod {a : F} {m r : Number F} (h : Representation.squareMod a m = .ok r) :
    r.algorithm = Representation.algorithm a

/-- A family of numbers with one name, to which numbers set from octets belong again. -/
structure Family (name : String) (good : Number F → Prop) : Prop where
  algorithm {value : Number F} (h : good value) : value.algorithm = name
  withBytes {value : Number F} (h : good value) (octets : Bytes) : good (value.withBytes octets)

theorem family_integers :
    Family integerAlgorithm fun value : Number F => ∃ m, value = .integer m where
  algorithm := fun ⟨m, h⟩ => h ▸ algorithm_integer m
  withBytes h _ := exists_withBytes_integer.2 h

/-- Whatever a computation answers goes by the given name. -/
abbrev Named (name : String) (answer : Except Error (Number F)) : Prop :=
  Outcome (fun r => r.algorithm = name) (fun _ => True) answer

/-- An operation that answers integers only answers what goes by their name. -/
theorem named_bind_integer {α : Type} (x : Except Error α) (f : α → Int) :
    Named (F := F) integerAlgorithm (do return integer (f (← x))) := by
  cases x with
  | error e => trivial
  | ok a => rfl

namespace KeepsName

variable (hF : KeepsName F)
include hF

section

variable (a b m : Number F)

theorem algorithm_withBytes (octets : Bytes) : (a.withBytes octets).algorithm = a.algorithm := by
  cases a with
  | integer => rfl
  | foreign a => exact hF.setBytes a octets

theorem named_add : Named a.algorithm (a.add b) := by
  cases a with
  | integer => exact named_bind_integer _ _
  | foreign a => exact .of_forall fun _ h => hF.add h

theorem named_sub : Named a.algorithm (a.sub b) := by
  cases a with
  | integer => exact named_bind_integer _ _
  | foreign a => exact .of_forall fun _ h => hF.sub h

theorem named_mul : Named a.algorithm (a.mul b) := by
  cases a with
  | integer => exact named_bind_integer _ _
  | foreign a => exact .of_forall fun _ h => hF.mul h

theorem named_rem : Named a.algorithm (a.rem m) := by
  cases a with
  | integer => exact named_bind_integer _ _
  | foreign a => exact .of_forall fun _ h => hF.rem h

theorem named_mulMod : Named a.algorithm (a.mulMod b m) := by
  cases a with
  | integer a =>
    show Named integerAlgorithm (m.modulus >>= _)
    cases m.modulus with
    | error e => trivial
    | ok modulus => exact named_bind_integer _ _
  | foreign a => exact .of_forall fun _ h => hF.mulMod h

theorem named_squareMod : Named a.algorithm (a.squareMod m) := by
  cases a with
  | integer => exact named_bind_integer _ _
  | foreign a => exact .of_forall fun _ h => hF.squareMod h

end

/-- The numbers of one name are a family. -/
theorem family (name : String) : Family name fun value : Number F => value.algorithm = name where
  algorithm h := h
  withBytes h octets := (hF.algorithm_withBytes _ octets).trans h

end KeepsName

/-! ## Zeros under any name -/

/-- A zero that goes by a name of its own, and makes of any operands itself. -/
structure Constant where
  /-- The name. -/
  name : String
  deriving DecidableEq

instance : Representation Constant where
  algorithm a := a.name
  setBytes a _ := a
  setSmall a _ := a
  toBytes _ := []
  byteSize _ := 0
  bitSize _ := 0
  testBit _ _ := false
  isZero _ := true
  isNegative _ := false
  compare _ _ := .ok .eq
  compareMagnitude _ _ := .ok .eq
  add a _ := .ok (.foreign a)
  sub a _ := .ok (.foreign a)
  mul a _ := .ok (.foreign a)
  rem a _ := .ok (.foreign a)
  mulMod a _ _ := .ok (.foreign a)
  squareMod a _ := .ok (.foreign a)
  invMod a _ := .ok (.foreign a)
  abs a := .foreign a
  listing _ := "Foreign"

theorem keepsName_constant : KeepsName Constant where
  setBytes _ _ := rfl
  add h := by cases h; rfl
  sub h := by cases h; rfl
  mul h := by cases h; rfl
  rem h := by cases h; rfl
  mulMod h := by cases h; rfl
  squareMod h := by cases h; rfl

end Number

end CryptoSuite
