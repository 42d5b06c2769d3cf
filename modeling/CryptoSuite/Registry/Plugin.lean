import CryptoSuite.Registry.EntryTable

/-!
# Plugins

A `Plugin` is the entry point of a loadable unit. It exports implementations addressed by
position, each with a family, a name and its operations, any of which it may fail to tell. Unless
a plugin has ways of its own, an implementation is found by a scan of the names, in order, and
has no self-test.

A `Bundle` is a unit that exports a fixed list of capabilities, in order, with one self-test for
all of them.
-/

namespace CryptoSuite

namespace Registry

/-- The error for a name that no implementation of a unit has. -/
def unknownImplementation (name : String) : Error :=
  .notFound "unit implementation" name

/-- The error for a missing self-test. -/
def noSelfTest : Error := .notImplemented "self-test"

/-- Position of the first of `remaining` implementations from `index` on that is called `name`. -/
def findImplementation (algorithmName : Nat → Except Error String) (name : String) :
    (remaining index : Nat) → Except Error Nat
  | 0, _ => .error (unknownImplementation name)
  | remaining + 1, index => do
    if (← algorithmName index) = name then return index
    else findImplementation algorithmName name remaining (index + 1)

/-- The entry point of a loadable unit. -/
structure Plugin (F σ : Type) where
  /-- The name the unit gives itself. -/
  name : String
  /-- Number of implementations. -/
  implementationCount : Except Error Nat
  /-- Family of an implementation. -/
  kind : Nat → Except Error AlgorithmKind
  /-- Algorithm name of an implementation. -/
  algorithmName : Nat → Except Error String
  /-- Operations of an implementation. -/
  capability : Nat → Except Error (Capability F σ)
  /-- Position of the implementation with a given name. -/
  lookupName : String → Except Error Nat := fun name => do
    findImplementation algorithmName name (← implementationCount) 0
  /-- Self-test of an implementation, which may look up others in a table. -/
  selfTest : Nat → EntryTable F σ → Except Error Unit := fun _ _ => .error noSelfTest

/-! ## Units of fixed capabilities -/

/-- A unit of fixed capabilities. -/
structure Bundle (F σ : Type) where
  /-- Name of the unit. -/
  name : String
  /-- The capabilities, in order. -/
  implementations : List (Capability F σ)
  /-- The self-test of every implementation, if there is one. -/
  selfTest : Option (Capability F σ → EntryTable F σ → Except Error Unit)

namespace Bundle

variable {F σ : Type}

/-- The error for a position beyond the implementations. -/
def indexOutOfRange (index : Nat) (name : String) : Error :=
  .invalidParameter "unit implementation" s!"index {index} out of range for unit '{name}'"

/-- The capability at a position. -/
def implementation (bundle : Bundle F σ) (index : Nat) : Except Error (Capability F σ) :=
  match bundle.implementations[index]? with
  | some capability => .ok capability
  | none => .error (indexOutOfRange index bundle.name)

/-- Run the self-test of an implementation. -/
def runSelfTest (bundle : Bundle F σ) (index : Nat) (table : EntryTable F σ) :
    Except Error Unit := do
  let capability ← bundle.implementation index
  match bundle.selfTest with
  | some test => test capability table
  | none => .error noSelfTest

/-- The unit as an entry point. -/
def toPlugin (bundle : Bundle F σ) : Plugin F σ where
  name := bundle.name
  implementationCount := .ok bundle.implementations.length
  kind index := do return (← bundle.implementation index).kind
  algorithmName index := do return (← bundle.implementation index).name
  capability := bundle.implementation
  selfTest := bundle.runSelfTest

/-- Text of a unit for listings. -/
def listing (bundle : Bundle F σ) : String :=
  Text.record "BuiltinUnit" [
    ("name", Text.quoted bundle.name),
    ("implementations", Text.sequence (bundle.implementations.map Capability.listing))]

end Bundle

end Registry

end CryptoSuite
