import CryptoSuite.Capability
import CryptoSuite.Text.Listing

/-!
# Tables of loaded implementations

An `EntryTable` lists the implementations that were loaded, in load order. An `EntryId` denotes
an entry by its position, within the generation of the table it was issued in; ids of an earlier
generation are stale. A lookup answers the first entry with a property in a range of positions.
-/

namespace CryptoSuite

namespace Registry

/-- A loaded implementation. -/
structure Entry (F σ : Type) where
  /-- Position of the unit it came from. -/
  unit : Nat
  /-- Name the unit was loaded under. -/
  unitName : String
  /-- Name of the algorithm. -/
  algorithm : String
  /-- Position among the unit's implementations. -/
  implementation : Nat
  /-- Family of the algorithm. -/
  kind : AlgorithmKind
  /-- The operations. -/
  capability : Capability F σ
  /-- Size of the implementation's own data. -/
  tableSize : Nat
  /-- Number of implementations of the unit. -/
  siblings : Nat

/-- What denotes an entry of a table. -/
structure EntryId where
  /-- Generation of the table the id was issued in. -/
  generation : UInt64
  /-- Position in load order. -/
  index : Nat
  deriving DecidableEq

/-- The loaded implementations, in load order. -/
structure EntryTable (F σ : Type) where
  /-- The entries. -/
  entries : List (Entry F σ)
  /-- How often the table was cleared. -/
  generation : UInt64

/-- Text of an entry for listings. -/
def Entry.listing {F σ : Type} (entry : Entry F σ) : String :=
  Text.record "Entry" [
    ("unit", toString entry.unit),
    ("unit_name", Text.quoted entry.unitName),
    ("algorithm", Text.quoted entry.algorithm),
    ("implementation", toString entry.implementation),
    ("kind", entry.kind.title),
    ("capability", entry.capability.listing),
    ("table_size", toString entry.tableSize),
    ("siblings", toString entry.siblings)]

namespace EntryTable

variable {F σ : Type}

/-- The table without entries. -/
def empty : EntryTable F σ := ⟨[], 0⟩

/-- The number of entries. -/
def size (table : EntryTable F σ) : Nat :=
  table.entries.length

/-- The id of a position. -/
def idAt (table : EntryTable F σ) (index : Nat) : EntryId :=
  ⟨table.generation, index⟩

/-- The ids of all entries, in load order. -/
def ids (table : EntryTable F σ) : List EntryId :=
  (List.range table.size).map table.idAt

/-- The table with a further entry at its end. -/
def push (table : EntryTable F σ) (entry : Entry F σ) : EntryTable F σ :=
  { table with entries := table.entries ++ [entry] }

/-- The table without the entries from `size` on. -/
def truncate (table : EntryTable F σ) (size : Nat) : EntryTable F σ :=
  { table with entries := table.entries.take size }

/-- The table without entries and of the next generation. -/
def clear (table : EntryTable F σ) : EntryTable F σ :=
  ⟨[], table.generation + 1⟩

/-! ## Entries by id -/

/-- The error for an id of another generation. -/
def staleId : Error := .invalidParameter "registry entry" "entry id is stale"

/-- The error for an id beyond the table. -/
def idOutOfRange : Error := .invalidParameter "registry entry" "entry id is out of range"

/-- The entry an id denotes. -/
def entry (table : EntryTable F σ) (id : EntryId) : Except Error (Entry F σ) :=
  if id.generation ≠ table.generation then .error staleId
  else match table.entries[id.index]? with
    | some entry => .ok entry
    | none => .error idOutOfRange

theorem entry_eq_ok_iff {table : EntryTable F σ} {id : EntryId} {entry : Entry F σ} :
    table.entry id = .ok entry ↔
      id.generation = table.generation ∧ table.entries[id.index]? = some entry := by
  unfold EntryTable.entry
  by_cases h : id.generation = table.generation
  · cases hentry : table.entries[id.index]? <;> simp [h]
  · simp [h]

/-- The operations of an entry, with the size of its own data. -/
def capability (table : EntryTable F σ) (id : EntryId) :
    Except Error (Capability F σ × Nat) := do
  let entry ← table.entry id
  return (entry.capability, entry.tableSize)

/-- The number of implementations of the unit an entry came from. -/
def implementationCount (table : EntryTable F σ) (id : EntryId) : Except Error Nat := do
  return (← table.entry id).siblings

/-- The family of an entry. -/
def kind (table : EntryTable F σ) (id : EntryId) : Except Error AlgorithmKind := do
  return (← table.entry id).kind

/-- The algorithm name of an entry. -/
def algorithmName (table : EntryTable F σ) (id : EntryId) : Except Error String := do
  return (← table.entry id).algorithm

/-- The name of the unit an entry was loaded from. -/
def unitName (table : EntryTable F σ) (id : EntryId) : Except Error String := do
  return (← table.entry id).unitName

/-! ## Lookups -/

/-- The context of errors of lookups. -/
def lookupContext : String := "registry lookup"

/-- The error for a range that ends before it starts. -/
def invertedRange (start stop : Nat) : Error :=
  .invalidParameter lookupContext s!"end {stop} is before start {start}"

/-- The position of the first entry with a property from `start` on, and below `stop` if that is
given. -/
def find? (table : EntryTable F σ) (property : Entry F σ → Bool) (start : Nat)
    (stop : Option Nat) : Option Nat :=
  let entries := match stop with
    | some stop => table.entries.take stop
    | none => table.entries
  ((entries.drop start).findIdx? property).map (start + ·)

/-- The id of the first entry with a property in a range; `sought` says what is looked for. -/
def lookup (table : EntryTable F σ) (property : Entry F σ → Bool) (sought : String)
    (start : Nat) (stop : Option Nat) : Except Error EntryId :=
  if stop.any (· < start) then .error (invertedRange start (stop.getD 0))
  else match table.find? property start stop with
    | some index => .ok (table.idAt index)
    | none => .error (.notFound lookupContext sought)

/-- The id of the first entry in a range whose algorithm is called `name`. -/
def lookupByName (table : EntryTable F σ) (name : String) (start : Nat) (stop : Option Nat) :
    Except Error EntryId :=
  table.lookup (fun entry => entry.algorithm == name) name start stop

/-- The id of the first entry in a range of a given family. -/
def lookupByKind (table : EntryTable F σ) (kind : AlgorithmKind) (start : Nat)
    (stop : Option Nat) : Except Error EntryId :=
  table.lookup (fun entry => entry.kind == kind) kind.text start stop

end EntryTable

end Registry

end CryptoSuite
