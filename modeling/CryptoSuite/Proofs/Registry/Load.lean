import CryptoSuite.Registry.Basic

/-!
# What a load adds

A load asks a plugin for one implementation after the other and adds an entry for each, until all
are there or one of them fails. `Entry.Records` says that an entry holds what a plugin reports of
an implementation : these are the entries that are made (`askImplementation_eq_ok_iff`). Entries
are only ever added at the end of the table, wherever the asking stops (`registerFrom_cases`), so
what a failed load takes back is what it added. `IsBlock` says that a list of entries holds a
whole unit. Main statement : a load fails and leaves the registry as it was, or it adds one unit
with its block (`load_cases`).
-/

namespace CryptoSuite

namespace Registry

variable {F σ : Type}

/-! ## Tables that grow -/

namespace EntryTable

/-- The table with further entries at its end. -/
def append (table : EntryTable F σ) (entries : List (Entry F σ)) : EntryTable F σ :=
  { table with entries := table.entries ++ entries }

@[simp]
theorem append_nil (table : EntryTable F σ) : table.append [] = table := by
  rw [append, List.append_nil]

theorem append_push (table : EntryTable F σ) (entry : Entry F σ) (entries : List (Entry F σ)) :
    (table.push entry).append entries = table.append (entry :: entries) := by
  simp [append, push]

@[simp]
theorem truncate_append (table : EntryTable F σ) (entries : List (Entry F σ)) :
    (table.append entries).truncate table.size = table := by
  simp [append, truncate, size]

end EntryTable

/-- The registry with a further unit and its entries. -/
def extend (registry : Registry F σ) (plugin : Plugin F σ) (entries : List (Entry F σ)) :
    Registry F σ :=
  { registry with units := registry.units ++ [plugin], table := registry.table.append entries }

/-! ## One implementation -/

/-- The entry holds what a plugin, at a position among the units and under a name, reports of one
of its `count` implementations, and the operations are of the family it declares. -/
structure Entry.Records (entry : Entry F σ) (plugin : Plugin F σ) (unitIndex : Nat)
    (unitName : String) (count index : Nat) : Prop where
  unit : entry.unit = unitIndex
  unitName : entry.unitName = unitName
  implementation : entry.implementation = index
  siblings : entry.siblings = count
  kind : plugin.kind index = .ok entry.kind
  algorithm : plugin.algorithmName index = .ok entry.algorithm
  capability : plugin.capability index = .ok entry.capability
  kind_capability : entry.kind = entry.capability.kind
  tableSize_capability : entry.tableSize = entry.capability.tableSize

theorem mapError_bind_eq_ok_iff {ε ε' α β : Type} {x : Except ε α} {f : ε → ε'}
    {g : α → Except ε' β} {b : β} :
    x.mapError f >>= g = .ok b ↔ ∃ a, x = .ok a ∧ g a = .ok b := by
  cases x with
  | error e => exact ⟨nofun, fun ⟨_, h, _⟩ => nomatch h⟩
  | ok a =>
    refine ⟨fun h => ⟨a, rfl, h⟩, ?_⟩
    rintro ⟨_, hx, h⟩
    cases hx
    exact h

theorem askImplementation_eq_ok_iff {plugin : Plugin F σ} {unitIndex : Nat} {unitName : String}
    {count index : Nat} {entry : Entry F σ} :
    askImplementation plugin unitIndex unitName count index = .ok entry ↔
      entry.Records plugin unitIndex unitName count index := by
  simp only [askImplementation, mapError_bind_eq_ok_iff]
  constructor
  · rintro ⟨kind, hkind, algorithm, halgorithm, capability, hcapability, h⟩
    by_cases hagree : capability.kind = kind
    · rw [if_neg (not_not_intro hagree)] at h
      cases h
      exact ⟨rfl, rfl, rfl, rfl, hkind, halgorithm, hcapability, hagree.symm, rfl⟩
    · rw [if_pos hagree] at h
      cases h
  · rintro ⟨rfl, rfl, rfl, rfl, hkind, halgorithm, hcapability, hagree, hsize⟩
    refine ⟨_, hkind, _, halgorithm, _, hcapability, ?_⟩
    rw [if_neg (not_not_intro hagree.symm), ← hsize]
    rfl

/-! ## All implementations -/

/-- Wherever it stops, the asking has only added entries at the end. If it comes to the end of
the implementations, these are the entries of all of them, in order. -/
theorem registerFrom_cases (plugin : Plugin F σ) (unitIndex : Nat) (unitName : String)
    (count remaining index : Nat) (table : EntryTable F σ) :
    (∃ added, registerFrom plugin unitIndex unitName count remaining index table
        = (.ok (), table.append added) ∧ added.length = remaining ∧
      ∀ (i : Nat) (entry : Entry F σ), added[i]? = some entry →
        entry.Records plugin unitIndex unitName count (index + i)) ∨
    ∃ e added, registerFrom plugin unitIndex unitName count remaining index table
      = (.error e, table.append added) := by
  induction remaining generalizing index table with
  | zero => exact .inl ⟨[], by rw [registerFrom, EntryTable.append_nil], rfl, by simp⟩
  | succ remaining ih =>
    rw [registerFrom]
    cases hentry : askImplementation plugin unitIndex unitName count index with
    | error e => exact .inr ⟨e, [], by rw [EntryTable.append_nil]⟩
    | ok entry =>
      rcases ih (index + 1) (table.push entry) with ⟨added, h, hlength, hadded⟩ | ⟨e, added, h⟩
      · rw [EntryTable.append_push] at h
        refine .inl ⟨entry :: added, h, by simp [hlength], ?_⟩
        rintro (_ | i) entry' hi
        · obtain rfl : entry = entry' := by simpa using hi
          exact askImplementation_eq_ok_iff.mp hentry
        · have := hadded i entry' (by simpa using hi)
          rwa [Nat.add_assoc, Nat.add_comm 1] at this
      · rw [EntryTable.append_push] at h
        exact .inr ⟨e, entry :: added, h⟩

/-- The entries of all implementations of a unit, in order. -/
structure IsBlock (plugin : Plugin F σ) (unitIndex : Nat) (unitName : String)
    (block : List (Entry F σ)) : Prop where
  ne_nil : block ≠ []
  count : plugin.implementationCount = .ok block.length
  records : ∀ (i : Nat) (entry : Entry F σ), block[i]? = some entry →
    entry.Records plugin unitIndex unitName block.length i

theorem registerUnit_cases (plugin : Plugin F σ) (unitIndex : Nat) (unitName : String)
    (table : EntryTable F σ) :
    (∃ block, registerUnit plugin unitIndex unitName table = (.ok (), table.append block) ∧
      IsBlock plugin unitIndex unitName block) ∨
    ∃ e added, registerUnit plugin unitIndex unitName table = (.error e, table.append added) := by
  unfold registerUnit
  cases hcount : plugin.implementationCount with
  | error e => exact .inr ⟨_, [], by rw [EntryTable.append_nil]⟩
  | ok count =>
    by_cases hzero : count = 0
    · exact .inr ⟨noImplementations unitName, [], by simp [hzero]⟩
    simp only [if_neg hzero]
    rcases registerFrom_cases plugin unitIndex unitName count count 0 table with
      ⟨block, h, rfl, hblock⟩ | ⟨e, added, h⟩
    · refine .inl ⟨block, h, fun hnil => hzero (by rw [hnil]; rfl), hcount, fun i entry hi => ?_⟩
      simpa using hblock i entry hi
    · exact .inr ⟨e, added, h⟩

/-! ## A whole load -/

/-- A load fails and leaves the registry as it was, or it finds an entry point and adds its unit
with the block of it. -/
theorem load_cases (registry : Registry F σ) (name : String) (searchPath : Option String) :
    (∃ e, registry.load name searchPath = (.error e, registry)) ∨
    ∃ plugin block, entryPoint registry.catalog name searchPath = .ok plugin ∧
      IsBlock plugin registry.units.length name block ∧
      registry.load name searchPath
        = (.ok (registry.table.idAt registry.table.size), registry.extend plugin block) := by
  unfold load
  cases hplugin : entryPoint registry.catalog name searchPath with
  | error e => exact .inl ⟨e, rfl⟩
  | ok plugin =>
    rcases registerUnit_cases plugin registry.units.length name registry.table with
      ⟨block, h, hblock⟩ | ⟨e, added, h⟩
    · refine .inr ⟨plugin, block, rfl, hblock, ?_⟩
      simp only [h]
      rfl
    · refine .inl ⟨e, ?_⟩
      simp [h]

end Registry

end CryptoSuite
