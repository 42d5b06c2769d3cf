import CryptoSuite.Proofs.Registry.Blocks

/-!
# Histories of calls, and loads that fail

A registry is loaded into, searched, listed and unloaded. `run` is the registry after a history
of such calls, `answer` what a call answers, and `Alike` says that neither calls nor accessors
tell two registries apart.

A load looks for the unit, then for its entry point, and adds entries while it asks for one
implementation after the other. It can fail at each of these steps (`LoadFault`), after any
number of entries. Main statement : a load that meets a fault fails, and whatever the error, no
later history of calls shows that it was tried (`failed_load_invisible`).
-/

namespace CryptoSuite

namespace Registry

variable {F σ : Type}

/-! ## Histories -/

/-- A call on a registry. -/
inductive Call where
  /-- Load a unit. -/
  | load (name : String) (searchPath : Option String)
  /-- Look for an algorithm by its name. -/
  | lookupByName (name : String) (start : Nat) (stop : Option Nat)
  /-- Look for an algorithm of a family. -/
  | lookupByKind (kind : AlgorithmKind) (start : Nat) (stop : Option Nat)
  /-- List all entries. -/
  | ids
  /-- Forget every unit. -/
  | unload
  deriving DecidableEq

/-- The registry after a call. -/
def perform (registry : Registry F σ) : Call → Registry F σ
  | .load name searchPath => (registry.load name searchPath).2
  | .lookupByName .. => registry
  | .lookupByKind .. => registry
  | .ids => registry
  | .unload => registry.unload

/-- The registry after a history of calls. -/
def run (registry : Registry F σ) (calls : List Call) : Registry F σ :=
  calls.foldl perform registry

/-- The ids a call hands out, or the error it fails with. -/
def answer (registry : Registry F σ) : Call → Except Error (List EntryId)
  | .load name searchPath => do return [← (registry.load name searchPath).1]
  | .lookupByName name start stop => do return [← registry.table.lookupByName name start stop]
  | .lookupByKind kind start stop => do return [← registry.table.lookupByKind kind start stop]
  | .ids => .ok registry.table.ids
  | .unload => .ok []

theorem run_append (registry : Registry F σ) (calls more : List Call) :
    registry.run (calls ++ more) = (registry.run calls).run more :=
  List.foldl_append

theorem run_cons (registry : Registry F σ) (call : Call) (calls : List Call) :
    registry.run (call :: calls) = (registry.perform call).run calls := rfl

/-- Every history leads to a reachable registry. -/
theorem Reachable.run {registry : Registry F σ} (h : Reachable registry) (calls : List Call) :
    Reachable (registry.run calls) := by
  induction calls generalizing registry with
  | nil => exact h
  | cons call calls ih =>
    refine ih ?_
    cases call with
    | load name searchPath => exact h.load name searchPath
    | lookupByName name start stop => exact h
    | lookupByKind kind start stop => exact h
    | ids => exact h
    | unload => exact h.unload

/-- Two registries that answer every call and every question about an entry in the same way. -/
structure Alike (r s : Registry F σ) : Prop where
  answer : ∀ call, r.answer call = s.answer call
  size : r.table.size = s.table.size
  capability : ∀ id, r.table.capability id = s.table.capability id
  implementationCount : ∀ id, r.table.implementationCount id = s.table.implementationCount id
  kind : ∀ id, r.table.kind id = s.table.kind id
  algorithmName : ∀ id, r.table.algorithmName id = s.table.algorithmName id
  unitName : ∀ id, r.table.unitName id = s.table.unitName id
  selfTest : ∀ id, r.selfTest id = s.selfTest id
  listing : r.listing = s.listing

theorem Alike.refl (registry : Registry F σ) : Alike registry registry := by
  constructor <;> intros <;> rfl

/-! ## What a load can fail at -/

/-- What makes the plugin of a unit fail to load. -/
inductive Plugin.Fault (plugin : Plugin F σ) : Prop
  | count {e : Error} (h : plugin.implementationCount = .error e)
  | empty (h : plugin.implementationCount = .ok 0)
  | kind {count index : Nat} {e : Error} (hcount : plugin.implementationCount = .ok count)
      (hindex : index < count) (h : plugin.kind index = .error e)
  | algorithmName {count index : Nat} {e : Error}
      (hcount : plugin.implementationCount = .ok count) (hindex : index < count)
      (h : plugin.algorithmName index = .error e)
  | capability {count index : Nat} {e : Error}
      (hcount : plugin.implementationCount = .ok count) (hindex : index < count)
      (h : plugin.capability index = .error e)
  | mislabelled {count index : Nat} {kind : AlgorithmKind} {capability : Capability F σ}
      (hcount : plugin.implementationCount = .ok count) (hindex : index < count)
      (hkind : plugin.kind index = .ok kind) (h : plugin.capability index = .ok capability)
      (hne : capability.kind ≠ kind)

/-- What makes a load fail. -/
inductive LoadFault (catalog : Catalog F σ) (name : String) (searchPath : Option String) : Prop
  | unresolved (h : resolve catalog name searchPath = none)
  | noEntryPoint {path : String} {object : Object F σ}
      (h : resolve catalog name searchPath = some (path, object)) (hnone : object.entryPoint = none)
  | unit {path : String} {object : Object F σ} {plugin : Plugin F σ}
      (h : resolve catalog name searchPath = some (path, object))
      (hsome : object.entryPoint = some plugin) (hfault : plugin.Fault)

theorem IsBlock.exists_records {plugin : Plugin F σ} {unitIndex count index : Nat}
    {unitName : String} {block : List (Entry F σ)} (h : IsBlock plugin unitIndex unitName block)
    (hcount : plugin.implementationCount = .ok count) (hindex : index < count) :
    ∃ entry : Entry F σ, entry.Records plugin unitIndex unitName count index := by
  obtain rfl : block.length = count := Except.ok.inj (h.count.symm.trans hcount)
  exact ⟨block[index], h.records index _ (List.getElem?_eq_getElem hindex)⟩

/-- A unit with a fault has no block. -/
theorem IsBlock.not_fault {plugin : Plugin F σ} {unitIndex : Nat} {unitName : String}
    {block : List (Entry F σ)} (h : IsBlock plugin unitIndex unitName block) : ¬plugin.Fault := by
  intro hfault
  cases hfault with
  | count he => cases h.count.symm.trans he
  | empty hzero =>
    have hlength : block.length = 0 := Except.ok.inj (h.count.symm.trans hzero)
    exact h.ne_nil (List.length_eq_zero_iff.mp hlength)
  | kind hcount hindex he =>
    obtain ⟨entry, hentry⟩ := h.exists_records hcount hindex
    cases hentry.kind.symm.trans he
  | algorithmName hcount hindex he =>
    obtain ⟨entry, hentry⟩ := h.exists_records hcount hindex
    cases hentry.algorithm.symm.trans he
  | capability hcount hindex he =>
    obtain ⟨entry, hentry⟩ := h.exists_records hcount hindex
    cases hentry.capability.symm.trans he
  | mislabelled hcount hindex hkind hcapability hne =>
    obtain ⟨entry, hentry⟩ := h.exists_records hcount hindex
    obtain rfl := Except.ok.inj (hentry.kind.symm.trans hkind)
    obtain rfl := Except.ok.inj (hentry.capability.symm.trans hcapability)
    exact hne hentry.kind_capability.symm

/-- What an entry point was found for has no fault before the unit is asked. -/
theorem LoadFault.fault_of_entryPoint {catalog : Catalog F σ} {name : String}
    {searchPath : Option String} {plugin : Plugin F σ} (h : LoadFault catalog name searchPath)
    (hplugin : entryPoint catalog name searchPath = .ok plugin) : plugin.Fault := by
  cases h with
  | unresolved h => simp [entryPoint, h] at hplugin
  | noEntryPoint h hnone => simp [entryPoint, h, hnone] at hplugin
  | unit h hsome hfault =>
    simp only [entryPoint, h, hsome, Except.ok.injEq] at hplugin
    exact hplugin ▸ hfault

/-- A load that meets a fault fails, in whatever state the registry is. A load that fails, with
whatever error, leaves the entries, the units and the generation as they were, and after every
further history of calls the registry answers as if the load had never been tried. -/
theorem failed_load_invisible (registry : Registry F σ) (name : String)
    (searchPath : Option String) :
    (LoadFault registry.catalog name searchPath →
      ∃ e, (registry.load name searchPath).1 = .error e) ∧
    ∀ e after, registry.load name searchPath = (.error e, after) →
      after.table.entries = registry.table.entries ∧ after.units = registry.units ∧
      after.table.generation = registry.table.generation ∧
      ∀ calls : List Call, (after.run calls).Alike (registry.run calls) := by
  rcases registry.load_cases name searchPath with ⟨e, h⟩ | ⟨plugin, block, hplugin, hblock, h⟩
  · refine ⟨fun _ => ⟨e, by rw [h]⟩, fun e' after h' => ?_⟩
    obtain rfl : registry = after := congrArg Prod.snd (h.symm.trans h')
    exact ⟨rfl, rfl, rfl, fun calls => .refl _⟩
  · refine ⟨fun hfault => ?_, fun e' after h' => ?_⟩
    · exact absurd (hfault.fault_of_entryPoint hplugin) hblock.not_fault
    · cases congrArg Prod.fst (h.symm.trans h')

/-- With SHA-2 loaded after an unload, a unit that fails at its second implementation is refused,
and HMAC then gets the id it would have had. -/
theorem failed_load_invisible_half_named :
    ∃ registry after : Registry Empty Sha2.State, ∃ e, Reachable registry ∧
      registry.table.size = 2 ∧ registry.table.generation = 1 ∧
      LoadFault registry.catalog "half" none ∧
      registry.load "half" none = (.error e, after) ∧
      after.answer (.load "hmac" none) = .ok [⟨1, 2⟩] ∧
      registry.answer (.load "hmac" none) = .ok [⟨1, 2⟩] := by
  have hfault : LoadFault halfNamedCatalog "half" none :=
    .unit rfl rfl (.algorithmName rfl (show 1 < 2 by decide) rfl)
  have hreachable := (Reachable.new halfNamedCatalog).run
    [.load "prime" none, .unload, .load "sha2" none]
  obtain ⟨hfails, hinvisible⟩ := failed_load_invisible (((new halfNamedCatalog).run
    [.load "prime" none, .unload, .load "sha2" none])) "half" none
  obtain ⟨e, he⟩ := hfails hfault
  obtain ⟨-, -, -, halike⟩ := hinvisible e _ (Prod.ext he rfl)
  exact ⟨_, _, e, hreachable, rfl, rfl, hfault, Prod.ext he rfl,
    ((halike []).answer _).trans rfl, rfl⟩

end Registry

end CryptoSuite
