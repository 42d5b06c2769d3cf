import CryptoSuite.Number.Integer
import CryptoSuite.Proofs.Registry.Load
import CryptoSuite.Registry.Shipped

/-!
# The blocks of a registry

A registry holds two lists that grow together, its units and its entries, and an entry refers to
its unit by position. `InBlocks` is what ties them : the entries are consecutive blocks, one for
each unit in load order, each of which holds a whole unit (`IsBlock`). A new registry has no
blocks, a load that succeeds adds one, one that fails changes nothing and an unload leaves none,
so that every registry a history of calls leads to is in blocks (`Reachable.inBlocks`). Main
statement : `Reachable.entries_in_blocks`, with the consequence that a self-test finds the unit
of its entry.
-/

namespace CryptoSuite

namespace Registry

variable {F σ : Type} {registry : Registry F σ}

/-- The registries that histories of loads and unloads lead to. -/
inductive Reachable : Registry F σ → Prop
  | new (catalog : Catalog F σ) : Reachable (new catalog)
  | load {registry : Registry F σ} (name : String) (searchPath : Option String) :
    Reachable registry → Reachable (registry.load name searchPath).2
  | unload {registry : Registry F σ} : Reachable registry → Reachable registry.unload

/-- The entries are the blocks, one after the other, and there is one block for each unit. -/
structure InBlocks (registry : Registry F σ) (blocks : List (List (Entry F σ))) : Prop where
  entries_eq : registry.table.entries = blocks.flatten
  length_eq : blocks.length = registry.units.length
  isBlock : ∀ (j : Nat) (plugin : Plugin F σ) (block : List (Entry F σ)),
    registry.units[j]? = some plugin → blocks[j]? = some block →
      ∃ unitName, IsBlock plugin j unitName block

theorem inBlocks_of_units_eq_nil (hunits : registry.units = [])
    (hentries : registry.table.entries = []) : registry.InBlocks [] where
  entries_eq := hentries
  length_eq := congrArg List.length hunits.symm
  isBlock j plugin block := by simp

theorem getElem?_concat_eq_some {α : Type} {l : List α} {a b : α} {j : Nat}
    (h : (l ++ [a])[j]? = some b) : l[j]? = some b ∨ j = l.length ∧ a = b := by
  rcases Nat.lt_trichotomy j l.length with hj | rfl | hj
  · exact .inl (List.getElem?_append_left hj ▸ h)
  · rw [List.getElem?_concat_length] at h
    exact .inr ⟨rfl, Option.some.inj h⟩
  · have hlt := (List.getElem?_eq_some_iff.mp h).1
    rw [List.length_append, List.length_singleton] at hlt
    omega

theorem InBlocks.extend {blocks : List (List (Entry F σ))} (h : registry.InBlocks blocks)
    {plugin : Plugin F σ} {unitName : String} {block : List (Entry F σ)}
    (hblock : IsBlock plugin registry.units.length unitName block) :
    (registry.extend plugin block).InBlocks (blocks ++ [block]) where
  entries_eq := by simp [Registry.extend, EntryTable.append, h.entries_eq]
  length_eq := by simp [Registry.extend, h.length_eq]
  isBlock j plugin' block' hplugin hblock' := by
    rcases getElem?_concat_eq_some hplugin with hplugin | ⟨hj, rfl⟩ <;>
      rcases getElem?_concat_eq_some hblock' with hblock' | ⟨hj', rfl⟩
    · exact h.isBlock j plugin' block' hplugin hblock'
    · have hlt := (List.getElem?_eq_some_iff.mp hplugin).1
      have := h.length_eq
      omega
    · have hlt := (List.getElem?_eq_some_iff.mp hblock').1
      have := h.length_eq
      omega
    · exact ⟨unitName, hj ▸ hblock⟩

theorem Reachable.inBlocks (h : Reachable registry) : ∃ blocks, registry.InBlocks blocks := by
  induction h with
  | new catalog => exact ⟨[], inBlocks_of_units_eq_nil rfl rfl⟩
  | @load registry name searchPath _ ih =>
    obtain ⟨blocks, hblocks⟩ := ih
    rcases registry.load_cases name searchPath with ⟨e, h⟩ | ⟨plugin, block, -, hblock, h⟩
    · exact ⟨blocks, by rwa [h]⟩
    · exact ⟨blocks ++ [block], by rw [h]; exact hblocks.extend hblock⟩
  | unload _ _ => exact ⟨[], inBlocks_of_units_eq_nil rfl rfl⟩

/-- The unit of an entry is loaded, and reports what the entry holds. -/
theorem InBlocks.exists_plugin {blocks : List (List (Entry F σ))} (h : registry.InBlocks blocks)
    {entry : Entry F σ} (hentry : entry ∈ registry.table.entries) :
    ∃ plugin, registry.units[entry.unit]? = some plugin ∧
      entry.Records plugin entry.unit entry.unitName entry.siblings entry.implementation := by
  rw [h.entries_eq, List.mem_flatten] at hentry
  obtain ⟨block, hmem, hentry⟩ := hentry
  obtain ⟨j, hblock⟩ := List.mem_iff_getElem?.mp hmem
  have hj : j < registry.units.length :=
    h.length_eq ▸ (List.getElem?_eq_some_iff.mp hblock).1
  have hplugin := List.getElem?_eq_getElem hj
  obtain ⟨unitName, hunit⟩ := h.isBlock j _ block hplugin hblock
  obtain ⟨i, hi⟩ := List.mem_iff_getElem?.mp hentry
  have hrecords := hunit.records i entry hi
  refine ⟨registry.units[j], by rw [hrecords.unit, hplugin], ?_⟩
  rwa [hrecords.unit, hrecords.unitName, hrecords.siblings, hrecords.implementation]

theorem selfTest_eq_of_entry {id : EntryId} {entry : Entry F σ} {plugin : Plugin F σ}
    (hentry : registry.table.entry id = .ok entry)
    (hplugin : registry.units[entry.unit]? = some plugin) :
    registry.selfTest id = plugin.selfTest entry.implementation registry.table := by
  rw [selfTest, hentry]
  simp only [bind, Except.bind, hplugin]

/-- The entries of every reachable registry are consecutive blocks, one for each of its units in
load order, whatever its catalog and its units are : the entries of a block hold what the unit
reports of each of its implementations, in order. So the unit of an entry is loaded, and a
self-test is that of the unit. -/
theorem Reachable.entries_in_blocks (h : Reachable registry) :
    (∃ blocks, registry.InBlocks blocks) ∧
    ∀ (id : EntryId) (entry : Entry F σ), registry.table.entry id = .ok entry →
      ∃ plugin, registry.units[entry.unit]? = some plugin ∧
        registry.selfTest id = plugin.selfTest entry.implementation registry.table := by
  obtain ⟨blocks, hblocks⟩ := h.inBlocks
  refine ⟨⟨blocks, hblocks⟩, fun id entry hentry => ?_⟩
  have hmem := List.mem_of_getElem? (EntryTable.entry_eq_ok_iff.mp hentry).2
  obtain ⟨plugin, hplugin, -⟩ := hblocks.exists_plugin hmem
  exact ⟨plugin, hplugin, selfTest_eq_of_entry hentry hplugin⟩

/-- SHA-224, and a second implementation that tells no name. -/
def halfNamed : Plugin Empty Sha2.State :=
  { Shipped.sha2.toPlugin with
    algorithmName := fun index => if index = 0 then .ok "SHA-224" else .error noSelfTest }

/-- The shipped units after those of a unit that fails half way. -/
def halfNamedCatalog : Catalog Empty Sha2.State := fun path =>
  if path = "half" then some ⟨some halfNamed⟩ else
    (Shipped.mountTable : MountTable Empty Sha2.State).find? path

/-- Two units in three entries, with a load between them that was taken back, all after an
unload. -/
theorem entries_in_blocks_half_named :
    ∃ registry : Registry Empty Sha2.State, Reachable registry ∧ registry.units.length = 2 ∧
      registry.table.size = 3 ∧ registry.table.generation = 1 ∧
      (∃ blocks, registry.InBlocks blocks) := by
  have hreachable := ((((Reachable.new halfNamedCatalog).load "prime" none).unload.load "sha2"
    none).load "half" none).load "hmac" none
  exact ⟨_, hreachable, rfl, rfl, rfl, hreachable.entries_in_blocks.1⟩

end Registry

end CryptoSuite
