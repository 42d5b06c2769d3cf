import CryptoSuite.Proofs.Registry.EntryIds

/-!
# The names of a unit

A unit finds an implementation by a scan of its own names, and could fail at any of them; the
registry finds an entry by a scan of the names it was told when it loaded the unit, in the range
of the unit's entries. As both scans answer the first hit (`findImplementation_cases`,
`EntryTable.lookup_cases`), they agree as soon as the range holds the names of the unit in order
(`EntryTable.Copies`). A load that succeeds leaves such a range at the end of the table
(`copies_of_load`), and entries added behind it do not touch it (`EntryTable.Extends.copies`).
Main statement : `unit_and_registry_agree_on_names`.
-/

namespace CryptoSuite

namespace Registry

variable {F σ : Type} {registry : Registry F σ} {plugin : Plugin F σ}

/-! ## The scan of a unit -/

/-- The unit has no way of its own to find an implementation. -/
def Plugin.ScansNames (plugin : Plugin F σ) : Prop :=
  ∀ name, plugin.lookupName name = do
    findImplementation plugin.algorithmName name (← plugin.implementationCount) 0

theorem Bundle.scansNames_toPlugin (bundle : Bundle F σ) : bundle.toPlugin.ScansNames :=
  fun _ => rfl

/-- The implementations with a name, among the first `count`. -/
def Plugin.Called (plugin : Plugin F σ) (count : Nat) (name : String) : Set Nat :=
  {index | index < count ∧ plugin.algorithmName index = .ok name}

/-- Over names that can all be told, the scan answers the first one sought, or that there is
none. -/
theorem findImplementation_cases {algorithmName : Nat → Except Error String} (name : String)
    (remaining index : Nat)
    (htold : ∀ i, index ≤ i → i < index + remaining → ∃ told, algorithmName i = .ok told) :
    (∃ found, findImplementation algorithmName name remaining index = .ok found ∧
      IsLeast {i | index ≤ i ∧ i < index + remaining ∧ algorithmName i = .ok name} found) ∨
    findImplementation algorithmName name remaining index =
        .error (unknownImplementation name) ∧
      ∀ i, index ≤ i → i < index + remaining → algorithmName i ≠ .ok name := by
  induction remaining generalizing index with
  | zero => exact .inr ⟨rfl, fun i hle hlt => absurd hle (Nat.not_le_of_lt hlt)⟩
  | succ remaining ih =>
    obtain ⟨told, hfirst⟩ := htold index (Nat.le_refl _) (by omega)
    have hstep : findImplementation algorithmName name (remaining + 1) index =
        if told = name then .ok index
        else findImplementation algorithmName name remaining (index + 1) := by
      rw [findImplementation, hfirst]
      rfl
    rw [hstep]
    by_cases h : told = name
    · rw [if_pos h]
      refine .inl ⟨index, rfl, ⟨Nat.le_refl _, by omega, h ▸ hfirst⟩, fun i hi => hi.1⟩
    · -- The first position is no hit, so the hits are those from the next one on.
      have hne : algorithmName index ≠ .ok name := by
        rw [hfirst]
        exact fun heq => h (Except.ok.inj heq)
      have hnext {i : Nat} (hle : index ≤ i) (hi : algorithmName i = .ok name) :
          index + 1 ≤ i := by
        refine Nat.lt_of_le_of_ne hle ?_
        rintro rfl
        exact hne hi
      rw [if_neg h]
      rcases ih (index + 1) (fun i hle hlt => htold i (by omega) (by omega)) with
        ⟨found, hfound, ⟨hle, hlt, hname⟩, hleast⟩ | ⟨hfound, hnone⟩
      · refine .inl ⟨found, hfound, ⟨by omega, by omega, hname⟩, ?_⟩
        rintro i ⟨hle, hlt, hi⟩
        exact hleast ⟨hnext hle hi, by omega, hi⟩
      · refine .inr ⟨hfound, fun i hle hlt hi => ?_⟩
        exact hnone i (hnext hle hi) (by omega) hi

/-- A unit whose names can all be told answers its first implementation with a name. -/
theorem Plugin.ScansNames.lookupName_cases (h : plugin.ScansNames) {count : Nat}
    (hcount : plugin.implementationCount = .ok count)
    (htold : ∀ i < count, ∃ told, plugin.algorithmName i = .ok told) (name : String) :
    (∃ found, plugin.lookupName name = .ok found ∧ IsLeast (plugin.Called count name) found) ∨
    plugin.lookupName name = .error (unknownImplementation name) ∧
      ∀ i, i ∉ plugin.Called count name := by
  have hscan : plugin.lookupName name =
      findImplementation plugin.algorithmName name count 0 := by
    rw [h, hcount]
    rfl
  rw [hscan]
  have hcases := findImplementation_cases name count 0 fun i _ hlt => htold i (by omega)
  simpa [Plugin.Called, IsLeast] using hcases

/-! ## The names in the table -/

namespace EntryTable

variable {table later : EntryTable F σ} {start count : Nat} {sought : String}

/-- From a position on, the entries are called as a unit calls its first `count`
implementations. -/
def Copies (table : EntryTable F σ) (start : Nat) (plugin : Plugin F σ) (count : Nat) : Prop :=
  ∀ i < count, ∃ entry, table.entries[start + i]? = some entry ∧
    plugin.algorithmName i = .ok entry.algorithm

theorem Extends.copies (h : table.Extends later) (hcopies : table.Copies start plugin count) :
    later.Copies start plugin count := by
  intro i hi
  obtain ⟨entry, hentry, hname⟩ := hcopies i hi
  exact ⟨entry, (entry_eq_ok_iff.mp (h.entry_eq (entry_idAt hentry))).2, hname⟩

theorem Copies.exists_name (h : table.Copies start plugin count) :
    ∀ i < count, ∃ told, plugin.algorithmName i = .ok told := by
  intro i hi
  obtain ⟨entry, -, hname⟩ := h i hi
  exact ⟨entry.algorithm, hname⟩

/-- The hits in the range are the implementations with the name. -/
theorem Copies.hit_iff (h : table.Copies start plugin count) {index : Nat} :
    table.Hit (fun entry => entry.algorithm == sought) start (some (start + count)) index ↔
      ∃ i ∈ plugin.Called count sought, start + i = index := by
  constructor
  · intro hhit
    obtain ⟨i, rfl⟩ := Nat.exists_eq_add_of_le hhit.start_le
    have hi : i < count := Nat.lt_of_add_lt_add_left (hhit.lt_stop _ rfl)
    obtain ⟨entry, hentry, hname⟩ := h i hi
    obtain ⟨found, hfound, hsought⟩ := hhit.has
    obtain rfl : entry = found := Option.some.inj (hentry.symm.trans hfound)
    exact ⟨i, ⟨hi, by rw [hname, eq_of_beq hsought]⟩, rfl⟩
  · rintro ⟨i, ⟨hi, hsought⟩, rfl⟩
    obtain ⟨entry, hentry, hname⟩ := h i hi
    obtain rfl : entry.algorithm = sought := Except.ok.inj (hname.symm.trans hsought)
    refine ⟨Nat.le_add_right _ _, ?_, entry, hentry, beq_self_eq_true _⟩
    rintro _ ⟨⟩
    exact Nat.add_lt_add_left hi _

/-- A lookup in the range answers the first implementation with the name. -/
theorem Copies.lookupByName_eq_ok (h : table.Copies start plugin count) {i : Nat}
    (hleast : IsLeast (plugin.Called count sought) i) :
    table.lookupByName sought start (some (start + count)) = .ok (table.idAt (start + i)) := by
  refine lookup_eq_ok_iff.mpr ⟨rfl, h.hit_iff.mpr ⟨i, hleast.1, rfl⟩, fun index hhit => ?_⟩
  obtain ⟨j, hj, rfl⟩ := h.hit_iff.mp hhit
  exact Nat.add_le_add_left (hleast.2 hj) start

theorem Copies.lookupByName_eq_notFound (h : table.Copies start plugin count)
    (hnone : ∀ i, i ∉ plugin.Called count sought) :
    table.lookupByName sought start (some (start + count)) =
      .error (.notFound lookupContext sought) := by
  refine lookup_eq_notFound_iff.mpr ⟨?_, fun index hhit => ?_⟩
  · rintro _ ⟨⟩
    exact Nat.le_add_right _ _
  · obtain ⟨i, hi, -⟩ := h.hit_iff.mp hhit
    exact hnone i hi

end EntryTable

/-- A load that succeeds leaves the names of the unit, in order, where its entries begin. -/
theorem copies_of_load {name : String} {searchPath : Option String} {first : EntryId}
    {count : Nat} (hplugin : entryPoint registry.catalog name searchPath = .ok plugin)
    (hload : (registry.load name searchPath).1 = .ok first)
    (hcount : plugin.implementationCount = .ok count) :
    first.generation = (registry.load name searchPath).2.table.generation ∧
      (registry.load name searchPath).2.table.Copies first.index plugin count := by
  rcases registry.load_cases name searchPath with
    ⟨e, h⟩ | ⟨found, block, hfound, hblock, h⟩
  · rw [h] at hload
    cases hload
  · obtain rfl : found = plugin := Except.ok.inj (hfound.symm.trans hplugin)
    obtain rfl : block.length = count := Except.ok.inj (hblock.count.symm.trans hcount)
    rw [h] at hload ⊢
    cases hload
    refine ⟨rfl, fun i hi => ⟨block[i], ?_, ?_⟩⟩
    · simp [extend, EntryTable.append, EntryTable.idAt, EntryTable.size, hi]
    · exact (hblock.records i _ (List.getElem?_eq_getElem hi)).algorithm

/-- After a load that succeeds, and any further calls but an unload, a unit that scans its names
finds an implementation exactly if the registry finds the entry of it in the range of the unit's
entries, and this is the first one with the name. For any other name both fail with `notFound`. -/
theorem unit_and_registry_agree_on_names (registry : Registry F σ) {name : String}
    {searchPath : Option String} {plugin : Plugin F σ} {first : EntryId} {count : Nat}
    {calls : List Call} (hplugin : entryPoint registry.catalog name searchPath = .ok plugin)
    (hscans : plugin.ScansNames) (hload : (registry.load name searchPath).1 = .ok first)
    (hcount : plugin.implementationCount = .ok count) (hcalls : Call.unload ∉ calls)
    (sought : String) :
    let table := ((registry.load name searchPath).2.run calls).table
    let found := table.lookupByName sought first.index (some (first.index + count))
    (∀ i, plugin.lookupName sought = .ok i ↔
      found = .ok ⟨first.generation, first.index + i⟩) ∧
    (∀ i, plugin.lookupName sought = .ok i ↔ IsLeast (plugin.Called count sought) i) ∧
    ((∀ i, plugin.lookupName sought ≠ .ok i) →
      plugin.lookupName sought = .error (unknownImplementation sought) ∧
        found = .error (.notFound EntryTable.lookupContext sought)) := by
  intro table found
  obtain ⟨hgeneration, hfirst⟩ := copies_of_load hplugin hload hcount
  have hextends : (registry.load name searchPath).2.table.Extends table := extends_run hcalls
  have hcopies := hextends.copies hfirst
  rw [← hextends.generation_eq] at hgeneration
  rcases hscans.lookupName_cases hcount hcopies.exists_name sought with
    ⟨least, hlookup, hleast⟩ | ⟨hlookup, hnone⟩
  · have hfound : found = .ok ⟨first.generation, first.index + least⟩ := by
      rw [hgeneration]
      exact hcopies.lookupByName_eq_ok hleast
    rw [hlookup, hfound]
    refine ⟨fun i => by simp, fun i => ?_, fun h => absurd rfl (h least)⟩
    rw [Except.ok.injEq]
    refine ⟨?_, hleast.unique⟩
    rintro rfl
    exact hleast
  · have hfound : found = .error (.notFound EntryTable.lookupContext sought) :=
      hcopies.lookupByName_eq_notFound hnone
    rw [hlookup, hfound]
    exact ⟨fun i => iff_of_false nofun nofun,
      fun i => iff_of_false nofun fun hleast => hnone i hleast.1, fun _ => ⟨rfl, rfl⟩⟩

/-- HMAC, and SHA-256 twice. -/
def doubled : Bundle Empty Sha2.State where
  name := "doubled"
  implementations := [.mac .hmac, .hash Sha2.sha256, .hash Sha2.sha256]
  selfTest := none

/-- The shipped units, a unit that fails half way, and one that has a name twice. -/
def doubledTable : MountTable Empty Sha2.State :=
  (Shipped.mountTable.mountPlugin "half" halfNamed).mountPlugin "doubled" doubled.toPlugin

/-- The unit that has a name twice is loaded behind another implementation of that name, and other
loads follow, one of which is taken back. -/
theorem unit_and_registry_agree_on_names_doubled :
    let registry : Registry Empty Sha2.State := (new doubledTable.find?).run [.load "sha2" none]
    let later := (registry.load "doubled" none).2.run [.load "half" none, .load "sha2" none]
    doubled.toPlugin.lookupName "SHA-256" = .ok 1 ∧
      later.table.lookupByName "SHA-256" 2 (some (2 + 3)) = .ok ⟨0, 2 + 1⟩ ∧
      later.table.lookupByName "SHA-224" 2 (some (2 + 3)) =
        .error (.notFound EntryTable.lookupContext "SHA-224") := by
  intro registry later
  have hagree (sought : String) :=
    unit_and_registry_agree_on_names registry (show _ = Except.ok doubled.toPlugin from rfl)
      doubled.scansNames_toPlugin (show (registry.load "doubled" none).1 = .ok ⟨0, 2⟩ from rfl)
      (show _ = Except.ok 3 from rfl)
      (show Call.unload ∉ [.load "half" none, .load "sha2" none] by decide) sought
  have hfound : doubled.toPlugin.lookupName "SHA-256" = .ok 1 := rfl
  obtain ⟨hsame, -, -⟩ := hagree "SHA-256"
  obtain ⟨-, -, hmissing⟩ := hagree "SHA-224"
  exact ⟨hfound, (hsame 1).mp hfound, (hmissing fun i => nofun).2⟩

end Registry

end CryptoSuite
