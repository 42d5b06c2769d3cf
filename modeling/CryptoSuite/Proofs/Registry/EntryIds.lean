import CryptoSuite.Proofs.Registry.History
import CryptoSuite.Proofs.Registry.Lookups

/-!
# The life of an entry id

Units and entries are only added between two unloads (`Grows`, `grows_run`), so an id that denotes
an entry goes on to denote it (`EntryTable.Extends.entry_eq`). An unload moves the generation on by
one and nothing else does, so that the generation tells how often the registry was unloaded
(`generation_run`), and an id of an earlier generation is stale for good.

Whatever call hands out an id, it is that of an entry the registry then holds (`entry_of_answer`):
the entries of a load that was taken back are never named. Main statement : every id that is
handed out in a history of calls denotes one entry until the next unload, and after it every
accessor refuses the id (`id_denotes_until_unload`).
-/

namespace CryptoSuite

namespace Registry

variable {F σ : Type} {registry : Registry F σ}

/-! ## Tables between two unloads -/

namespace EntryTable

variable {table later : EntryTable F σ} {id : EntryId} {entry : Entry F σ}

/-- A later table of the same generation : there may be further entries at its end. -/
def Extends (table later : EntryTable F σ) : Prop :=
  ∃ entries, later = table.append entries

theorem Extends.refl (table : EntryTable F σ) : table.Extends table :=
  ⟨[], (append_nil table).symm⟩

theorem Extends.trans {last : EntryTable F σ} (h : table.Extends later) (h' : later.Extends last) :
    table.Extends last := by
  obtain ⟨entries, rfl⟩ := h
  obtain ⟨entries', rfl⟩ := h'
  exact ⟨entries ++ entries', by simp [append]⟩

theorem Extends.generation_eq (h : table.Extends later) : later.generation = table.generation := by
  obtain ⟨entries, rfl⟩ := h
  rfl

/-- An id goes on to denote its entry. -/
theorem Extends.entry_eq (h : table.Extends later) (hentry : table.entry id = .ok entry) :
    later.entry id = .ok entry := by
  obtain ⟨entries, rfl⟩ := h
  obtain ⟨hgeneration, hindex⟩ := entry_eq_ok_iff.mp hentry
  have hlt := (List.getElem?_eq_some_iff.mp hindex).1
  exact entry_eq_ok_iff.mpr ⟨hgeneration, (List.getElem?_append_left hlt).trans hindex⟩

theorem entry_idAt {index : Nat} (h : table.entries[index]? = some entry) :
    table.entry (table.idAt index) = .ok entry :=
  entry_eq_ok_iff.mpr ⟨rfl, h⟩

theorem entry_of_generation_ne (h : id.generation ≠ table.generation) :
    table.entry id = .error staleId :=
  if_pos h

theorem getElem?_ids {index : Nat} (h : table.entries[index]? = some entry) :
    table.ids[index]? = some (table.idAt index) := by
  have hlt := (List.getElem?_eq_some_iff.mp h).1
  simp [ids, size, hlt]

/-- The id of an entry stands at the position of the entry. -/
theorem getElem?_ids_of_entry (h : table.entry id = .ok entry) :
    table.ids[id.index]? = some id := by
  obtain ⟨hgeneration, hindex⟩ := entry_eq_ok_iff.mp h
  rw [getElem?_ids hindex, idAt, ← hgeneration]

/-- Different entries have different ids. -/
theorem nodup_ids (table : EntryTable F σ) : table.ids.Nodup :=
  List.Pairwise.map table.idAt (fun _ _ hne h => hne (EntryId.mk.inj h).2) List.nodup_range

theorem exists_entry_of_mem_ids (h : id ∈ table.ids) : ∃ entry, table.entry id = .ok entry := by
  obtain ⟨index, hindex, rfl⟩ := List.mem_map.mp h
  exact ⟨_, entry_idAt (List.getElem?_eq_getElem (List.mem_range.mp hindex))⟩

/-- A lookup answers the id of an entry with the property. -/
theorem exists_entry_of_lookup {property : Entry F σ → Bool} {sought : String} {start : Nat}
    {stop : Option Nat} (h : table.lookup property sought start stop = .ok id) :
    ∃ entry, table.entry id = .ok entry ∧ property entry = true := by
  obtain ⟨hid, hleast⟩ := lookup_eq_ok_iff.mp h
  obtain ⟨entry, hentry, hproperty⟩ := hleast.1.has
  rw [hid]
  exact ⟨entry, entry_idAt hentry, hproperty⟩

end EntryTable

/-! ## Histories without an unload -/

/-- A later registry of the same generation : there may be further units and further entries, at
the ends. -/
structure Grows (registry later : Registry F σ) : Prop where
  units : registry.units <+: later.units
  table : registry.table.Extends later.table

theorem Grows.refl (registry : Registry F σ) : registry.Grows registry :=
  ⟨List.prefix_rfl, .refl _⟩

theorem Grows.trans {later last : Registry F σ} (h : registry.Grows later)
    (h' : later.Grows last) : registry.Grows last :=
  ⟨h.units.trans h'.units, h.table.trans h'.table⟩

/-- A unit keeps its position. -/
theorem Grows.units_eq {later : Registry F σ} (h : registry.Grows later) {index : Nat}
    {plugin : Plugin F σ} (hplugin : registry.units[index]? = some plugin) :
    later.units[index]? = some plugin := by
  obtain ⟨units, hunits⟩ := h.units
  rw [← hunits, List.getElem?_append_left (List.getElem?_eq_some_iff.mp hplugin).1, hplugin]

theorem grows_load (registry : Registry F σ) (name : String) (searchPath : Option String) :
    registry.Grows (registry.load name searchPath).2 := by
  rcases registry.load_cases name searchPath with ⟨e, h⟩ | ⟨plugin, block, -, -, h⟩
  · rw [h]
    exact .refl _
  · rw [h]
    exact ⟨List.prefix_append _ _, block, rfl⟩

theorem grows_perform {call : Call} (h : call ≠ .unload) :
    registry.Grows (registry.perform call) := by
  cases call with
  | load name searchPath => exact grows_load registry name searchPath
  | lookupByName name start stop => exact .refl _
  | lookupByKind kind start stop => exact .refl _
  | ids => exact .refl _
  | unload => exact absurd rfl h

theorem grows_run {calls : List Call} (h : Call.unload ∉ calls) :
    registry.Grows (registry.run calls) := by
  induction calls generalizing registry with
  | nil => exact .refl _
  | cons call calls ih =>
    rw [List.mem_cons, not_or] at h
    exact (grows_perform (Ne.symm h.1)).trans (ih h.2)

theorem extends_run {calls : List Call} (h : Call.unload ∉ calls) :
    registry.table.Extends (registry.run calls).table :=
  (grows_run h).table

/-! ## The generation -/

theorem generation_perform (registry : Registry F σ) (call : Call) :
    (registry.perform call).table.generation =
      registry.table.generation + UInt64.ofNat ([call].count .unload) := by
  by_cases h : call = .unload
  · subst h
    rfl
  · rw [(grows_perform h).table.generation_eq, List.count_singleton, if_neg (by simpa using h)]
    exact (UInt64.add_zero _).symm

/-- The generation counts the unloads. -/
theorem generation_run (registry : Registry F σ) (calls : List Call) :
    (registry.run calls).table.generation =
      registry.table.generation + UInt64.ofNat (calls.count .unload) := by
  induction calls generalizing registry with
  | nil => exact (UInt64.add_zero _).symm
  | cons call calls ih =>
    rw [run_cons, ih, generation_perform, UInt64.add_assoc, ← UInt64.ofNat_add,
      ← List.count_append, List.singleton_append]

/-- As long as the count does not come round, an unload changes the generation for good. -/
theorem generation_run_ne {calls : List Call} (h : Call.unload ∈ calls)
    (hcount : calls.count .unload < UInt64.size) :
    registry.table.generation ≠ (registry.run calls).table.generation := by
  intro heq
  rw [generation_run, UInt64.left_eq_add] at heq
  have hzero := congrArg UInt64.toNat heq
  rw [UInt64.toNat_ofNat_of_lt' hcount] at hzero
  exact Nat.ne_of_gt (List.count_pos_iff.mpr h) hzero

/-! ## What is handed out -/

/-- The accessors tell what the entry holds. -/
structure Tells (registry : Registry F σ) (id : EntryId) (entry : Entry F σ) : Prop where
  capability : registry.table.capability id = .ok (entry.capability, entry.tableSize)
  implementationCount : registry.table.implementationCount id = .ok entry.siblings
  kind : registry.table.kind id = .ok entry.kind
  algorithmName : registry.table.algorithmName id = .ok entry.algorithm
  unitName : registry.table.unitName id = .ok entry.unitName

/-- Every accessor and the self-test refuse the id with the given error. -/
structure Refuses (registry : Registry F σ) (id : EntryId) (e : Error) : Prop where
  capability : registry.table.capability id = .error e
  implementationCount : registry.table.implementationCount id = .error e
  kind : registry.table.kind id = .error e
  algorithmName : registry.table.algorithmName id = .error e
  unitName : registry.table.unitName id = .error e
  selfTest : registry.selfTest id = .error e

theorem tells_of_entry {id : EntryId} {entry : Entry F σ}
    (h : registry.table.entry id = .ok entry) : registry.Tells id entry where
  capability := by rw [EntryTable.capability, h]; rfl
  implementationCount := by rw [EntryTable.implementationCount, h]; rfl
  kind := by rw [EntryTable.kind, h]; rfl
  algorithmName := by rw [EntryTable.algorithmName, h]; rfl
  unitName := by rw [EntryTable.unitName, h]; rfl

theorem refuses_of_entry {id : EntryId} {e : Error} (h : registry.table.entry id = .error e) :
    registry.Refuses id e where
  capability := by rw [EntryTable.capability, h]; rfl
  implementationCount := by rw [EntryTable.implementationCount, h]; rfl
  kind := by rw [EntryTable.kind, h]; rfl
  algorithmName := by rw [EntryTable.algorithmName, h]; rfl
  unitName := by rw [EntryTable.unitName, h]; rfl
  selfTest := by rw [selfTest, h]; rfl

theorem bind_singleton_eq_ok {α : Type} {x : Except Error α} {answered : List α} {a : α}
    (h : (do return [← x]) = Except.ok answered) (ha : a ∈ answered) : x = .ok a := by
  obtain ⟨b, hx, hb⟩ := bind_eq_ok_iff.mp h
  cases hb
  rw [List.mem_singleton.mp ha, hx]

/-- The id a load hands out is that of the first entry it added. -/
theorem entry_of_load {name : String} {searchPath : Option String} {id : EntryId}
    (h : (registry.load name searchPath).1 = .ok id) :
    ∃ entry, (registry.load name searchPath).2.table.entry id = .ok entry := by
  rcases registry.load_cases name searchPath with
    ⟨e, hload⟩ | ⟨plugin, block, -, hblock, hload⟩
  · rw [hload] at h
    cases h
  · rw [hload] at h ⊢
    cases h
    obtain ⟨entry, rest, hcons⟩ := List.exists_cons_of_ne_nil hblock.ne_nil
    refine ⟨entry, EntryTable.entry_eq_ok_iff.mpr ⟨rfl, ?_⟩⟩
    simp [extend, EntryTable.append, EntryTable.idAt, EntryTable.size, hcons]

/-- Every id that is handed out denotes an entry. -/
theorem entry_of_answer {call : Call} {answered : List EntryId} {id : EntryId}
    (h : registry.answer call = .ok answered) (hid : id ∈ answered) :
    ∃ entry, (registry.perform call).table.entry id = .ok entry := by
  cases call with
  | load name searchPath => exact entry_of_load (bind_singleton_eq_ok h hid)
  | lookupByName name start stop =>
    obtain ⟨entry, hentry, -⟩ := EntryTable.exists_entry_of_lookup (bind_singleton_eq_ok h hid)
    exact ⟨entry, hentry⟩
  | lookupByKind kind start stop =>
    obtain ⟨entry, hentry, -⟩ := EntryTable.exists_entry_of_lookup (bind_singleton_eq_ok h hid)
    exact ⟨entry, hentry⟩
  | ids =>
    cases h
    exact EntryTable.exists_entry_of_mem_ids hid
  | unload =>
    cases h
    cases hid

/-- An id that is handed out in a history of calls denotes one entry through all further calls up
to the next unload, and is the only id of that entry. Once there was an unload every accessor
refuses it as stale, whatever is loaded later, as long as the unloads of the history are fewer
than the generations. At all times the entries have as many different ids. -/
theorem id_denotes_until_unload (catalog : Catalog F σ) (before : List Call) (call : Call)
    {answered : List EntryId} {id : EntryId}
    (hanswer : ((new catalog).run before).answer call = .ok answered) (hid : id ∈ answered) :
    (∃ entry, ∀ after, Call.unload ∉ after →
      ((new catalog).run (before ++ call :: after)).Tells id entry ∧
      ((new catalog).run (before ++ call :: after)).table.entries[id.index]? = some entry ∧
      ((new catalog).run (before ++ call :: after)).table.ids[id.index]? = some id) ∧
    (∀ after, Call.unload ∈ after →
      (before ++ call :: after).count .unload < UInt64.size →
      ((new catalog).run (before ++ call :: after)).Refuses id EntryTable.staleId) ∧
    ∀ calls, ((new catalog).run calls).table.ids.Nodup ∧
      ((new catalog).run calls).table.ids.length = ((new catalog).run calls).table.size := by
  obtain ⟨entry, hentry⟩ := entry_of_answer hanswer hid
  have hsplit (after : List Call) : (new catalog).run (before ++ call :: after) =
      (((new catalog).run before).perform call).run after := by
    rw [run_append, run_cons]
  refine ⟨⟨entry, fun after hafter => ?_⟩, fun after hafter hcount => ?_, fun calls => ?_⟩
  · have hlater := (extends_run hafter).entry_eq hentry
    rw [hsplit]
    exact ⟨tells_of_entry hlater, (EntryTable.entry_eq_ok_iff.mp hlater).2,
      EntryTable.getElem?_ids_of_entry hlater⟩
  · -- Of all the unloads only those after the id was handed out take it out of date.
    have hfew : after.count .unload < UInt64.size := by
      rw [List.count_append, List.count_cons] at hcount
      omega
    rw [hsplit]
    refine refuses_of_entry (EntryTable.entry_of_generation_ne ?_)
    rw [(EntryTable.entry_eq_ok_iff.mp hentry).1]
    exact generation_run_ne hafter hfew
  · exact ⟨EntryTable.nodup_ids _, by simp [EntryTable.ids]⟩

/-- SHA-256 is looked up after an unload and a load that was taken back. Its id outlives a further
load, but not a further unload, although the same unit is loaded into the same place again. -/
theorem id_denotes_until_unload_sha256 :
    let history : List Call := [.load "prime" none, .unload, .load "sha2" none, .load "half" none]
    let found : Call := .lookupByName "SHA-256" 0 none
    let registry : Registry Empty Sha2.State := new halfNamedCatalog
    (registry.run history).answer found = .ok [⟨1, 1⟩] ∧
      (∃ entry, (registry.run (history ++ found :: [.load "hmac" none])).Tells ⟨1, 1⟩ entry) ∧
      (registry.run (history ++ found :: [.unload, .load "sha2" none])).Refuses ⟨1, 1⟩
        EntryTable.staleId := by
  intro history found registry
  have hanswer : (registry.run history).answer found = .ok [⟨1, 1⟩] := rfl
  obtain ⟨⟨entry, hlive⟩, hstale, -⟩ :=
    id_denotes_until_unload halfNamedCatalog history found hanswer List.mem_cons_self
  exact ⟨hanswer, ⟨entry, (hlive [.load "hmac" none] (by decide)).1⟩,
    hstale [.unload, .load "sha2" none] (by decide) (by decide)⟩

end Registry

end CryptoSuite
