import CryptoSuite.Proofs.Registry.EntryIds

/-!
# Self-tests in a registry that grows

The self-tests of the curves and of HMAC compute with the first entry of a registry that has a
certain name (`EntryTable.firstCapability`). Entries that are added later stand behind it, so that
they can only change a self-test that found no such entry : its result is settled once it is
decided (`Settles`). This holds of what does not look at the table and is kept by composition, and
so it holds of the self-test of every shipped unit (`Shipped.settles_selfTest`). Main statement :
`Reachable.decided_selfTest_stays`.
-/

namespace CryptoSuite

/-! ## Operations of a family -/

namespace Capability

variable {F σ : Type}

/-- What answers the operations of one family, and refuses those of any other. -/
structure Views {α : Type} (kind : AlgorithmKind) (offers : α → Capability F σ)
    (view : Capability F σ → Except Error α) : Prop where
  of_kind : ∀ {capability}, capability.kind = kind →
    ∃ a, capability = offers a ∧ view capability = .ok a
  of_other : ∀ {capability}, capability.kind ≠ kind →
    view capability = .error (mismatch capability.kind kind)

theorem views_asBignum : Views .bignum (bignum : _ → Capability F σ) asBignum where
  of_kind {capability} hkind := by
    cases capability with
    | bignum factory => exact ⟨factory, rfl, rfl⟩
    | _ => cases hkind
  of_other {capability} hkind := by
    cases capability with
    | bignum factory => exact absurd rfl hkind
    | _ => rfl

theorem views_asHash : Views .hash (hash : _ → Capability F σ) asHash where
  of_kind {capability} hkind := by
    cases capability with
    | hash function => exact ⟨function, rfl, rfl⟩
    | _ => cases hkind
  of_other {capability} hkind := by
    cases capability with
    | hash function => exact absurd rfl hkind
    | _ => rfl

end Capability

namespace Registry

variable {F σ : Type} {registry later : Registry F σ} {table : EntryTable F σ}

/-! ## The first entry with a name -/

namespace EntryTable

/-- The first entry with a name. -/
def firstCalled (table : EntryTable F σ) (name : String) : Option (Entry F σ) :=
  table.entries.find? fun entry => entry.algorithm == name

/-- The operations of the first entry with a name. -/
def firstCapability (table : EntryTable F σ) (name : String) : Except Error (Capability F σ) :=
  match table.firstCalled name with
  | some entry => .ok entry.capability
  | none => .error (.notFound lookupContext name)

theorem find?_zero (table : EntryTable F σ) (property : Entry F σ → Bool) :
    table.find? property 0 none = table.entries.findIdx? property := by
  simp [find?]

/-- A lookup by name in the whole table leads to the first entry with the name. -/
theorem lookupByName_bind_capability {α : Type} (table : EntryTable F σ) (name : String)
    (next : Capability F σ → Except Error α) :
    (do
      let id ← table.lookupByName name 0 none
      let (capability, _) ← table.capability id
      next capability) = table.firstCapability name >>= next := by
  rw [lookupByName, lookup, find?_zero, firstCapability, firstCalled,
    List.find?_eq_bind_findIdx?_getElem?]
  cases hindex : table.entries.findIdx? fun entry => entry.algorithm == name with
  | none => rfl
  | some index =>
    obtain ⟨hlt, -⟩ := List.findIdx?_eq_some_iff_getElem.mp hindex
    have hentry : table.entries[index]? = some table.entries[index] := List.getElem?_eq_getElem hlt
    rw [Option.bind_some, hentry]
    show table.capability (table.idAt index) >>= _ = _
    rw [capability, entry_idAt hentry]
    rfl

/-- Entries that are added later stand behind the first one with a name. -/
theorem Extends.firstCalled_eq {later : EntryTable F σ} (h : table.Extends later) {name : String}
    {first : Entry F σ} (hfirst : table.firstCalled name = some first) :
    later.firstCalled name = some first := by
  obtain ⟨entries, rfl⟩ := h
  rw [firstCalled] at hfirst ⊢
  rw [append, List.find?_append, hfirst, Option.some_or]

/-- The result is that of computing with the first entry with a name, which has to be of a family.
The operations of that family are those that are offered by something to run `test` on. -/
structure RunsOnFirst {α : Type} (table : EntryTable F σ) (name : String) (kind : AlgorithmKind)
    (offers : α → Capability F σ) (test : α → Except Error Unit) (result : Except Error Unit) :
    Prop where
  of_kind : ∀ first ∈ table.firstCalled name, first.kind = kind →
    ∃ a, first.capability = offers a ∧ result = test a
  of_other : ∀ first ∈ table.firstCalled name, first.kind ≠ kind →
    result = .error (Capability.mismatch first.kind kind)
  missing : table.firstCalled name = none → result = .error (.notFound lookupContext name)

theorem runsOnFirst_bind {α : Type} {name : String} {kind : AlgorithmKind}
    {offers : α → Capability F σ} {view : Capability F σ → Except Error α}
    {test : α → Except Error Unit}
    (hkinds : ∀ entry ∈ table.entries, entry.kind = entry.capability.kind)
    (hview : Capability.Views kind offers view) :
    table.RunsOnFirst name kind offers test
      (table.firstCapability name >>= fun first => view first >>= test) where
  of_kind first hfirst hkind := by
    rw [hkinds first (List.mem_of_find?_eq_some hfirst)] at hkind
    obtain ⟨a, hoffers, ha⟩ := hview.of_kind hkind
    refine ⟨a, hoffers, ?_⟩
    simp only [firstCapability, Option.mem_def.mp hfirst]
    show view first.capability >>= test = test a
    rw [ha]
    rfl
  of_other first hfirst hkind := by
    rw [hkinds first (List.mem_of_find?_eq_some hfirst)] at hkind ⊢
    simp only [firstCapability, Option.mem_def.mp hfirst]
    show view first.capability >>= test = _
    rw [hview.of_other hkind]
    rfl
  missing hnone := by
    simp only [firstCapability, hnone]
    rfl

end EntryTable

/-! ## Results that further entries do not change -/

/-- The result is other than `notFound`. -/
def Decided {α : Type} (result : Except Error α) : Prop :=
  ∀ context sought, result ≠ .error (.notFound context sought)

/-- Once it is decided, the result of a question to a table stays the same if entries are added. -/
def Settles {α : Type} (ask : EntryTable F σ → Except Error α) : Prop :=
  ∀ table later, table.Extends later → Decided (ask table) → ask later = ask table

theorem Settles.const {α : Type} (result : Except Error α) :
    Settles fun _ : EntryTable F σ => result :=
  fun _ _ _ _ => rfl

theorem Settles.bind {α β : Type} {ask : EntryTable F σ → Except Error α}
    {next : α → EntryTable F σ → Except Error β} (hask : Settles ask)
    (hnext : ∀ a, Settles (next a)) : Settles fun table => ask table >>= (next · table) := by
  intro table later hextends hdecided
  cases hresult : ask table with
  | error e =>
    have hlater : ask later = .error e := by
      rw [← hresult]
      refine hask table later hextends fun context sought he => hdecided context sought ?_
      simp only [he]
      rfl
    simp only [hresult, hlater]
    rfl
  | ok a =>
    have hlater : ask later = .ok a := by
      rw [← hresult]
      refine hask table later hextends fun context sought he => ?_
      cases hresult.symm.trans he
    simp only [hresult, hlater] at hdecided ⊢
    exact hnext a table later hextends hdecided

theorem settles_firstCapability (name : String) :
    Settles fun table : EntryTable F σ => table.firstCapability name := by
  intro table later hextends hdecided
  show later.firstCapability name = table.firstCapability name
  cases hfirst : table.firstCalled name with
  | none =>
    refine absurd ?_ (hdecided EntryTable.lookupContext name)
    simp only [EntryTable.firstCapability, hfirst]
  | some first =>
    rw [EntryTable.firstCapability, EntryTable.firstCapability, hfirst,
      hextends.firstCalled_eq hfirst]

/-- A self-test that settles gives the same result in every later registry. -/
theorem Grows.selfTest_eq (h : registry.Grows later) {id : EntryId} {entry : Entry F σ}
    {plugin : Plugin F σ} (hentry : registry.table.entry id = .ok entry)
    (hplugin : registry.units[entry.unit]? = some plugin)
    (hsettles : Settles (plugin.selfTest entry.implementation))
    (hdecided : Decided (registry.selfTest id)) : later.selfTest id = registry.selfTest id := by
  rw [selfTest_eq_of_entry hentry hplugin] at hdecided ⊢
  rw [selfTest_eq_of_entry (h.table.entry_eq hentry) (h.units_eq hplugin)]
  exact hsettles _ _ h.table hdecided

/-! ## Entries of bundles -/

namespace Bundle

variable {bundle : Bundle F σ}

theorem settles_selfTest
    (h : ∀ test ∈ bundle.selfTest, ∀ capability, Settles (test capability)) (index : Nat) :
    Settles (bundle.toPlugin.selfTest index) := by
  refine (Settles.const (bundle.implementation index)).bind fun capability => ?_
  cases htest : bundle.selfTest with
  | none => exact .const _
  | some test => exact h test htest capability

theorem mem_of_implementation_eq_ok {index : Nat} {capability : Capability F σ}
    (h : bundle.implementation index = .ok capability) : capability ∈ bundle.implementations := by
  unfold implementation at h
  split at h
  · next found hfound =>
    cases h
    exact List.mem_of_getElem? hfound
  · cases h

end Bundle

variable {blocks : List (List (Entry F σ))}

/-- The entries hold operations of the family they name. -/
theorem InBlocks.kind_capability (h : registry.InBlocks blocks) :
    ∀ entry ∈ registry.table.entries, entry.kind = entry.capability.kind := by
  intro entry hentry
  obtain ⟨_, -, hrecords⟩ := h.exists_plugin hentry
  exact hrecords.kind_capability

theorem InBlocks.capability_eq_ok (h : registry.InBlocks blocks) {id : EntryId}
    {entry : Entry F σ} {plugin : Plugin F σ} (hentry : registry.table.entry id = .ok entry)
    (hplugin : registry.units[entry.unit]? = some plugin) :
    plugin.capability entry.implementation = .ok entry.capability := by
  have hmem := List.mem_of_getElem? (EntryTable.entry_eq_ok_iff.mp hentry).2
  obtain ⟨found, hfound, hrecords⟩ := h.exists_plugin hmem
  obtain rfl : plugin = found := Option.some.inj (hplugin.symm.trans hfound)
  exact hrecords.capability

/-- The self-test of an entry of a bundle with one implementation runs the test on it. -/
theorem InBlocks.selfTest_eq_of_single (h : registry.InBlocks blocks) {id : EntryId}
    {entry : Entry F σ} {bundle : Bundle F σ} {capability : Capability F σ}
    {test : Capability F σ → EntryTable F σ → Except Error Unit}
    (hentry : registry.table.entry id = .ok entry)
    (hbundle : registry.units[entry.unit]? = some bundle.toPlugin)
    (hsingle : bundle.implementations = [capability]) (htest : bundle.selfTest = some test) :
    registry.selfTest id = test capability registry.table := by
  have hcapability : bundle.implementation entry.implementation = .ok entry.capability :=
    h.capability_eq_ok hentry hbundle
  have hmem := Bundle.mem_of_implementation_eq_ok hcapability
  rw [hsingle, List.mem_singleton] at hmem
  rw [selfTest_eq_of_entry hentry hbundle]
  show bundle.runSelfTest entry.implementation registry.table = _
  rw [Bundle.runSelfTest, hcapability, htest, hmem]
  rfl

/-! ## The shipped units -/

namespace Shipped

theorem curveSelfTest_eq (capability : Capability F σ) :
    curveSelfTest capability = fun table =>
      capability.asEcc >>= fun engine =>
        table.firstCapability Number.integerAlgorithm >>= fun first =>
          first.asBignum >>= engine.selfTest := by
  funext table
  refine congrArg (capability.asEcc >>= ·) (funext fun engine => ?_)
  exact table.lookupByName_bind_capability Number.integerAlgorithm
    fun first => first.asBignum >>= engine.selfTest

theorem hmacSelfTest_eq (capability : Capability F σ) :
    hmacSelfTest capability = fun table =>
      capability.asMac >>= fun _ =>
        table.firstCapability "SHA-256" >>= fun first =>
          first.asHash >>= fun function =>
            PrimitiveError.lift (Hmac.selfTest function) "HMAC self-test" := by
  funext table
  refine congrArg (capability.asMac >>= ·) (funext fun algorithm => ?_)
  exact table.lookupByName_bind_capability "SHA-256" fun first =>
    first.asHash >>= fun function =>
      PrimitiveError.lift (Hmac.selfTest function) "HMAC self-test"

theorem settles_curveSelfTest (capability : Capability F σ) :
    Settles (curveSelfTest capability) := by
  rw [curveSelfTest_eq]
  exact (Settles.const _).bind fun engine => (settles_firstCapability _).bind fun first => .const _

theorem settles_hmacSelfTest (capability : Capability F σ) :
    Settles (hmacSelfTest capability) := by
  rw [hmacSelfTest_eq]
  exact (Settles.const _).bind fun _ => (settles_firstCapability _).bind fun first => .const _

/-- The self-tests of the shipped units settle. -/
theorem settles_selfTest [Representation F] {bundle : Bundle F Sha2.State}
    (h : bundle ∈ units) (index : Nat) : Settles (bundle.toPlugin.selfTest index) := by
  refine Bundle.settles_selfTest (fun test htest capability => ?_) index
  simp only [units, List.mem_cons, List.not_mem_nil, or_false] at h
  rcases h with rfl | rfl | rfl | rfl <;> cases htest
  · exact settles_curveSelfTest capability
  · exact .const _
  · exact settles_hmacSelfTest capability

/-! ## What they compute with -/

theorem runsOnFirst_curveSelfTest [Representation F]
    (hkinds : ∀ entry ∈ table.entries, entry.kind = entry.capability.kind) :
    table.RunsOnFirst Number.integerAlgorithm .bignum .bignum CurveEngine.selfTestPrime
      (curveSelfTest (.ecc .prime) table) := by
  rw [curveSelfTest_eq]
  exact EntryTable.runsOnFirst_bind hkinds Capability.views_asBignum

theorem runsOnFirst_hmacSelfTest
    (hkinds : ∀ entry ∈ table.entries, entry.kind = entry.capability.kind) :
    table.RunsOnFirst "SHA-256" .hash .hash
      (fun function => PrimitiveError.lift (Hmac.selfTest function) "HMAC self-test")
      (hmacSelfTest (.mac .hmac) table) := by
  rw [hmacSelfTest_eq]
  exact EntryTable.runsOnFirst_bind hkinds Capability.views_asHash

end Shipped

/-- In a reachable registry, let an entry be of a shipped unit. If its self-test gives a result
other than `notFound`, it gives the same result after all further calls but an unload, whatever
units they load. At all these times the self-test of the curves computes with the first entry
called `Bignum`, and that of HMAC with the first one called `SHA-256`, and they refuse an entry of
another family. -/
theorem Reachable.decided_selfTest_stays [Representation F] {registry : Registry F Sha2.State}
    (h : Reachable registry) {id : EntryId} {entry : Entry F Sha2.State}
    {bundle : Bundle F Sha2.State} (hentry : registry.table.entry id = .ok entry)
    (hbundle : bundle ∈ Shipped.units)
    (hunit : registry.units[entry.unit]? = some bundle.toPlugin) {calls : List Call}
    (hcalls : Call.unload ∉ calls) :
    (Decided (registry.selfTest id) →
      (registry.run calls).selfTest id = registry.selfTest id) ∧
    (bundle = Shipped.prime →
      (registry.run calls).table.RunsOnFirst "Bignum" .bignum .bignum CurveEngine.selfTestPrime
        ((registry.run calls).selfTest id)) ∧
    (bundle = Shipped.hmac →
      (registry.run calls).table.RunsOnFirst "SHA-256" .hash .hash
        (fun function => PrimitiveError.lift (Hmac.selfTest function) "HMAC self-test")
        ((registry.run calls).selfTest id)) := by
  have hgrows : registry.Grows (registry.run calls) := grows_run hcalls
  obtain ⟨blocks, hblocks⟩ := (h.run calls).inBlocks
  have hlater := hgrows.table.entry_eq hentry
  have hplugin := hgrows.units_eq hunit
  refine ⟨hgrows.selfTest_eq hentry hunit (Shipped.settles_selfTest hbundle _), ?_, ?_⟩
  · rintro rfl
    rw [hblocks.selfTest_eq_of_single hlater hplugin rfl rfl]
    exact Shipped.runsOnFirst_curveSelfTest hblocks.kind_capability
  · rintro rfl
    rw [hblocks.selfTest_eq_of_single hlater hplugin rfl rfl]
    exact Shipped.runsOnFirst_hmacSelfTest hblocks.kind_capability

/-- A MAC construction that is called `SHA-256`. -/
def decoy : Bundle Empty Sha2.State where
  name := "decoy"
  implementations := [.mac { MacScheme.hmac with name := "SHA-256" }]
  selfTest := none

/-- The shipped units, and the one with the misleading name. -/
def decoyTable : MountTable Empty Sha2.State :=
  Shipped.mountTable.mountPlugin "decoy" decoy.toPlugin

/-- HMAC is tested on what is called `SHA-256` first, which is no hash function, and SHA-256 itself
comes too late. -/
theorem decided_selfTest_stays_decoy :
    let registry : Registry Empty Sha2.State :=
      (new decoyTable.find?).run [.load "decoy" none, .load "hmac" none]
    registry.selfTest ⟨0, 1⟩ = .error (Capability.mismatch .mac .hash) ∧
      (registry.run [.load "sha2" none]).selfTest ⟨0, 1⟩ =
        .error (Capability.mismatch .mac .hash) := by
  intro registry
  have hreachable : Reachable registry := (Reachable.new decoyTable.find?).run _
  have hmismatch : registry.selfTest ⟨0, 1⟩ = .error (Capability.mismatch .mac .hash) := rfl
  obtain ⟨hstays, -, -⟩ := hreachable.decided_selfTest_stays
    (show registry.table.entry ⟨0, 1⟩ = .ok _ from rfl)
    (show Shipped.hmac ∈ Shipped.units by simp [Shipped.units]) rfl
    (show Call.unload ∉ [.load "sha2" none] by decide)
  refine ⟨hmismatch, (hstays ?_).trans hmismatch⟩
  rw [hmismatch]
  exact fun _ _ => nofun

end Registry

end CryptoSuite
