import CryptoSuite.Registry.Basic
import Mathlib.Data.List.Sort
import Mathlib.Order.Bounds.Basic

/-!
# Lookups

A position is a hit of a lookup if it is in the range and its entry has the property (`Hit`), and
a lookup finds the least hit (`find?_eq_some_iff`).

A lookup can be made position by position : the range is cut off at the end of the table, and its
positions are visited in turn, up to the first hit. `lookup?` does so, and answers nothing if a
position is outside the table. It always answers what the lookup answers (`lookup?_eq`).

A lookup is resumed behind the id it answered, until it answers an error (`Resumed`). One step
takes the first of the hits that are left (`lookup_cases`), so that the ids of all hits are
answered, each once and in load order (`resumed_iff`). Main statement : all of this holds of the
lookups by name and by family (`lookups_scan`).
-/

namespace CryptoSuite

namespace Registry

variable {F σ : Type}

namespace EntryTable

variable {table : EntryTable F σ} {property : Entry F σ → Bool} {sought : String}
  {start index : Nat} {stop : Option Nat} {id : EntryId} {entry : Entry F σ}

/-! ## Hits -/

/-- The entry at a position has a property, and the position is in a range. -/
structure Hit (table : EntryTable F σ) (property : Entry F σ → Bool) (start : Nat)
    (stop : Option Nat) (index : Nat) : Prop where
  start_le : start ≤ index
  lt_stop : ∀ bound ∈ stop, index < bound
  has : ∃ entry ∈ table.entries[index]?, property entry = true

instance : DecidablePred (table.Hit property start stop) := fun index =>
  decidable_of_iff (start ≤ index ∧ (∀ bound ∈ stop, index < bound) ∧
      ∃ entry ∈ table.entries[index]?, property entry = true)
    ⟨fun ⟨hstart, hstop, hhas⟩ => ⟨hstart, hstop, hhas⟩,
      fun ⟨hstart, hstop, hhas⟩ => ⟨hstart, hstop, hhas⟩⟩

/-- Behind the least hit are the other hits. -/
theorem hit_iff_of_isLeast {least : Nat}
    (h : IsLeast {index | table.Hit property start stop index} least) :
    table.Hit property start stop index ↔
      index = least ∨ table.Hit property (least + 1) stop index := by
  constructor
  · intro hhit
    rcases Nat.eq_or_lt_of_le (h.2 hhit) with heq | hlt
    · exact .inl heq.symm
    · exact .inr ⟨hlt, hhit.lt_stop, hhit.has⟩
  · rintro (rfl | hhit)
    · exact h.1
    · exact ⟨h.1.start_le.trans (Nat.le_of_succ_le hhit.start_le), hhit.lt_stop, hhit.has⟩

/-- A range may leave out its first position if the entry there does not have the property. -/
theorem hit_iff_of_not (hentry : table.entries[start]? = some entry) (h : ¬property entry = true) :
    table.Hit property start stop index ↔ table.Hit property (start + 1) stop index := by
  refine ⟨fun hhit => ⟨Nat.lt_of_le_of_ne hhit.start_le ?_, hhit.lt_stop, hhit.has⟩,
    fun hhit => ⟨Nat.le_of_succ_le hhit.start_le, hhit.lt_stop, hhit.has⟩⟩
  rintro rfl
  obtain ⟨other, hother, hproperty⟩ := hhit.has
  obtain rfl := Option.some.inj (hentry.symm.trans hother)
  exact h hproperty

theorem Hit.lt_size (h : table.Hit property start stop index) : index < table.size := by
  obtain ⟨entry, hentry, -⟩ := h.has
  exact (List.getElem?_eq_some_iff.mp hentry).1

/-- The entries in a range. -/
def window (table : EntryTable F σ) (start : Nat) (stop : Option Nat) : List (Entry F σ) :=
  (stop.elim table.entries (table.entries.take ·)).drop start

theorem mem_getElem?_window {offset : Nat} : entry ∈ (table.window start stop)[offset]? ↔
    entry ∈ table.entries[start + offset]? ∧ ∀ bound ∈ stop, start + offset < bound := by
  cases stop <;> simp [window, List.getElem?_take, and_comm]

theorem hit_add_iff {offset : Nat} : table.Hit property start stop (start + offset) ↔
    ∃ entry ∈ (table.window start stop)[offset]?, property entry = true := by
  simp only [mem_getElem?_window]
  constructor
  · rintro ⟨-, hstop, entry, hentry, hproperty⟩
    exact ⟨entry, ⟨hentry, hstop⟩, hproperty⟩
  · rintro ⟨entry, ⟨hentry, hstop⟩, hproperty⟩
    exact ⟨Nat.le_add_right _ _, hstop, entry, hentry, hproperty⟩

theorem find?_eq_window : table.find? property start stop =
    ((table.window start stop).findIdx? property).map (start + ·) := by
  cases stop <;> rfl

/-- A lookup finds the least hit, or there is none. -/
theorem find?_cases (table : EntryTable F σ) (property : Entry F σ → Bool) (start : Nat)
    (stop : Option Nat) :
    (∃ index, table.find? property start stop = some index ∧
      IsLeast {index | table.Hit property start stop index} index) ∨
    table.find? property start stop = none ∧ ∀ index, ¬table.Hit property start stop index := by
  rw [find?_eq_window]
  cases h : (table.window start stop).findIdx? property with
  | none =>
    refine .inr ⟨rfl, fun index hhit => ?_⟩
    obtain ⟨offset, rfl⟩ := Nat.exists_eq_add_of_le hhit.start_le
    obtain ⟨entry, hentry, hproperty⟩ := hit_add_iff.mp hhit
    have hnone := List.findIdx?_eq_none_iff.mp h entry (List.mem_of_getElem? hentry)
    exact Bool.eq_false_iff.mp hnone hproperty
  | some offset =>
    obtain ⟨hlt, hproperty, hbefore⟩ := List.findIdx?_eq_some_iff_getElem.mp h
    refine .inl ⟨start + offset, rfl,
      hit_add_iff.mpr ⟨_, List.getElem?_eq_getElem hlt, hproperty⟩, fun index hhit => ?_⟩
    obtain ⟨other, rfl⟩ := Nat.exists_eq_add_of_le hhit.start_le
    obtain ⟨entry, hentry, hproperty'⟩ := hit_add_iff.mp hhit
    obtain ⟨_, rfl⟩ := List.getElem?_eq_some_iff.mp hentry
    refine Nat.add_le_add_left (Nat.le_of_not_lt fun hlt' => ?_) start
    exact hbefore other hlt' hproperty'

theorem find?_eq_some_iff : table.find? property start stop = some index ↔
    IsLeast {index | table.Hit property start stop index} index := by
  rcases table.find?_cases property start stop with ⟨least, hfound, hleast⟩ | ⟨hfound, hnone⟩
  · rw [hfound, Option.some_inj]
    exact ⟨fun h => h ▸ hleast, hleast.unique⟩
  · rw [hfound]
    exact ⟨nofun, fun hleast => (hnone index hleast.1).elim⟩

theorem find?_eq_none_iff : table.find? property start stop = none ↔
    ∀ index, ¬table.Hit property start stop index := by
  rcases table.find?_cases property start stop with ⟨least, hfound, hleast⟩ | ⟨hfound, hnone⟩
  · rw [hfound]
    exact ⟨nofun, fun h => (h least hleast.1).elim⟩
  · exact ⟨fun _ => hnone, fun _ => hfound⟩

/-- What a lookup finds depends on the hits only. -/
theorem find?_congr {start' : Nat} {stop' : Option Nat}
    (h : ∀ index, table.Hit property start stop index ↔ table.Hit property start' stop' index) :
    table.find? property start stop = table.find? property start' stop' := by
  refine Option.ext fun index => ?_
  simp only [find?_eq_some_iff, h]

/-! ## What a lookup answers -/

theorem any_lt_iff : stop.any (· < start) = true ↔ ∃ bound ∈ stop, bound < start := by
  simp [Option.any_eq_true]

/-- A lookup refuses a range that ends before it starts. In any other range it answers the least
hit, or that there is none. -/
theorem lookup_cases (table : EntryTable F σ) (property : Entry F σ → Bool) (sought : String)
    (start : Nat) (stop : Option Nat) :
    (∃ bound ∈ stop, bound < start ∧
      table.lookup property sought start stop = .error (invertedRange start bound)) ∨
    (∀ bound ∈ stop, start ≤ bound) ∧
      ((∃ index, table.lookup property sought start stop = .ok (table.idAt index) ∧
        IsLeast {index | table.Hit property start stop index} index) ∨
      table.lookup property sought start stop = .error (.notFound lookupContext sought) ∧
        ∀ index, ¬table.Hit property start stop index) := by
  unfold lookup
  split
  · next hinverted =>
    obtain ⟨bound, rfl, hlt⟩ := any_lt_iff.mp hinverted
    exact .inl ⟨bound, rfl, hlt, rfl⟩
  · next hupright =>
    refine .inr ⟨fun bound hbound => ?_, ?_⟩
    · exact Nat.le_of_not_lt fun hlt => hupright (any_lt_iff.mpr ⟨bound, hbound, hlt⟩)
    · rcases table.find?_cases property start stop with ⟨index, hfound, hleast⟩ | ⟨hfound, hnone⟩
      · rw [hfound]
        exact .inl ⟨index, rfl, hleast⟩
      · rw [hfound]
        exact .inr ⟨rfl, hnone⟩

theorem lookup_eq_ok_iff : table.lookup property sought start stop = .ok id ↔
    id = table.idAt id.index ∧ IsLeast {index | table.Hit property start stop index} id.index := by
  rcases table.lookup_cases property sought start stop with
    ⟨bound, hbound, hlt, h⟩ | ⟨-, ⟨index, h, hleast⟩ | ⟨h, hnone⟩⟩
  · rw [h]
    refine ⟨nofun, fun ⟨_, hleast⟩ => ?_⟩
    have hbelow := hleast.1.lt_stop bound hbound
    have habove := hleast.1.start_le
    omega
  · rw [h, Except.ok.injEq]
    constructor
    · rintro rfl
      exact ⟨rfl, hleast⟩
    · rintro ⟨hid, hleast'⟩
      rw [hid, hleast.unique hleast']
  · rw [h]
    exact ⟨nofun, fun ⟨_, hleast⟩ => (hnone _ hleast.1).elim⟩

theorem lookup_eq_invalidParameter_iff :
    (∃ context message,
      table.lookup property sought start stop = .error (.invalidParameter context message)) ↔
    ∃ bound ∈ stop, bound < start := by
  rcases table.lookup_cases property sought start stop with
    ⟨bound, hbound, hlt, h⟩ | ⟨hupright, ⟨index, h, -⟩ | ⟨h, -⟩⟩
  · rw [h]
    exact iff_of_true ⟨_, _, rfl⟩ ⟨bound, hbound, hlt⟩
  all_goals
    rw [h]
    exact iff_of_false nofun fun ⟨bound, hbound, hlt⟩ =>
      Nat.not_lt_of_le (hupright bound hbound) hlt

theorem lookup_eq_notFound_iff :
    table.lookup property sought start stop = .error (.notFound lookupContext sought) ↔
      (∀ bound ∈ stop, start ≤ bound) ∧ ∀ index, ¬table.Hit property start stop index := by
  rcases table.lookup_cases property sought start stop with
    ⟨bound, hbound, hlt, h⟩ | ⟨hupright, ⟨index, h, hleast⟩ | ⟨h, hnone⟩⟩
  · rw [h]
    exact iff_of_false nofun fun ⟨hupright, _⟩ => Nat.not_lt_of_le (hupright bound hbound) hlt
  · rw [h]
    exact iff_of_false nofun fun ⟨_, hnone⟩ => hnone index hleast.1
  · exact iff_of_true h ⟨hupright, hnone⟩

/-! ## Position by position -/

/-- The first of `remaining` positions from `position` on whose entry has a property. There is no
answer if a position is outside the table before that. -/
def scan? (table : EntryTable F σ) (property : Entry F σ → Bool) :
    (remaining position : Nat) → Option (Option Nat)
  | 0, _ => some none
  | remaining + 1, position => do
    let entry ← table.entries[position]?
    if property entry then return some position
    else scan? table property remaining (position + 1)

/-- Where a range ends in a table, which is at the end of the table at the latest. -/
def cut (table : EntryTable F σ) (stop : Option Nat) : Nat :=
  stop.elim table.size (min · table.size)

/-- A lookup made position by position, in a range that is cut off at the end of the table. -/
def lookup? (table : EntryTable F σ) (property : Entry F σ → Bool) (sought : String)
    (start : Nat) (stop : Option Nat) : Option (Except Error EntryId) :=
  if stop.any (· < start) then some (.error (invertedRange start (stop.getD 0)))
  else
    let first := min start (table.cut stop)
    (table.scan? property (table.cut stop - first) first).map fun
      | some index => .ok (table.idAt index)
      | none => .error (.notFound lookupContext sought)

theorem cut_le_size : table.cut stop ≤ table.size := by
  cases stop with
  | none => exact Nat.le_refl _
  | some bound => exact Nat.min_le_right _ _

theorem lt_cut_iff : index < table.cut stop ↔
    index < table.size ∧ ∀ bound ∈ stop, index < bound := by
  cases stop <;> simp [cut, and_comm]

/-- A range may be cut off at the end of the table. -/
theorem hit_cut_iff :
    table.Hit property (min start (table.cut stop)) (some (table.cut stop)) index ↔
      table.Hit property start stop index := by
  constructor
  · intro hhit
    have hlt := hhit.lt_stop _ rfl
    have hle := hhit.start_le
    exact ⟨by omega, (lt_cut_iff.mp hlt).2, hhit.has⟩
  · intro hhit
    refine ⟨(Nat.min_le_left _ _).trans hhit.start_le, ?_, hhit.has⟩
    rintro _ ⟨⟩
    exact lt_cut_iff.mpr ⟨hhit.lt_size, hhit.lt_stop⟩

/-- Inside the table a scan finds what a lookup finds. -/
theorem scan?_eq {remaining position : Nat} (h : position + remaining ≤ table.size) :
    table.scan? property remaining position =
      some (table.find? property position (some (position + remaining))) := by
  induction remaining generalizing position with
  | zero =>
    refine congrArg some (Eq.symm (find?_eq_none_iff.mpr fun index hhit => ?_))
    exact Nat.not_lt_of_le hhit.start_le (hhit.lt_stop _ rfl)
  | succ remaining ih =>
    have hlt : position < table.entries.length := by
      unfold size at h
      omega
    have hentry := List.getElem?_eq_getElem hlt
    rw [scan?, hentry, Option.bind_eq_bind, Option.bind_some]
    split
    · next hproperty =>
      refine congrArg some (Eq.symm (find?_eq_some_iff.mpr ⟨?_, fun _ hhit => hhit.start_le⟩))
      exact ⟨Nat.le_refl _, by simp, _, hentry, hproperty⟩
    · next hproperty =>
      rw [ih (by omega), Nat.add_right_comm, Nat.add_assoc]
      exact congrArg some (find?_congr fun index => (hit_iff_of_not hentry hproperty).symm)

/-- A lookup visits no position outside the table. -/
theorem lookup?_eq (table : EntryTable F σ) (property : Entry F σ → Bool) (sought : String)
    (start : Nat) (stop : Option Nat) : table.lookup? property sought start stop =
      some (table.lookup property sought start stop) := by
  unfold lookup? lookup
  split
  · rfl
  · dsimp only
    have hlast : min start (table.cut stop) + (table.cut stop - min start (table.cut stop)) =
        table.cut stop := Nat.add_sub_cancel' (Nat.min_le_right _ _)
    rw [scan?_eq (hlast.trans_le cut_le_size), hlast, find?_congr fun _ => hit_cut_iff]
    cases table.find? property start stop <;> rfl

/-! ## Lookups that are resumed -/

/-- Lookups that start behind the id before answer these ids from `start` on, and then an error. -/
inductive Resumed (look : Nat → Except Error EntryId) :
    (start : Nat) → List EntryId → Error → Prop where
  | done {start : Nat} {e : Error} (h : look start = .error e) : Resumed look start [] e
  | next {start : Nat} {id : EntryId} {ids : List EntryId} {e : Error} (h : look start = .ok id)
      (hresumed : Resumed look (id.index + 1) ids e) : Resumed look start (id :: ids) e

/-- The ids of all hits, in load order. -/
def hits (table : EntryTable F σ) (property : Entry F σ → Bool) (start : Nat)
    (stop : Option Nat) : List EntryId :=
  table.ids.filter fun id => table.Hit property start stop id.index

theorem hits_eq_nil (h : ∀ index, ¬table.Hit property start stop index) :
    table.hits property start stop = [] := by
  simp [hits, h]

theorem mem_hits_iff : id ∈ table.hits property start stop ↔
    id = table.idAt id.index ∧ table.Hit property start stop id.index := by
  rw [hits, List.mem_filter, decide_eq_true_iff]
  refine and_congr_left fun hhit => ⟨fun hid => ?_, fun hid => ?_⟩
  · obtain ⟨index, -, rfl⟩ := List.mem_map.mp hid
    rfl
  · rw [hid]
    exact List.mem_map_of_mem (List.mem_range.mpr hhit.lt_size)

theorem pairwise_hits (start : Nat) :
    (table.hits property start stop).Pairwise fun a b => a.index < b.index :=
  (List.pairwise_lt_range.map table.idAt fun _ _ hlt => hlt).filter _

theorem hits_eq_cons (h : IsLeast {index | table.Hit property start stop index} index) :
    table.hits property start stop = table.idAt index :: table.hits property (index + 1) stop := by
  have : Std.Irrefl fun a b : EntryId => a.index < b.index := ⟨fun id => Nat.lt_irrefl id.index⟩
  have : Std.Antisymm fun a b : EntryId => a.index < b.index :=
    ⟨fun _ _ hlt hlt' => (Nat.lt_asymm hlt hlt').elim⟩
  refine (pairwise_hits start).eq_of_mem_iff (List.pairwise_cons.mpr ⟨?_, pairwise_hits _⟩) ?_
  · intro id hid
    exact (mem_hits_iff.mp hid).2.start_le
  · intro id
    rw [List.mem_cons, mem_hits_iff, mem_hits_iff, hit_iff_of_isLeast h, and_or_left]
    refine or_congr_left ⟨fun ⟨hid, hindex⟩ => hindex ▸ hid, ?_⟩
    rintro rfl
    exact ⟨rfl, rfl⟩

/-- One step of resumed lookups takes the first of the hits that are left. -/
theorem lookup_step (sought : String) (hupright : ∀ bound ∈ stop, start ≤ bound) :
    (∃ id rest, table.lookup property sought start stop = .ok id ∧
      table.hits property start stop = id :: rest ∧
      table.hits property (id.index + 1) stop = rest ∧ ∀ bound ∈ stop, id.index + 1 ≤ bound) ∨
    table.lookup property sought start stop = .error (.notFound lookupContext sought) ∧
      table.hits property start stop = [] := by
  rcases table.lookup_cases property sought start stop with
    ⟨bound, hbound, hlt, h⟩ | ⟨-, ⟨index, h, hleast⟩ | ⟨h, hnone⟩⟩
  · exact (Nat.not_lt_of_le (hupright bound hbound) hlt).elim
  · exact .inl ⟨_, _, h, hits_eq_cons hleast, rfl, hleast.1.lt_stop⟩
  · exact .inr ⟨h, hits_eq_nil hnone⟩

theorem Resumed.eq_hits {ids : List EntryId} {e : Error}
    (h : Resumed (table.lookup property sought · stop) start ids e)
    (hupright : ∀ bound ∈ stop, start ≤ bound) :
    ids = table.hits property start stop ∧ e = .notFound lookupContext sought := by
  induction h with
  | done herror =>
    rcases lookup_step sought hupright with ⟨id, rest, hlookup, -⟩ | ⟨hlookup, hhits⟩
    · cases herror.symm.trans hlookup
    · exact ⟨hhits.symm, Except.error.inj (herror.symm.trans hlookup)⟩
  | next hok _ ih =>
    rcases lookup_step sought hupright with
      ⟨id, rest, hlookup, hhits, hrest, hbound⟩ | ⟨hlookup, -⟩
    · obtain rfl := Except.ok.inj (hok.symm.trans hlookup)
      obtain ⟨rfl, he⟩ := ih hbound
      rw [hhits, hrest]
      exact ⟨rfl, he⟩
    · cases hok.symm.trans hlookup

theorem resumed_hits (hupright : ∀ bound ∈ stop, start ≤ bound) :
    Resumed (table.lookup property sought · stop) start (table.hits property start stop)
      (.notFound lookupContext sought) := by
  generalize hids : table.hits property start stop = ids
  induction ids generalizing start with
  | nil =>
    rcases lookup_step sought hupright with ⟨id, rest, -, hhits, -⟩ | ⟨hlookup, -⟩
    · cases hids.symm.trans hhits
    · exact .done hlookup
  | cons first rest ih =>
    rcases lookup_step sought hupright with
      ⟨id, rest', hlookup, hhits, hrest, hbound⟩ | ⟨-, hhits⟩
    · obtain ⟨rfl, rfl⟩ := List.cons_eq_cons.mp (hids.symm.trans hhits)
      exact .next hlookup (ih hbound hrest)
    · cases hids.symm.trans hhits

/-- Resumed lookups answer the ids of all hits and then find nothing more. -/
theorem resumed_iff {ids : List EntryId} {e : Error} (hupright : ∀ bound ∈ stop, start ≤ bound) :
    Resumed (table.lookup property sought · stop) start ids e ↔
      ids = table.hits property start stop ∧ e = .notFound lookupContext sought := by
  refine ⟨fun h => h.eq_hits hupright, ?_⟩
  rintro ⟨rfl, rfl⟩
  exact resumed_hits hupright

/-! ## Lookups by name and by family -/

/-- A lookup of entries with a property, made in any range. -/
structure ScansFor (table : EntryTable F σ) (property : Entry F σ → Bool) (sought : String)
    (look : Nat → Option Nat → Except Error EntryId) : Prop where
  /-- It refuses a range exactly if that ends before it starts. -/
  refused_iff : ∀ start stop,
    (∃ context message, look start stop = .error (.invalidParameter context message)) ↔
      ∃ bound ∈ stop, bound < start
  /-- It answers the least hit. -/
  found_iff : ∀ start stop id, look start stop = .ok id ↔
    id = table.idAt id.index ∧ IsLeast {index | table.Hit property start stop index} id.index
  /-- It finds nothing exactly if a range that it does not refuse has no hit. -/
  missing_iff : ∀ start stop, look start stop = .error (.notFound lookupContext sought) ↔
    (∀ bound ∈ stop, start ≤ bound) ∧ ∀ index, ¬table.Hit property start stop index
  /-- It visits no position outside the table. -/
  inside : ∀ start stop, table.lookup? property sought start stop = some (look start stop)
  /-- Resumed from the first entry on, it answers the ids of all entries with the property before
  the end, each once and in load order, and then finds nothing more. -/
  resumed_iff : ∀ stop ids e, Resumed (look · stop) 0 ids e ↔
    ids = table.ids.filter (fun id => table.Hit property 0 stop id.index) ∧
      e = .notFound lookupContext sought

theorem scansFor_lookup (table : EntryTable F σ) (property : Entry F σ → Bool) (sought : String) :
    table.ScansFor property sought (table.lookup property sought) where
  refused_iff _ _ := lookup_eq_invalidParameter_iff
  found_iff _ _ _ := lookup_eq_ok_iff
  missing_iff _ _ := lookup_eq_notFound_iff
  inside := table.lookup?_eq property sought
  resumed_iff _ _ _ := EntryTable.resumed_iff fun _ _ => Nat.zero_le _

end EntryTable

/-- The lookups of a registry, by name and by family, are scans of its entries. -/
theorem lookups_scan (registry : Registry F σ) :
    (∀ name, registry.table.ScansFor (fun entry => entry.algorithm == name) name
      (registry.table.lookupByName name)) ∧
    ∀ kind, registry.table.ScansFor (fun entry => entry.kind == kind) kind.text
      (registry.table.lookupByKind kind) :=
  ⟨fun name => registry.table.scansFor_lookup _ name,
    fun kind => registry.table.scansFor_lookup _ kind.text⟩

end Registry

end CryptoSuite
