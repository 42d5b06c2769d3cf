import CryptoSuite.Registry.Shipped

/-!
# What a mount table opens

A path that is looked up loses every `./` in front, and one that is mounted does not. A table
grown by mounts therefore opens at a path what was mounted last at the path without them
(`find?_run`). If the path does not start with `./` this is what was mounted last at the path
itself, and mounts at other paths do not matter. If it does, it is what was mounted last at
another path, and no path ever opens what was mounted there. Main statement :
`opens_last_mounted_iff`.
-/

namespace CryptoSuite

namespace Registry

/-! ## Paths in the current directory -/

/-- The path starts with `./`. -/
def FromCurrent (path : List Char) : Prop := ['.', '/'] <+: path

theorem not_fromCurrent_stripCurrent (path : List Char) : ¬FromCurrent (stripCurrent path) := by
  fun_induction stripCurrent path with
  | case1 rest ih => exact ih
  | case2 path hother =>
    rintro ⟨rest, rfl⟩
    exact hother rest rfl

theorem stripCurrent_eq_self_iff {path : List Char} :
    stripCurrent path = path ↔ ¬FromCurrent path := by
  constructor
  · intro h
    exact h ▸ not_fromCurrent_stripCurrent path
  · intro h
    unfold stripCurrent
    split
    · next rest => exact absurd ⟨rest, rfl⟩ h
    · rfl

/-- The path that a lookup of a path goes to. -/
def withoutCurrent (path : String) : String :=
  String.ofList (stripCurrent path.toList)

theorem withoutCurrent_eq_self_iff {path : String} :
    withoutCurrent path = path ↔ ¬FromCurrent path.toList := by
  rw [← stripCurrent_eq_self_iff, withoutCurrent, ← String.toList_inj, String.toList_ofList]

/-- No lookup goes to a path that starts with `./`. -/
theorem withoutCurrent_ne {path : String} (h : FromCurrent path.toList) (other : String) :
    withoutCurrent other ≠ path := by
  rintro rfl
  rw [withoutCurrent, String.toList_ofList] at h
  exact not_fromCurrent_stripCurrent _ h

namespace MountTable

variable {F σ : Type}

/-! ## Histories of mounts -/

/-- A mount into a table. -/
inductive Mounting (F σ : Type) where
  /-- Mount an object. -/
  | object (path : String) (object : Object F σ)
  /-- Mount a unit. -/
  | plugin (path : String) (plugin : Plugin F σ)

namespace Mounting

/-- Where it mounts. -/
def path : Mounting F σ → String
  | .object path _ => path
  | .plugin path _ => path

/-- What it mounts. -/
def mounted : Mounting F σ → Object F σ
  | .object _ mounted => mounted
  | .plugin _ entryPoint => ⟨some entryPoint⟩

end Mounting

/-- The table after a mount. -/
def perform (table : MountTable F σ) : Mounting F σ → MountTable F σ
  | .object path object => table.mount path object
  | .plugin path plugin => table.mountPlugin path plugin

/-- The table after a history of mounts. -/
def run (table : MountTable F σ) (mountings : List (Mounting F σ)) : MountTable F σ :=
  mountings.foldl perform table

/-- The object that was mounted last at a path. -/
def lastMounted (path : String) (mountings : List (Mounting F σ)) : Option (Object F σ) :=
  (mountings.filter fun mounting => mounting.path == path).getLast?.map Mounting.mounted

variable {path : String} {mountings : List (Mounting F σ)}

theorem run_concat (table : MountTable F σ) (mountings : List (Mounting F σ))
    (mounting : Mounting F σ) :
    table.run (mountings ++ [mounting]) = (table.run mountings).perform mounting :=
  List.foldl_append

theorem lastMounted_cons (path : String) (mounting : Mounting F σ)
    (mountings : List (Mounting F σ)) :
    lastMounted path (mounting :: mountings) = (lastMounted path mountings).or
      (if mounting.path = path then some mounting.mounted else none) := by
  unfold lastMounted
  by_cases h : mounting.path = path
  · rw [List.filter_cons_of_pos (by simpa using h), List.getLast?_cons, if_pos h]
    cases (mountings.filter fun mounting => mounting.path == path).getLast? <;> rfl
  · rw [List.filter_cons_of_neg (by simpa using h), if_neg h, Option.or_none]

theorem exists_lastMounted (h : ∃ mounting ∈ mountings, mounting.path = path) :
    ∃ object, lastMounted path mountings = some object := by
  obtain ⟨mounting, hmem, hpath⟩ := h
  have hne : (mountings.filter fun mounting => mounting.path == path) ≠ [] :=
    List.ne_nil_of_mem (List.mem_filter.mpr ⟨hmem, by simpa using hpath⟩)
  exact ⟨_, congrArg (Option.map Mounting.mounted) (List.getLast?_eq_some_getLast hne)⟩

theorem mounted?_perform (table : MountTable F σ) (mounting : Mounting F σ) (path : String) :
    (table.perform mounting).mounted? path =
      if mounting.path = path then some mounting.mounted else table.mounted? path := by
  cases mounting <;> exact mounted?_mount ..

/-- A history leaves at a path what it mounted there last, or what was there before. -/
theorem mounted?_run (table : MountTable F σ) (mountings : List (Mounting F σ)) (path : String) :
    (table.run mountings).mounted? path =
      (lastMounted path mountings).or (table.mounted? path) := by
  induction mountings generalizing table with
  | nil => rfl
  | cons mounting mountings ih =>
    rw [run, List.foldl_cons, ← run, ih, mounted?_perform, lastMounted_cons, Option.or_assoc]
    split <;> rfl

theorem find?_run (mountings : List (Mounting F σ)) (path : String) :
    (empty.run mountings).find? path = lastMounted (withoutCurrent path) mountings :=
  (mounted?_run empty mountings (withoutCurrent path)).trans Option.or_none

/-! ## What can be opened -/

/-- A mount shows only in lookups that go to its path. -/
theorem find?_concat (mountings : List (Mounting F σ)) (mounting : Mounting F σ) {path : String}
    (h : withoutCurrent path ≠ mounting.path) :
    (empty.run (mountings ++ [mounting])).find? path = (empty.run mountings).find? path := by
  have hmounted := mounted?_perform (empty.run mountings) mounting (withoutCurrent path)
  rw [if_neg (Ne.symm h)] at hmounted
  rw [run_concat]
  exact hmounted

theorem find?_singleton (mounting : Mounting F σ) {path : String}
    (h : withoutCurrent path = mounting.path) :
    (empty.run [mounting]).find? path = some mounting.mounted := by
  rw [find?_run, h, lastMounted_cons, if_pos rfl]
  rfl

/-- A table opens at a path what was mounted last at the path without any `./` in front. Exactly
if the path does not start with `./` this is always the object mounted last at the path itself,
exactly then no mount at another path changes what is opened, and exactly then a mount at the path
can show at all. -/
theorem opens_last_mounted_iff (path : String) :
    (∀ mountings : List (Mounting F σ),
      (empty.run mountings).find? path = lastMounted (withoutCurrent path) mountings) ∧
    ((∀ mountings : List (Mounting F σ), (∃ mounting ∈ mountings, mounting.path = path) →
      ∃ object, lastMounted path mountings = some object ∧
        (empty.run mountings).find? path = some object) ↔ ¬FromCurrent path.toList) ∧
    ((∀ (mountings : List (Mounting F σ)) (mounting : Mounting F σ), mounting.path ≠ path →
      (empty.run (mountings ++ [mounting])).find? path = (empty.run mountings).find? path) ↔
        ¬FromCurrent path.toList) ∧
    ((∃ (mountings : List (Mounting F σ)) (mounting : Mounting F σ) (other : String),
      mounting.path = path ∧
        (empty.run (mountings ++ [mounting])).find? other ≠ (empty.run mountings).find? other) ↔
        ¬FromCurrent path.toList) := by
  have hself : withoutCurrent path = path ↔ ¬FromCurrent path.toList := withoutCurrent_eq_self_iff
  -- An object that can be mounted anywhere.
  let object : Object F σ := ⟨none⟩
  refine ⟨fun mountings => find?_run mountings path, ⟨fun h hcurrent => ?_, fun h => ?_⟩,
    ⟨fun h hcurrent => ?_, fun h => ?_⟩, ⟨?_, fun h => ?_⟩⟩
  · obtain ⟨opened, -, hopened⟩ :=
      h [.object path object] ⟨_, List.mem_singleton_self _, rfl⟩
    have hnone := find?_concat [] (.object path object) (withoutCurrent_ne hcurrent path)
    cases hopened.symm.trans hnone
  · intro mountings hmounted
    obtain ⟨opened, hopened⟩ := exists_lastMounted hmounted
    exact ⟨opened, hopened, by rw [find?_run, hself.mpr h, hopened]⟩
  · have hchanged := h [] (.object (withoutCurrent path) object) (withoutCurrent_ne hcurrent path)
    rw [List.nil_append, find?_singleton _ rfl] at hchanged
    cases hchanged
  · intro mountings mounting hne
    exact find?_concat mountings mounting (by rwa [hself.mpr h, ne_comm])
  · rintro ⟨mountings, mounting, other, rfl, hchanged⟩ hcurrent
    exact hchanged (find?_concat mountings mounting (withoutCurrent_ne hcurrent other))
  · refine ⟨[], .object path object, path, rfl, ?_⟩
    rw [List.nil_append, find?_singleton _ (hself.mpr h)]
    exact nofun

/-- The unit of integers, mounted at `./bignum`, cannot be opened there until it is mounted at
`bignum` as well. -/
theorem mounted_in_current_not_opened :
    let mountings : List (Mounting Empty Sha2.State) :=
      [.plugin "./bignum" Shipped.bignum.toPlugin]
    let more := mountings ++ [.plugin "bignum" Shipped.bignum.toPlugin]
    lastMounted "./bignum" mountings = some ⟨some Shipped.bignum.toPlugin⟩ ∧
      (empty.run mountings).find? "./bignum" = none ∧
      (empty.run more).find? "./bignum" = some ⟨some Shipped.bignum.toPlugin⟩ :=
  ⟨rfl, rfl, rfl⟩

end MountTable

end Registry

end CryptoSuite
