import CryptoSuite.Proofs.Registry.FirstFault
import CryptoSuite.Proofs.Registry.Mounts

/-!
# Search paths

Colons separate the elements of a search path, so that the elements of two search paths with a
colon between are those of the first and then those of the second (`candidates_append`). A unit is
resolved to the object that the first possible element leads to (`resolve_eq_some_iff`), with or
without an entry point, and a load that finds no object is the only one that fails with `notFound`
(`load_eq_notFound_iff`). A mount table takes every `./` in front off a path, one after the other,
and comes to an end with any path (`strips_iff`). Main statement : search paths compose from left
to right (`search_paths_compose`).
-/

namespace CryptoSuite

namespace Registry

variable {F σ : Type} {registry : Registry F σ} {catalog : Catalog F σ} {name : String}
  {searchPath : Option String} {path : String} {object : Object F σ}

/-! ## Elements -/

theorem pathElements_eq_splitOn (path : List Char) : pathElements path = path.splitOn ':' := by
  unfold List.splitOn
  fun_induction pathElements path with
  | case1 => rfl
  | case2 rest ih =>
    rw [List.splitOnP_cons_eq_if_modifyHead, if_pos (by decide), ih]
  | case3 c rest hcolon h ih =>
    exact absurd (ih.symm.trans h) (List.splitOnP_ne_nil _ _)
  | case4 c rest hcolon first others h ih =>
    rw [List.splitOnP_cons_eq_if_modifyHead, if_neg (by simpa using hcolon), ← ih, h]
    rfl

theorem candidates_eq (name searchPath : String) :
    candidates name (some searchPath) =
      (searchPath.toList.splitOn ':').map fun directory => candidate directory name := by
  rw [candidates, pathElements_eq_splitOn]

theorem candidates_append (name first second : String) :
    candidates name (some (first ++ ":" ++ second)) =
      candidates name (some first) ++ candidates name (some second) := by
  have hsplit : (first ++ ":" ++ second).toList.splitOn ':' =
      first.toList.splitOn ':' ++ second.toList.splitOn ':' := by
    rw [String.toList_append, String.toList_append, List.append_assoc]
    exact List.splitOnP_append_cons _ _ (by decide)
  simp only [candidates_eq, hsplit, List.map_append]

theorem candidates_intercalate (name : String) {parts : List String} (h : parts ≠ []) :
    candidates name (some (":".intercalate parts)) =
      parts.flatMap fun part => candidates name (some part) := by
  induction parts with
  | nil => exact absurd rfl h
  | cons part parts ih =>
    cases parts with
    | nil => rw [String.intercalate_singleton, List.flatMap_singleton]
    | cons next parts =>
      rw [List.flatMap_cons, ← ih (List.cons_ne_nil _ _), String.intercalate_cons_cons,
        candidates_append]

/-! ## What is resolved -/

/-- Some element of the search path leads to an object. -/
def Leads (catalog : Catalog F σ) (name searchPath : String) : Prop :=
  ∃ directory ∈ searchPath.toList.splitOn ':', ∃ object,
    catalog (candidate directory name) = some object

/-- The first element of the search path that leads to an object leads to this path and object. -/
def LeadsFirst (catalog : Catalog F σ) (name searchPath path : String) (object : Object F σ) :
    Prop :=
  ∃ before directory after, searchPath.toList.splitOn ':' = before ++ directory :: after ∧
    path = candidate directory name ∧ catalog path = some object ∧
    ∀ earlier ∈ before, catalog (candidate earlier name) = none

theorem resolve_eq_findSome? (catalog : Catalog F σ) (name searchPath : String) :
    resolve catalog name (some searchPath) =
      (searchPath.toList.splitOn ':').findSome? fun directory =>
        (catalog (candidate directory name)).map fun object =>
          (candidate directory name, object) := by
  rw [resolve, candidates_eq, List.findSome?_map]
  rfl

theorem resolve_eq_none_iff {searchPath : String} :
    resolve catalog name (some searchPath) = none ↔ ¬Leads catalog name searchPath := by
  rw [resolve_eq_findSome?, List.findSome?_eq_none_iff]
  simp [Leads, Option.eq_none_iff_forall_ne_some]

theorem resolve_eq_some_iff {searchPath : String} :
    resolve catalog name (some searchPath) = some (path, object) ↔
      LeadsFirst catalog name searchPath path object := by
  simp only [resolve_eq_findSome?, List.findSome?_eq_some_iff, Option.map_eq_some_iff,
    Option.map_eq_none_iff, Prod.mk.injEq]
  constructor
  · rintro ⟨before, directory, after, hsplit, ⟨_, hobject, rfl, rfl⟩, hbefore⟩
    exact ⟨before, directory, after, hsplit, rfl, hobject, hbefore⟩
  · rintro ⟨before, directory, after, hsplit, rfl, hobject, hbefore⟩
    exact ⟨before, directory, after, hsplit, ⟨object, hobject, rfl, rfl⟩, hbefore⟩

theorem resolve_append (catalog : Catalog F σ) (name first second : String) :
    resolve catalog name (some (first ++ ":" ++ second)) =
      (resolve catalog name (some first)).or (resolve catalog name (some second)) := by
  rw [resolve, candidates_append, List.findSome?_append]
  rfl

theorem resolve_append_of_leads {first : String} (h : Leads catalog name first)
    (second : String) :
    resolve catalog name (some (first ++ ":" ++ second)) = resolve catalog name (some first) := by
  obtain ⟨found, hfound⟩ :=
    Option.ne_none_iff_exists'.mp fun hnone => resolve_eq_none_iff.mp hnone h
  rw [resolve_append, hfound, Option.some_or]

theorem resolve_append_of_not_leads {first : String} (h : ¬Leads catalog name first)
    (second : String) :
    resolve catalog name (some (first ++ ":" ++ second)) =
      resolve catalog name (some second) := by
  rw [resolve_append, resolve_eq_none_iff.mpr h, Option.none_or]

/-- An empty element is the current directory. -/
theorem resolve_empty_element (catalog : Catalog F σ) (name : String)
    (before after : List String) :
    resolve catalog name (some (":".intercalate (before ++ "" :: after))) =
      resolve catalog name (some (":".intercalate (before ++ "." :: after))) := by
  have hsame : candidates name (some "") = candidates name (some ".") := rfl
  simp only [resolve, candidates_intercalate, ne_eq, List.append_eq_nil_iff, reduceCtorEq,
    and_false, not_false_eq_true, List.flatMap_append, List.flatMap_cons, hsame]

/-! ## What a load makes of it -/

theorem load_of_entryPoint_eq_error {e : Error}
    (h : entryPoint registry.catalog name searchPath = .error e) :
    registry.load name searchPath = (.error e, registry) := by
  unfold load
  rw [h]

/-- A load depends on a search path by what is resolved only. -/
theorem load_congr {searchPath' : Option String}
    (h : resolve registry.catalog name searchPath = resolve registry.catalog name searchPath') :
    registry.load name searchPath = registry.load name searchPath' := by
  unfold load entryPoint
  rw [h]

theorem load_eq_resolution
    (h : resolve registry.catalog name searchPath = some (path, object))
    (hnone : object.entryPoint = none) :
    registry.load name searchPath = (.error (.resolution path), registry) := by
  refine load_of_entryPoint_eq_error ?_
  simp only [entryPoint, h, hnone]

/-- What a unit fails with while it is asked is reported as another error. -/
theorem load_eq_notFound_iff :
    (∃ context sought, (registry.load name searchPath).1 = .error (.notFound context sought)) ↔
      resolve registry.catalog name searchPath = none := by
  constructor
  · rintro ⟨context, sought, h⟩
    cases hfound : resolve registry.catalog name searchPath with
    | none => rfl
    | some found =>
      obtain ⟨path, object⟩ := found
      cases hobject : object.entryPoint with
      | none =>
        rw [load_eq_resolution hfound hobject] at h
        cases h
      | some plugin =>
        have hplugin : entryPoint registry.catalog name searchPath = .ok plugin := by
          simp only [entryPoint, hfound, hobject]
        obtain ⟨question, message, -, hreport⟩ :=
          Plugin.findSome?_fault?_eq_some_iff.mp ((load_eq_error_iff hplugin).mp h)
        cases question <;> cases hreport
  · intro hnone
    have herror : entryPoint registry.catalog name searchPath = .error (unknownUnit name) := by
      simp only [entryPoint, hnone]
    rw [load_of_entryPoint_eq_error herror]
    exact ⟨_, _, rfl⟩

/-! ## The end of stripping -/

/-- From the first path, `./` in front is taken off again and again, and this ends with the last
path, which has none. -/
inductive Strips : List Char → List Char → Prop where
  | done {path : List Char} (h : ¬FromCurrent path) : Strips path path
  | next {rest last : List Char} (h : Strips rest last) : Strips ('.' :: '/' :: rest) last

theorem strips_iff {path last : List Char} : Strips path last ↔ stripCurrent path = last := by
  constructor
  · intro h
    induction h with
    | done hplain => exact stripCurrent_eq_self_iff.mpr hplain
    | next _ ih => exact ih
  · rintro rfl
    fun_induction stripCurrent path with
    | case1 rest ih => exact .next ih
    | case2 path hother =>
      refine .done ?_
      rintro ⟨rest, rfl⟩
      exact hother rest rfl

namespace MountTable

/-- The current directory leads where the name itself does. -/
theorem resolve_current (table : MountTable F σ) (name : String) :
    (resolve table.find? name (some "")).map Prod.snd =
      (resolve table.find? name none).map Prod.snd := by
  have hcandidate : table.find? (candidate [] name) = table.find? name := by
    simp only [find?, candidate, List.isEmpty_nil, if_true, String.toList_append,
      String.toList_ofList]
    rfl
  have hcurrent : resolve table.find? name (some "") =
      (table.find? (candidate [] name)).map fun object => (candidate [] name, object) :=
    List.findSome?_singleton
  have hdirect : resolve table.find? name none =
      (table.find? name).map fun object => (name, object) :=
    List.findSome?_singleton
  rw [hcurrent, hdirect, hcandidate, Option.map_map, Option.map_map]
  rfl

end MountTable

/-- Over a mount table, what a unit is resolved to in two search paths with a colon between, and
how it is loaded, is as in the first if some element of that leads to an object, even to one
without an entry point, and otherwise as in the second. What it is resolved to is what the first
element that leads to an object leads to, and a load fails with `notFound` exactly if there is no
such element. An empty element is as good as `.`, and the empty search path leads to the same
object as none. To find the object at a path, `./` in front is taken off until there is none,
which comes to an end with any path. -/
theorem search_paths_compose (registry : Registry F σ) (table : MountTable F σ)
    (hcatalog : registry.catalog = table.find?) (name first second : String) :
    (Leads table.find? name first →
      resolve table.find? name (some (first ++ ":" ++ second)) =
        resolve table.find? name (some first) ∧
      registry.load name (some (first ++ ":" ++ second)) = registry.load name (some first)) ∧
    (¬Leads table.find? name first →
      resolve table.find? name (some (first ++ ":" ++ second)) =
        resolve table.find? name (some second) ∧
      registry.load name (some (first ++ ":" ++ second)) = registry.load name (some second)) ∧
    (∀ path object, LeadsFirst table.find? name first path object → object.entryPoint = none →
      registry.load name (some (first ++ ":" ++ second)) =
        (.error (.resolution path), registry)) ∧
    (∀ path object, resolve table.find? name (some first) = some (path, object) ↔
      LeadsFirst table.find? name first path object) ∧
    ((∃ context sought, (registry.load name (some first)).1 = .error (.notFound context sought)) ↔
      ¬Leads table.find? name first) ∧
    (∀ before after, resolve table.find? name (some (":".intercalate (before ++ "" :: after))) =
      resolve table.find? name (some (":".intercalate (before ++ "." :: after)))) ∧
    (resolve table.find? name (some "")).map Prod.snd =
      (resolve table.find? name none).map Prod.snd ∧
    ∀ path : String, ∃ last, Strips path.toList last ∧
      table.find? path = table.mounted? (String.ofList last) := by
  have hends (path : String) : ∃ last, Strips path.toList last ∧
      table.find? path = table.mounted? (String.ofList last) := ⟨_, strips_iff.mpr rfl, rfl⟩
  have hempty := table.resolve_current name
  rw [← hcatalog] at hends hempty ⊢
  refine ⟨fun hleads => ?_, fun hnot => ?_, fun path object hfirst hnone => ?_,
    fun path object => resolve_eq_some_iff, load_eq_notFound_iff.trans resolve_eq_none_iff,
    resolve_empty_element registry.catalog name, hempty, hends⟩
  · have hsame := resolve_append_of_leads hleads second
    exact ⟨hsame, load_congr hsame⟩
  · have hsame := resolve_append_of_not_leads hnot second
    exact ⟨hsame, load_congr hsame⟩
  · have hfound := resolve_eq_some_iff.mpr hfirst
    refine load_eq_resolution ?_ hnone
    rw [resolve_append, hfound, Option.some_or]

/-- The shipped units, and an object without an entry point. -/
def brokenTable : MountTable Empty Sha2.State :=
  Shipped.mountTable.mount "broken/hmac" ⟨none⟩

/-- The object without an entry point is found before the unit that could be loaded. Without the
element that leads to it, the unit is loaded. -/
theorem search_paths_compose_broken :
    let registry : Registry Empty Sha2.State := new brokenTable.find?
    LeadsFirst brokenTable.find? "hmac" "nowhere:broken" "broken/hmac" ⟨none⟩ ∧
      registry.load "hmac" (some ("nowhere:broken" ++ ":" ++ "plugins")) =
        (.error (.resolution "broken/hmac"), registry) ∧
      ¬Leads brokenTable.find? "hmac" "nowhere" ∧
      (registry.load "hmac" (some ("nowhere" ++ ":" ++ "plugins"))).1 = .ok ⟨0, 0⟩ := by
  intro registry
  obtain ⟨-, -, hbroken, hfirst, -⟩ :=
    search_paths_compose registry brokenTable rfl "hmac" "nowhere:broken" "plugins"
  obtain ⟨-, hskipped, -, -, -⟩ :=
    search_paths_compose registry brokenTable rfl "hmac" "nowhere" "plugins"
  have hleads := (hfirst "broken/hmac" ⟨none⟩).mp rfl
  have hnowhere : ¬Leads brokenTable.find? "hmac" "nowhere" := resolve_eq_none_iff.mp rfl
  refine ⟨hleads, hbroken _ _ hleads rfl, hnowhere, ?_⟩
  rw [(hskipped hnowhere).2]
  rfl

end Registry

end CryptoSuite
