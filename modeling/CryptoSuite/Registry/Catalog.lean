import CryptoSuite.Registry.Plugin

/-!
# Catalogs

A `Catalog` finds the object at a path. An object need not be a unit: it may lack the entry
point.

A `MountTable` is a catalog of objects mounted at fixed paths. A path that is looked up first
loses every `./` in front; one that is mounted does not. Main statement: what is mounted at a
path is the object mounted there last (`MountTable.mounted?_mount`).
-/

namespace CryptoSuite

namespace Registry

/-- An object found at a path. -/
structure Object (F σ : Type) where
  /-- The entry point, if the object has one. -/
  entryPoint : Option (Plugin F σ)

/-- Text of an object for listings. -/
def Object.listing {F σ : Type} (object : Object F σ) : String :=
  Text.tagged "LoadedObject" <| match object.entryPoint with
    | some plugin => plugin.name
    | none => "<no entry point>"

/-- What finds the object at a path. -/
abbrev Catalog (F σ : Type) := String → Option (Object F σ)

/-! ## Mount tables -/

/-- Drop every `./` in front of a path. -/
def stripCurrent : List Char → List Char
  | '.' :: '/' :: rest => stripCurrent rest
  | path => path

/-- Objects mounted at fixed paths. -/
structure MountTable (F σ : Type) where
  /-- The paths with their objects. -/
  mounts : List (String × Object F σ)
  /-- No path is mounted twice. -/
  distinct : (mounts.map Prod.fst).Nodup

namespace MountTable

variable {F σ : Type}

/-- The table without mounts. -/
def empty : MountTable F σ := ⟨[], List.nodup_nil⟩

/-- The number of mounted paths. -/
def size (table : MountTable F σ) : Nat :=
  table.mounts.length

/-- Whether nothing is mounted. -/
def isEmpty (table : MountTable F σ) : Bool :=
  table.mounts.isEmpty

/-- Mount an object at a path, in place of what is mounted there. -/
def mount (table : MountTable F σ) (path : String) (object : Object F σ) : MountTable F σ where
  mounts := (path, object) :: table.mounts.filter fun mounted => mounted.1 != path
  distinct := by
    rw [List.map_cons, List.nodup_cons]
    exact ⟨by simp, table.distinct.sublist (List.filter_sublist.map Prod.fst)⟩

/-- Mount a unit at a path. -/
def mountPlugin (table : MountTable F σ) (path : String) (plugin : Plugin F σ) :
    MountTable F σ :=
  table.mount path ⟨some plugin⟩

/-- The object mounted at exactly the given path. -/
def mounted? (table : MountTable F σ) (path : String) : Option (Object F σ) :=
  (table.mounts.find? fun mounted => mounted.1 == path).map Prod.snd

/-- The object a path leads to. -/
def find? (table : MountTable F σ) : Catalog F σ := fun path =>
  table.mounted? (String.ofList (stripCurrent path.toList))

theorem mounted?_mount (table : MountTable F σ) (path other : String) (object : Object F σ) :
    (table.mount path object).mounted? other =
      if path = other then some object else table.mounted? other := by
  by_cases h : path = other
  · simp [mounted?, mount, h]
  · simp only [mounted?, mount, if_neg h]
    rw [List.find?_cons_of_neg (by simpa using h), List.find?_filter]
    congr 2
    funext mounted
    by_cases hm : mounted.1 = other
    · simp [hm, Ne.symm h]
    · simp [hm]

end MountTable

end Registry

end CryptoSuite
