import CryptoSuite.Registry.Catalog

/-!
# The registry

A `Registry` finds units through a catalog and keeps an entry for each implementation of every
unit it loaded. `Registry.load` asks the plugin of a unit for the number of its implementations
and then, for each in turn, for its family, name and operations, of which it makes an entry at
once. The first failure ends the load, which then takes back the unit and the entries it added.
-/

namespace CryptoSuite

/-- Loaded units with their implementations. -/
structure Registry (F σ : Type) where
  /-- Where units are found. -/
  catalog : Registry.Catalog F σ
  /-- The loaded units, in load order. -/
  units : List (Registry.Plugin F σ)
  /-- Their implementations. -/
  table : Registry.EntryTable F σ

namespace Registry

variable {F σ : Type}

/-- A registry over a catalog with nothing loaded. -/
def new (catalog : Catalog F σ) : Registry F σ := ⟨catalog, [], .empty⟩

/-! ## Finding a unit -/

/-- The elements of a search path, which colons separate. -/
def pathElements : List Char → List (List Char)
  | [] => [[]]
  | ':' :: rest => [] :: pathElements rest
  | c :: rest =>
    match pathElements rest with
    | [] => [[c]]
    | first :: others => (c :: first) :: others

/-- The path of a unit in a directory of a search path. An empty element is the current
directory. -/
def candidate (directory : List Char) (name : String) : String :=
  String.ofList (if directory.isEmpty then ['.'] else directory) ++ "/" ++ name

/-- The paths to try for a unit, in order. -/
def candidates (name : String) : Option String → List String
  | none => [name]
  | some searchPath => (pathElements searchPath.toList).map fun d => candidate d name

/-- The first path with an object, and that object. -/
def resolve (catalog : Catalog F σ) (name : String) (searchPath : Option String) :
    Option (String × Object F σ) :=
  (candidates name searchPath).findSome? fun path => (catalog path).map fun object => (path, object)

/-- The error for a unit that is nowhere. -/
def unknownUnit (name : String) : Error :=
  .notFound "plugin unit" name

/-! ## Asking a unit -/

/-- An error of a unit while it lists its implementations, with the stage it occurred in. -/
def enumerationError (unitName stage : String) (e : Error) : Error :=
  .enumeration unitName s!"{stage}: {e.message}"

/-- The error for a unit without implementations. -/
def noImplementations (unitName : String) : Error :=
  .enumeration unitName "unit exports no implementations"

/-- The error for an implementation whose operations are not of the family it names. -/
def kindMismatch (unitName : String) (index : Nat) (declared provided : AlgorithmKind) : Error :=
  .function unitName
    s!"implementation {index} declares {declared.text} but provides {provided.text} operations"

/-- The entry of one implementation of a unit. -/
def askImplementation (plugin : Plugin F σ) (unitIndex : Nat) (unitName : String)
    (count index : Nat) : Except Error (Entry F σ) := do
  let kind ← (plugin.kind index).mapError (enumerationError unitName "kind")
  let algorithm ← (plugin.algorithmName index).mapError (enumerationError unitName "name")
  let capability ← (plugin.capability index).mapError fun e => .function unitName e.message
  if capability.kind ≠ kind then .error (kindMismatch unitName index kind capability.kind)
  else return {
    unit := unitIndex
    unitName
    algorithm
    implementation := index
    kind
    capability
    tableSize := capability.tableSize
    siblings := count }

/-! ## Loading and unloading -/

/-- Add the entries of `remaining` implementations of a unit from `index` on, up to the first
that fails. The entries before it stay. -/
def registerFrom (plugin : Plugin F σ) (unitIndex : Nat) (unitName : String) (count : Nat) :
    (remaining index : Nat) → EntryTable F σ → Except Error Unit × EntryTable F σ
  | 0, _, table => (.ok (), table)
  | remaining + 1, index, table =>
    match askImplementation plugin unitIndex unitName count index with
    | .error e => (.error e, table)
    | .ok entry =>
      registerFrom plugin unitIndex unitName count remaining (index + 1) (table.push entry)

/-- Add the entries of all implementations of a unit. -/
def registerUnit (plugin : Plugin F σ) (unitIndex : Nat) (unitName : String)
    (table : EntryTable F σ) : Except Error Unit × EntryTable F σ :=
  match plugin.implementationCount with
  | .error e => (.error (enumerationError unitName "implementation count" e), table)
  | .ok count =>
    if count = 0 then (.error (noImplementations unitName), table)
    else registerFrom plugin unitIndex unitName count count 0 table

/-- The entry point of the unit called `name`. -/
def entryPoint (catalog : Catalog F σ) (name : String) (searchPath : Option String) :
    Except Error (Plugin F σ) :=
  match resolve catalog name searchPath with
  | none => .error (unknownUnit name)
  | some (path, object) =>
    match object.entryPoint with
    | none => .error (.resolution path)
    | some plugin => .ok plugin

/-- Load the unit called `name`, directly or from the directories of a search path. Answers the
id of its first implementation. A load that fails takes back what it added. -/
def load (registry : Registry F σ) (name : String) (searchPath : Option String) :
    Except Error EntryId × Registry F σ :=
  match entryPoint registry.catalog name searchPath with
  | .error e => (.error e, registry)
  | .ok plugin =>
    let first := registry.table.size
    let unitIndex := registry.units.length
    let units := registry.units ++ [plugin]
    match registerUnit plugin unitIndex name registry.table with
    | (.error e, table) =>
      (.error e, { registry with
        units := units.take unitIndex
        table := table.truncate first })
    | (.ok (), table) => (.ok (table.idAt first), { registry with units, table })

/-- Forget every unit. All ids issued so far become stale. -/
def unload (registry : Registry F σ) : Registry F σ :=
  { registry with units := [], table := registry.table.clear }

/-! ## Self-tests -/

/-- The error for an entry of a unit that is not loaded. -/
def missingUnit : Error := .other "registry entry" "unit is not loaded"

/-- Run the self-test of an entry, against the entries of the registry. -/
def selfTest (registry : Registry F σ) (id : EntryId) : Except Error Unit := do
  let entry ← registry.table.entry id
  match registry.units[entry.unit]? with
  | some plugin => plugin.selfTest entry.implementation registry.table
  | none => .error missingUnit

/-- Text of a registry for listings. -/
def listing (registry : Registry F σ) : String :=
  Text.record "Registry" [
    ("units", toString registry.units.length),
    ("entries", Text.sequence (registry.table.entries.map Entry.listing)),
    ("generation", toString registry.table.generation)]

end Registry

end CryptoSuite
