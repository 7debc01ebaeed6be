import ScriptHost.Artifact
import ScriptHost.Log.Record
import ScriptHost.Number.Digits
import ScriptHost.Sequence.OrderedSet

/-!
# References

What an engine may link a script against: paths of artifacts, and modules that are loaded
already.  Both are kept in order of entry.  Paths that a caller adds pass a filter that leaves
out the host's own artifacts; the defaults, and what a script declares, do not.

## Main results

* `mem_paths_addPaths` — which paths are present after some are added.
* `reserved_addPaths` — adding paths never lets a reserved one in.
-/

namespace ScriptHost

open Sequence (OrderedSet)

/-- A loaded module: which one it is, and its name. -/
structure Module where
  handle : String
  name : String
  deriving DecidableEq, Repr

/-- What may be looked up among references: a path, or a module that is loaded. -/
inductive Reference where
  | path (path : String)
  | loaded (m : Module)
  deriving DecidableEq, Repr

/-- The references of an engine. -/
structure ReferenceSet where
  /-- The paths that a reset restores. -/
  defaults : List String
  paths : OrderedSet String
  modules : OrderedSet Module

namespace ReferenceSet

/-- The references to the platform that scripts run on. -/
def platform : List String :=
  ["System", "System.Core", "System.Data", "System.Data.DataSetExtensions", "System.Xml",
    "System.Xml.Linq", "System.Net.Http"]

/-- The paths that every reference set starts from, by the folder that the packages of the host lie
in. -/
def builtIn (home : String) : List String :=
  platform ++ [Artifact.core home, Artifact.contracts home]

/-- The name under which reference sets speak. -/
def logger : String := "scriptcore.core.references"

/-- The set with exactly the given paths, which a reset restores. -/
def ofDefaults (defaults : List String) : ReferenceSet :=
  ⟨defaults, OrderedSet.ofList defaults, OrderedSet.empty⟩

/-- The paths that a caller may add. -/
def addable (paths : List String) : List String :=
  paths.filter fun p => !Artifact.isReservedPath p

/-- The modules that a caller may add. -/
def addableModules (modules : List Module) : List Module :=
  modules.filter fun m => !Artifact.isReservedModule m.name

/-- The set with the paths that a caller adds. -/
def addPaths (set : ReferenceSet) (paths : List String) : ReferenceSet :=
  { set with paths := set.paths.insertAll (addable paths) }

/-- The set without some paths; those that are absent are ignored. -/
def removePaths (set : ReferenceSet) (paths : List String) : ReferenceSet :=
  { set with paths := set.paths.eraseAll paths }

/-- The set with the modules that a caller adds. -/
def addModules (set : ReferenceSet) (modules : List Module) : ReferenceSet :=
  { set with modules := set.modules.insertAll (addableModules modules) }

/-- The set without some modules; those that are absent are ignored. -/
def removeModules (set : ReferenceSet) (modules : List Module) : ReferenceSet :=
  { set with modules := set.modules.eraseAll modules }

/-- The set with the paths that a script declares, whatever they are. -/
def merge (set : ReferenceSet) (declared : List String) : ReferenceSet :=
  { set with paths := set.paths.insertAll declared }

/-- The set with exactly the default paths. -/
def reset (set : ReferenceSet) : ReferenceSet := ofDefaults set.defaults

/-- The number of references. -/
def size (set : ReferenceSet) : Nat := set.paths.size + set.modules.size

/-- Whether a reference is there. -/
def contains (set : ReferenceSet) : Reference → Bool
  | .path p => p ∈ set.paths
  | .loaded m => m ∈ set.modules

/-- What one comes upon in going through a set: its paths, and no module. -/
def toList (set : ReferenceSet) : List String := set.paths.toList

/-- How a set shows itself. -/
def display (set : ReferenceSet) : String :=
  "ReferenceSet(paths=" ++ Number.natText set.paths.size ++ ", modules=" ++
    Number.natText set.modules.size ++ ")"

/-- What is said about the paths that a caller may not add. -/
def pathRecords (paths : List String) : List Log.Record :=
  (paths.filter Artifact.isReservedPath).map fun p =>
    .debug logger ("Skipping reserved reference " ++ p)

/-- What is said about the modules that a caller may not add. -/
def moduleRecords (modules : List Module) : List Log.Record :=
  (modules.filter fun m => Artifact.isReservedModule m.name).map fun m =>
    .debug logger ("Skipping reserved module reference " ++ m.name)

theorem mem_paths_addPaths {set : ReferenceSet} {paths : List String} {p : String} :
    p ∈ (set.addPaths paths).paths ↔
      p ∈ set.paths ∨ p ∈ paths ∧ Artifact.isReservedPath p = false := by
  simp [addPaths, OrderedSet.mem_insertAll, addable]

/-- Adding paths never lets a reserved one in. -/
theorem reserved_addPaths {set : ReferenceSet} {paths : List String} {p : String}
    (h : Artifact.isReservedPath p = true) :
    p ∈ (set.addPaths paths).paths ↔ p ∈ set.paths := by
  simp [mem_paths_addPaths, h]

end ReferenceSet

end ScriptHost
