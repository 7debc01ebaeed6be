import ScriptHost.Sequence.Distinct
import ScriptHost.Text.Literal

/-!
# Namespaces

The namespaces that are open in every execution, a list in which a name may stand more than
once.  The namespaces of one execution are these and the ones that its script declares, each
at its first occurrence.

## Main results

* `mem_union` — an execution opens exactly the persistent and the declared names.
* `union_nodup` — it opens none of them twice.
-/

namespace ScriptHost

/-- Namespaces in order of import. -/
structure NamespaceSet where
  /-- The names that a reset restores. -/
  defaults : List String
  names : List String
  deriving DecidableEq, Repr

namespace NamespaceSet

/-- The names that every set starts from. -/
def builtIn : List String :=
  ["System", "System.Collections.Generic", "System.Linq", "System.Text",
    "System.Threading.Tasks", "System.IO", "System.Net.Http"]

/-- The set with exactly the given names, which a reset restores. -/
def ofDefaults (defaults : List String) : NamespaceSet := ⟨defaults, defaults⟩

/-- The set with more names at the end. -/
def add (set : NamespaceSet) (names : List String) : NamespaceSet :=
  { set with names := set.names ++ names }

/-- The set without the first occurrence of each name, one after the other. -/
def remove (set : NamespaceSet) (names : List String) : NamespaceSet :=
  { set with names := names.foldl List.erase set.names }

/-- The namespaces of one execution. -/
def union (set : NamespaceSet) (declared : List String) : List String :=
  Sequence.distinct (set.names ++ declared)

/-- The set with exactly the default names. -/
def reset (set : NamespaceSet) : NamespaceSet := ofDefaults set.defaults

/-- How a set shows itself. -/
def display (set : NamespaceSet) : String :=
  "NamespaceSet([" ++ ", ".intercalate (set.names.map Text.literal) ++ "])"

theorem mem_union {set : NamespaceSet} {declared : List String} {n : String} :
    n ∈ set.union declared ↔ n ∈ set.names ∨ n ∈ declared := by
  simp [union, Sequence.mem_distinct]

theorem union_nodup (set : NamespaceSet) (declared : List String) :
    (set.union declared).Nodup :=
  Sequence.distinct_nodup _

end NamespaceSet

end ScriptHost
