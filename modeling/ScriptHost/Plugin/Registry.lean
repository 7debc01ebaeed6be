import ScriptHost.Plugin.Load

/-!
# The registry of packs

Packs by name, in the order in which each name first entered.  Packs that are installed are
found by their entry points, once, at the first lookup; they do not replace packs that were
registered before, and an entry point that fails does not keep the others out.

## Main results

* `discover_idem` — looking again finds nothing new and says nothing.
-/

namespace ScriptHost.Plugin

open Sequence (Entries)

/-- Where an installed pack is found. -/
structure EntryPoint where
  name : String
  load : Except Failure Target

/-- Packs by name. -/
structure Registry where
  packs : Entries Pack
  /-- Whether the entry points have been looked at, or are not to be. -/
  isComplete : Bool

namespace Registry

/-- The name under which registries speak. -/
def logger : String := "scriptcore.packs.registry"

/-- An empty registry, which may look for installed packs. -/
def new (discovers : Bool) : Registry := ⟨[], !discovers⟩

/-- The registry with a pack, in place of one of the same name. -/
def register (r : Registry) (p : Pack) : Registry := { r with packs := r.packs.put p.name p }

/-- Loads a pack and registers it. -/
def registerPath (r : Registry) (c : Catalogue) (path : String) :
    Except Failure (Pack × Registry) :=
  match loadPack c path with
  | .error f => .error f
  | .ok p => .ok (p, r.register p)

/-- The registry with the pack of an entry point, unless its name is taken, and what is said. -/
def take (r : Registry) (point : EntryPoint) : Registry × List Log.Record :=
  match point.load.bind Target.call with
  | .error f =>
    (r, [.ofLevel .warning logger
      ("Skipping script pack [magenta]" ++ point.name ++ "[/]: " ++ f.message)])
  | .ok none =>
    (r, [.ofLevel .warning logger ("Entry point " ++ point.name ++ " is not a ScriptPack")])
  | .ok (some p) =>
    match r.packs.get? p.name with
    | some _ => (r, [])
    | none => (r.register p, [])

/-- The registry with the packs of entry points, and what is said. -/
def takeAll (r : Registry) : List EntryPoint → Registry × List Log.Record
  | [] => (r, [])
  | point :: points =>
    let (r, said) := r.take point
    let (r, more) := r.takeAll points
    (r, said ++ more)

/-- The registry with the installed packs, and what is said about them. -/
def discover (r : Registry) (points : List EntryPoint) : Registry × List Log.Record :=
  if r.isComplete then (r, []) else { r with isComplete := true }.takeAll points

/-- All packs, in the order of their names' entry. -/
def all (r : Registry) : List Pack := r.packs.map Prod.snd

/-- The names of all packs. -/
def names (r : Registry) : List String := r.packs.names

/-- The pack of a name. -/
def get? (r : Registry) (name : String) : Option Pack := r.packs.get? name

theorem take_isComplete (r : Registry) (point : EntryPoint) :
    (r.take point).1.isComplete = r.isComplete := by
  unfold take
  split
  · rfl
  · rfl
  · split <;> rfl

theorem takeAll_isComplete (r : Registry) (points : List EntryPoint) :
    (r.takeAll points).1.isComplete = r.isComplete := by
  induction points generalizing r with
  | nil => rfl
  | cons point points ih => rw [takeAll, ih, take_isComplete]

theorem discover_isComplete (r : Registry) (points : List EntryPoint) :
    (r.discover points).1.isComplete = true := by
  unfold discover
  split
  · next h => exact h
  · rw [takeAll_isComplete]

/-- Looking again finds nothing new and says nothing. -/
theorem discover_idem (r : Registry) (points more : List EntryPoint) :
    (r.discover points).1.discover more = ((r.discover points).1, []) := by
  have h := discover_isComplete r points
  generalize (r.discover points).1 = s at h
  simp [discover, h]

end Registry

end ScriptHost.Plugin
