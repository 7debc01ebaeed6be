import ScriptHost.Argument
import ScriptHost.Loose
import ScriptHost.Proofs.Sequence.History
import ScriptHost.ReferenceSet

/-!
# References are a log of what was asked

Callers add and remove paths and modules, scripts declare paths, and a reset restores the defaults.
Every request is a row of events for the paths and one for the modules: a reserved path that a
caller adds is no event, one that a script declares is.  What a set of references lists follows from
these events, with all that the set says of itself.

A module is known by its handle.  It has a name, by which it may be reserved, but which it may
share with other modules.

## Main results

* `asked_keeps` — every request does to a set what its events say.
* `log_law` — the law of references, for every row of requests.
-/

namespace ScriptHost

namespace ReferenceSet

open Sequence (Event Lists OrderedSet Supplied Tracks isPresent)

/-! ## Requests -/

/-- What may be asked of a set of references; modules are handed over by their handles. -/
inductive Request where
  | addPaths (paths : Supplied String)
  | removePaths (paths : Supplied String)
  | merge (declared : List String)
  | add (modules : Supplied String)
  | remove (modules : Supplied String)
  | reset

/-- The name of the argument that a request leaves out, if it leaves out one that must be there. -/
def Request.absent? : Request → Option String
  | .addPaths .absent | .removePaths .absent => some "paths"
  | .add .absent | .remove .absent => some "modules"
  | _ => none

/-- The module at a handle. -/
def moduleAt (nameOf : String → String) (handle : String) : Module := ⟨handle, nameOf handle⟩

/-- A set after a change by the items of an argument, or as it was if the argument is refused. -/
def changed {α : Type} (set : ReferenceSet) (change : List α → ReferenceSet) :
    Except Failure (List α) → ReferenceSet × Except Failure Unit
  | .ok items => (change items, .ok ())
  | .error f => (set, .error f)

/-- A set after a request, and how the request ended. -/
def asked (nameOf : String → String) (set : ReferenceSet) :
    Request → ReferenceSet × Except Failure Unit
  | .addPaths paths => set.changed set.addPaths (requireItems "paths" paths)
  | .removePaths paths => set.changed set.removePaths (requireItems "paths" paths)
  | .merge declared => (set.merge declared, .ok ())
  | .add modules =>
    set.changed (fun hs => set.addModules (hs.map (moduleAt nameOf)))
      (requireItems "modules" modules)
  | .remove modules =>
    set.changed (fun hs => set.removeModules (hs.map (moduleAt nameOf)))
      (requireItems "modules" modules)
  | .reset => (set.reset, .ok ())

/-- A set that was made of defaults, after a row of requests. -/
def after (nameOf : String → String) (defaults : List String) (requests : List Request) :
    ReferenceSet :=
  requests.foldl (fun set r => (set.asked nameOf r).1) (ofDefaults defaults)

/-! ## Their events -/

/-- What a request is to the paths. -/
def Request.pathEvents (defaults : List String) : Request → List (Event String)
  | .addPaths paths =>
    (paths.toList.filter fun p => !Artifact.isReservedPath p).map .entered
  | .removePaths paths => paths.toList.map .left
  | .merge declared => declared.map .entered
  | .add _ | .remove _ => []
  | .reset => [.restored defaults]

/-- What a request is to the handles of modules. -/
def Request.handleEvents (nameOf : String → String) : Request → List (Event String)
  | .add modules =>
    (modules.toList.filter fun h => !Artifact.isReservedModule (nameOf h)).map .entered
  | .remove modules => modules.toList.map .left
  | .addPaths _ | .removePaths _ | .merge _ => []
  | .reset => [.restored []]

/-- What has happened to the paths, the newest event first. -/
def pathHistory (defaults : List String) (requests : List Request) : List (Event String) :=
  (requests.flatMap fun r => r.pathEvents defaults).reverse ++ [.restored defaults]

/-- What has happened to the handles of modules, the newest event first. -/
def handleHistory (nameOf : String → String) (requests : List Request) : List (Event String) :=
  (requests.flatMap fun r => r.handleEvents nameOf).reverse ++ [.restored []]

/-! ## Sets that keep to their history -/

section Keeping

variable {nameOf : String → String} {defaults : List String} {paths handles : List (Event String)}
  {set : ReferenceSet}

theorem moduleAt_injective (nameOf : String → String) : (moduleAt nameOf).Injective :=
  fun _ _ h => congrArg Module.handle h

/-- Whether a set lists what its history says. -/
structure Keeps (nameOf : String → String) (defaults : List String)
    (paths handles : List (Event String)) (set : ReferenceSet) : Prop where
  defaults : set.defaults = defaults
  paths : Tracks id paths set.paths
  modules : Tracks (moduleAt nameOf) handles set.modules

theorem keeps_ofDefaults (nameOf : String → String) (defaults : List String)
    (paths handles : List (Event String)) :
    Keeps nameOf defaults (.restored defaults :: paths) (.restored [] :: handles)
      (ofDefaults defaults) :=
  ⟨rfl, Sequence.tracks_ofList paths defaults, Sequence.tracks_empty _ handles⟩

theorem Keeps.insertPaths (h : Keeps nameOf defaults paths handles set) (ps : List String) :
    Keeps nameOf defaults ((ps.map .entered).reverse ++ paths) handles
      { set with paths := set.paths.insertAll ps } := by
  have hpaths := h.paths.insertAll Function.injective_id ps
  rw [List.map_id] at hpaths
  exact ⟨h.defaults, hpaths, h.modules⟩

theorem Keeps.erasePaths (h : Keeps nameOf defaults paths handles set) (ps : List String) :
    Keeps nameOf defaults ((ps.map .left).reverse ++ paths) handles (set.removePaths ps) := by
  have hpaths := h.paths.eraseAll Function.injective_id ps
  rw [List.map_id] at hpaths
  exact ⟨h.defaults, hpaths, h.modules⟩

theorem Keeps.addModules (h : Keeps nameOf defaults paths handles set) (hs : List String) :
    Keeps nameOf defaults paths
      (((hs.filter fun h => !Artifact.isReservedModule (nameOf h)).map .entered).reverse ++ handles)
      (set.addModules (hs.map (moduleAt nameOf))) := by
  have haddable : addableModules (hs.map (moduleAt nameOf)) =
      (hs.filter fun h => !Artifact.isReservedModule (nameOf h)).map (moduleAt nameOf) := by
    simp only [addableModules, List.filter_map, Function.comp_def, moduleAt]
  refine ⟨h.defaults, h.paths, ?_⟩
  rw [ReferenceSet.addModules, haddable]
  exact h.modules.insertAll (moduleAt_injective nameOf) _

theorem Keeps.removeModules (h : Keeps nameOf defaults paths handles set) (hs : List String) :
    Keeps nameOf defaults paths ((hs.map .left).reverse ++ handles)
      (set.removeModules (hs.map (moduleAt nameOf))) :=
  ⟨h.defaults, h.paths, h.modules.eraseAll (moduleAt_injective nameOf) hs⟩

/-- An argument that is there is taken as the items it stands for. -/
theorem requireItems_of_ne {α : Type} {argument : Supplied α} (h : argument ≠ .absent)
    (name : String) : requireItems name argument = .ok argument.toList := by
  cases argument with
  | absent => exact absurd rfl h
  | single | list | collection => rfl

/-- Every request does to a set what its events say: one whose argument is left out does nothing,
and has no events. -/
theorem asked_keeps (h : Keeps nameOf defaults paths handles set) (r : Request) :
    Keeps nameOf defaults ((r.pathEvents defaults).reverse ++ paths)
      ((r.handleEvents nameOf).reverse ++ handles) (set.asked nameOf r).1 := by
  cases r with
  | addPaths ps =>
      by_cases hps : ps = .absent
      · exact hps ▸ h
      · rw [asked, requireItems_of_ne hps]
        exact h.insertPaths (addable ps.toList)
  | removePaths ps =>
      by_cases hps : ps = .absent
      · exact hps ▸ h
      · rw [asked, requireItems_of_ne hps]
        exact h.erasePaths ps.toList
  | merge declared => exact h.insertPaths declared
  | add hs =>
      by_cases hhs : hs = .absent
      · exact hhs ▸ h
      · rw [asked, requireItems_of_ne hhs]
        exact h.addModules hs.toList
  | remove hs =>
      by_cases hhs : hs = .absent
      · exact hhs ▸ h
      · rw [asked, requireItems_of_ne hhs]
        exact h.removeModules hs.toList
  | reset =>
      have hreset : set.reset = ofDefaults defaults := by rw [reset, h.defaults]
      show Keeps nameOf defaults (.restored defaults :: paths) (.restored [] :: handles) set.reset
      rw [hreset]
      exact keeps_ofDefaults nameOf defaults paths handles

/-- So does a row of requests. -/
theorem foldl_asked_keeps (h : Keeps nameOf defaults paths handles set)
    (requests : List Request) :
    Keeps nameOf defaults ((requests.flatMap fun r => r.pathEvents defaults).reverse ++ paths)
      ((requests.flatMap fun r => r.handleEvents nameOf).reverse ++ handles)
      (requests.foldl (fun set r => (set.asked nameOf r).1) set) := by
  induction requests generalizing paths handles set with
  | nil => exact h
  | cons r requests ih =>
      have hrest := ih (asked_keeps h r)
      rwa [List.flatMap_cons, List.flatMap_cons, List.reverse_append, List.reverse_append,
        List.append_assoc, List.append_assoc]

end Keeping

/-! ## The law of references -/

/-- What a set of references is, in view of what has happened to the paths and to the handles of
modules. -/
structure Logs (nameOf : String → String) (paths handles : List (Event String))
    (set : ReferenceSet) : Prop where
  /-- The paths are those that the last event left present, each once, in the order in which they
  became present for the last time. -/
  lists_paths : Lists paths set.paths.toList
  /-- So are the modules, by their handles. -/
  lists_modules : ∃ hs, set.modules.toList = hs.map (moduleAt nameOf) ∧ Lists handles hs
  /-- Nothing else could be listed. -/
  determined : ∀ ps hs, Lists paths ps → Lists handles hs →
    set.paths.toList = ps ∧ set.modules.toList = hs.map (moduleAt nameOf)
  /-- A path is found exactly if the last event that concerns it left it present. -/
  contains_path : ∀ p, set.contains (.path p) = isPresent paths p
  contains_module : ∀ h, set.contains (.loaded (moduleAt nameOf h)) = isPresent handles h
  iteration : set.toList = set.paths.toList
  size : set.size = set.paths.toList.length + set.modules.toList.length
  /-- What is there does not move when anything is added, itself included. -/
  unmoved : ∀ ps, set.paths.toList <+: (set.addPaths ps).paths.toList ∧
    set.paths.toList <+: (set.merge ps).paths.toList
  unmoved_modules : ∀ ms, set.modules.toList <+: (set.addModules ms).modules.toList
  /-- What is removed and added or declared again stands at the end. -/
  moved : ∀ p, Artifact.isReservedPath p = false →
    ((set.removePaths [p]).addPaths [p]).paths.toList = set.paths.toList.erase p ++ [p]
  moved_declared : ∀ p,
    ((set.removePaths [p]).merge [p]).paths.toList = set.paths.toList.erase p ++ [p]
  moved_module : ∀ m : Module, Artifact.isReservedModule m.name = false →
    ((set.removeModules [m]).addModules [m]).modules.toList = set.modules.toList.erase m ++ [m]
  /-- A request whose argument is left out is refused by its name, and nothing changes. -/
  refused : ∀ r name, r.absent? = some name →
    set.asked nameOf r = (set, .error (.absentArgument name))
  /-- Any other request is granted. -/
  granted : ∀ r, r.absent? = none → (set.asked nameOf r).2 = .ok ()
  /-- Items of any shape are taken as paths are, if all of them are texts. -/
  loosely : ∀ change ∈ [addPaths, removePaths, merge], ∀ ps,
    (∀ p ∈ ps, Json.openMark ∉ p.toList) → set.taking change (.ok ps) = (change set ps, .ok ())

theorem toList_insert_erase {α : Type} [DecidableEq α] (s : OrderedSet α) (x : α) :
    ((s.erase x).insert x).toList = s.toList.erase x ++ [x] :=
  OrderedSet.toList_insert_of_not_mem fun h => (OrderedSet.mem_erase.mp h).2 rfl

/-- Whatever the defaults are and whatever is asked, references obey the law. -/
theorem log_law (nameOf : String → String) (defaults : List String) (requests : List Request) :
    Logs nameOf (pathHistory defaults requests) (handleHistory nameOf requests)
      (after nameOf defaults requests) := by
  have hkeeps : Keeps nameOf defaults (pathHistory defaults requests)
      (handleHistory nameOf requests) (after nameOf defaults requests) :=
    foldl_asked_keeps (keeps_ofDefaults nameOf defaults [] []) requests
  obtain ⟨-, ⟨ps, hps, hpaths⟩, ⟨hs, hhs, hmodules⟩⟩ := hkeeps
  rw [List.map_id] at hps
  subst hps
  generalize after nameOf defaults requests = set at *
  constructor
  case lists_paths => exact hpaths
  case lists_modules => exact ⟨hs, hhs, hmodules⟩
  case determined =>
    intro ps' hs' hpaths' hmodules'
    rw [hpaths.unique hpaths', hhs, hmodules.unique hmodules']
    exact ⟨rfl, rfl⟩
  case contains_path =>
    intro p
    rw [contains, Bool.eq_iff_iff, decide_eq_true_iff]
    exact hpaths.present p
  case contains_module =>
    intro h
    rw [contains, Bool.eq_iff_iff, decide_eq_true_iff, OrderedSet.mem_def, hhs,
      List.mem_map_of_injective (moduleAt_injective nameOf)]
    exact hmodules.present h
  case iteration => rfl
  case size => rfl
  case unmoved =>
    exact fun ps => ⟨set.paths.prefix_insertAll _, set.paths.prefix_insertAll _⟩
  case unmoved_modules => exact fun ms => set.modules.prefix_insertAll _
  case moved =>
    intro p hp
    have haddable : addable [p] = [p] := by simp [addable, hp]
    rw [addPaths, haddable]
    exact toList_insert_erase set.paths p
  case moved_declared => exact fun p => toList_insert_erase set.paths p
  case moved_module =>
    intro m hm
    have haddable : addableModules [m] = [m] := by simp [addableModules, hm]
    rw [addModules, haddable]
    exact toList_insert_erase set.modules m
  case refused =>
    intro r name hr
    cases r with
    | addPaths ps | removePaths ps | add ps | remove ps =>
        cases ps with
        | absent =>
            cases hr
            rfl
        | single | list | collection => cases hr
    | merge | reset => cases hr
  case granted =>
    intro r hr
    cases r with
    | addPaths ps | removePaths ps | add ps | remove ps =>
        have hps : ps ≠ .absent := fun habsent => by
          subst habsent
          cases hr
        rw [asked, requireItems_of_ne hps]
        rfl
    | merge | reset => rfl
  case loosely =>
    intro change hchange ps hps
    refine taking_of_unmarked ?_ set hps
    simp only [List.mem_cons, List.not_mem_nil, or_false] at hchange
    rcases hchange with rfl | rfl | rfl
    · exact isStepwise_addPaths
    · exact isStepwise_removePaths
    · exact isStepwise_merge

/-- A default that is removed and declared again stands behind what was declared before it, one that
is declared while it is there stays, and of two modules with one name both are listed. -/
theorem log_in_sample :
    let requests : List Request :=
      [.removePaths (.single "A"), .merge ["C", "A", "B"], .add (.list ["m", "n", "m"])]
    let set := after (fun _ => "json") ["A", "B", "A"] requests
    set.toList = ["B", "C", "A"] ∧ set.modules.toList = [⟨"m", "json"⟩, ⟨"n", "json"⟩] ∧
      set.contains (.loaded ⟨"n", "json"⟩) = true ∧
      ((set.removePaths ["C"]).addPaths ["C"]).paths.toList = ["B", "A", "C"] ∧
      (set.asked (fun _ => "json") (.add .absent)).2 = .error (.absentArgument "modules") := by
  intro requests set
  have hlaw := log_law (fun _ => "json") ["A", "B", "A"] requests
  refine ⟨by decide, by decide, ?_, ?_, ?_⟩
  · exact (hlaw.contains_module "n").trans (by decide)
  · rw [hlaw.moved "C" (by decide)]
    decide
  · rw [hlaw.refused (.add .absent) "modules" rfl]

end ReferenceSet

end ScriptHost
