import ScriptHost.Proofs.Command.Release
import ScriptHost.Proofs.Plugin.Registration

/-!
# The packs of an execution

The packs that a configuration names, and behind them those of the command line, are registered by
their paths before the registry is looked through for the first time.  So the packs that a session
is asked to start are the last ones of every given name, in the order in which the names first
occur, and then the installed ones of other names.

## Main results

* `registerAll_eq_ok` — registering paths is a run of a registry.
* `packs_of_ready` — the packs of an execution that is ready.
* `registered_packs_law` — what a registry holds after any run, and which packs an execution starts.
-/

namespace ScriptHost

open Plugin (Registry)
open Plugin.Registry (arrivals firstOf holder lastOf loadedIn namesIn perform RegistrationLaw)
open Sequence (distinct)

namespace Command

/-! ## Registering paths -/

theorem mapM_cons_eq_ok {α β : Type} {f : α → Except Failure β} {a : α} {as : List α} {b : β}
    {bs : List β} (ha : f a = .ok b) (has : as.mapM f = .ok bs) :
    (a :: as).mapM f = .ok (b :: bs) := by
  rw [List.mapM_cons, ha, has]
  rfl

/-- Registering paths loads each of them, and is a run of the registry. -/
theorem registerAll_eq_ok {c : Plugin.Catalogue} {r r' : Registry} {paths : List String}
    (h : registerAll c r paths = .ok r') (t : Trail) :
    ∃ given, paths.mapM (Plugin.loadPack c) = .ok given ∧
      r' = (finish perform r t (paths.map (.registerPath c))).1 ∧
      (paths.map (Registry.Operation.registerPath c)).filterMap
        Registry.Operation.registered? = given := by
  induction paths generalizing r with
  | nil =>
      cases h
      exact ⟨[], rfl, rfl, rfl⟩
  | cons path paths ih =>
      rw [registerAll, Registry.registerPath] at h
      cases hload : Plugin.loadPack c path with
      | error f =>
          rw [hload] at h
          cases h
      | ok p =>
          rw [hload] at h
          obtain ⟨given, hgiven, hend, hregistered⟩ := ih h
          refine ⟨p :: given, mapM_cons_eq_ok hload hgiven, ?_, ?_⟩
          · rw [hend, List.map_cons, finish, perform, Registry.registerPath, hload]
            rfl
          · have hsome : (Registry.Operation.registerPath c path).registered? = some p := by
              rw [Registry.Operation.registered?, hload]
              rfl
            rw [List.map_cons, List.filterMap_cons_some hsome, hregistered]

section Paths

variable {c : Plugin.Catalogue} (paths : List String) (points : List Plugin.EntryPoint)
  (question : Registry.Question)

theorem loadedIn_registerPaths :
    loadedIn false (paths.map (.registerPath c) ++ [.lookUp points question]) = points := by
  induction paths with
  | nil => rfl
  | cons path paths ih => exact ih

theorem arrivals_registerPaths :
    arrivals false (paths.map (.registerPath c) ++ [.lookUp points question]) =
      (paths.map (Registry.Operation.registerPath c)).filterMap
        Registry.Operation.registered? ++ points.filterMap Plugin.EntryPoint.pack? := by
  induction paths with
  | nil => simp [arrivals]
  | cons path paths ih =>
      rw [List.map_cons, List.cons_append, arrivals, ih, List.filterMap_cons]
      · cases (Registry.Operation.registerPath c path).registered? with
        | none => rfl
        | some p => rfl
      · intro points question h
        cases h

end Paths

/-! ## Given packs and installed ones -/

/-- The last one of every name among some packs, in the order in which the names first occur. -/
def lastOnes (given : List Pack) : List Pack :=
  (distinct (given.map Pack.name)).filterMap (lastOf given)

/-- The first one of every name among installed packs that is not the name of a given one. -/
def otherOnes (given installed : List Pack) : List Pack :=
  (distinct ((installed.map Pack.name).filter fun n => n ∉ given.map Pack.name)).filterMap
    (firstOf installed)

theorem isSome_lastOf_iff {given : List Pack} {name : String} :
    (lastOf given name).isSome = true ↔ name ∈ given.map Pack.name := by
  simp [lastOf]

/-- The packs of given and installed names are the last given ones, and the first installed ones of
other names. -/
theorem filterMap_holders (given installed : List Pack) :
    (distinct (given.map Pack.name ++ installed.map Pack.name)).filterMap
        (fun n => (lastOf given n).or (firstOf installed n)) =
      lastOnes given ++ otherOnes given installed := by
  rw [Sequence.distinct_append, List.filterMap_append]
  congr 1
  · apply List.filterMap_congr
    intro name hname
    obtain ⟨p, hp⟩ := Option.isSome_iff_exists.mp
      (isSome_lastOf_iff.mpr (Sequence.mem_distinct.mp hname))
    rw [hp, Option.some_or]
  · apply List.filterMap_congr
    intro name hname
    have hnew : name ∉ given.map Pack.name :=
      of_decide_eq_true (List.mem_filter.mp (Sequence.mem_distinct.mp hname)).2
    have hnone : lastOf given name = none := by
      rw [← Option.not_isSome_iff_eq_none]
      exact fun hsome => hnew (isSome_lastOf_iff.mp hsome)
    rw [hnone, Option.none_or]

/-- The packs that are installed. -/
def Surroundings.installed (w : Surroundings) : List Pack :=
  w.entryPoints.filterMap Plugin.EntryPoint.pack?

/-- The packs of an execution that is ready: the given ones, of the configuration and then of the
command line, and the installed ones of other names. -/
theorem packs_of_ready {w : Surroundings} {d : Disk} {m : Manner} {x : Execution} {r : Ready}
    (h : prepare w d m x = .ok r) :
    ∃ c given, configuration w d m.configuration = .ok c ∧
      (c.execution.packs ++ x.packs).mapM (Plugin.loadPack w.catalogue) = .ok given ∧
      r.packs w = lastOnes given ++ otherOnes given w.installed := by
  obtain ⟨c, hc, -, -, hregistry⟩ := prepare_eq_ok h
  obtain ⟨given, hgiven, hend, hregistered⟩ := registerAll_eq_ok hregistry .empty
  refine ⟨c, given, hc, hgiven, ?_⟩
  have hrep := (Registry.represents_after true
    ((c.execution.packs ++ x.packs).map (.registerPath w.catalogue)) .empty).discover
      w.entryPoints .packs
  have hholder : holder (!true) ((c.execution.packs ++ x.packs).map (.registerPath w.catalogue) ++
      [.lookUp w.entryPoints .packs]) =
        fun n => (lastOf given n).or (firstOf w.installed n) := by
    funext name
    rw [holder, Bool.not_true, loadedIn_registerPaths, List.filterMap_append, hregistered]
    rw [List.filterMap_cons_none rfl, List.filterMap_nil, List.append_nil]
    rfl
  have hnames : namesIn (!true) ((c.execution.packs ++ x.packs).map (.registerPath w.catalogue) ++
      [.lookUp w.entryPoints .packs]) =
        distinct (given.map Pack.name ++ w.installed.map Pack.name) := by
    rw [namesIn, Bool.not_true, arrivals_registerPaths, hregistered, List.map_append]
    rfl
  have hall := hrep.all
  rw [hholder, hnames, filterMap_holders] at hall
  rw [Ready.packs, hend]
  exact hall

/-! ## The law -/

/-- Which packs an execution that is ready starts. -/
structure StartingLaw (w : Surroundings) (d : Disk) (m : Manner) (x : Execution) (r : Ready) :
    Prop where
  /-- They are the last ones of every name that is given, by the configuration and behind it by the
  command line, and the first ones that are installed of every other name. -/
  packs : ∃ c given, configuration w d m.configuration = .ok c ∧
    (c.execution.packs ++ x.packs).mapM (Plugin.loadPack w.catalogue) = .ok given ∧
    r.packs w = lastOnes given ++ otherOnes given w.installed
  /-- A session that opens has started them, and has called their hooks in their order. -/
  opened : ∀ desktop e, (r.opening w x).task = .ok (desktop, e) →
    ∃ s, e.session = some s ∧ Opened (r.packs w) x.arguments s (r.opening w x).trail
  /-- If the execution can tell where it is, none of their hooks fails and the log takes every
  record, a session opens. -/
  opens : r.executor.fileSystem.HasFolders → Session.attemptFailure? (r.packs w) [] = none →
    (r.opening w x).refusal = none → ∃ desktop e, (r.opening w x).task = .ok (desktop, e)

theorem starting_spec {w : Surroundings} {d : Disk} {m : Manner} {x : Execution} {r : Ready}
    (h : prepare w d m x = .ok r) : StartingLaw w d m x r := by
  have hnone := (executor_of_ready h).1
  constructor
  case packs => exact packs_of_ready h
  case opened =>
    intro desktop e htask
    have hfolders : r.executor.fileSystem.HasFolders := by
      by_contra hlost
      obtain ⟨o, hfails⟩ := (opening_of_no_folders (w := w) (x := x) hnone hlost).1
      cases hfails.symm.trans htask
    obtain ⟨g, hfounding⟩ := Executor.founding_of_folders hnone hfolders x.references
    obtain ⟨s, rfl, hopened⟩ := opened_of_task hfounding htask
    exact ⟨s, rfl, hopened⟩
  case opens =>
    intro hfolders hattempt hheard
    obtain ⟨g, hfounding⟩ := Executor.founding_of_folders hnone hfolders x.references
    obtain ⟨desktop, s, htask, -⟩ := opened_of_attempts hfounding hattempt hheard
    exact ⟨desktop, _, htask⟩

/-- What a registry holds is settled by the operations of its run, and an execution starts the last
ones of all packs that are given to it, and the installed ones of other names. -/
theorem registered_packs_law :
    (∀ discovers os t, RegistrationLaw discovers os t) ∧
      ∀ {w d m x r}, prepare w d m x = .ok r → StartingLaw w d m x r :=
  ⟨Registry.registration_spec, starting_spec⟩

/-! ## A sample -/

/-- A pack that has the name of another one. -/
def loud : Pack := .steady ⟨"loud", "greeter", "Loud"⟩ [] none

/-- Surroundings in which packs with the same name are configured, and further ones installed. -/
def sampleInstalled : Surroundings where
  catalogue := .plain "greetings" false [("Greeter", .packClass "Greeter" (.ok greeter)),
    ("Loud", .packClass "Loud" (.ok loud)), ("Mute", .packClass "Mute" (.ok mute))] ::
      Plugin.builtIn
  home := "/usr/share/host"
  entryPoints := [
    ⟨"broken", .error (.raised ⟨"ImportError", "broken"⟩)⟩,
    ⟨"none", .ok (.function "none" (.ok ()))⟩,
    ⟨"loud", .ok (.packClass "Loud" (.ok loud))⟩,
    ⟨"silent", .ok (.packClass "Silent" (.ok (.steady ⟨"silent", "silent", "Silent"⟩ [] none)))⟩,
    ⟨"still", .ok (.packClass "Still" (.ok (.steady ⟨"still", "silent", "Still"⟩ [] none)))⟩]
  environment := [("SCRIPTCORE_LOGGING__LEVEL", "ERROR"),
    ("SCRIPTCORE_EXECUTION__SCRIPT_PACKS", "[\"greetings:Greeter\", \"greetings:Mute\"]")]
  stamp := ⟨"", ""⟩
  duration := .finite false 0 0

/-- What is executed in the sample. -/
def sampleReplacement : Execution := ⟨.text "one();", [], ["greetings:Loud"], []⟩

/-- In the sample the command line replaces the pack that was configured first, in its place, and
one installed pack is new. -/
theorem packs_in_sample :
    RegistrationLaw true
        [.lookUp sampleInstalled.entryPoints .names, .register greeter, .lookUp [] .packs] .empty ∧
      ∃ r, prepare sampleInstalled sampleDisk sampleManner sampleReplacement = .ok r ∧
        StartingLaw sampleInstalled sampleDisk sampleManner sampleReplacement r ∧
        (r.packs sampleInstalled).map (fun p => p.label.identity) =
          ["loud", "mute", "silent"] := by
  have hidentities : (prepare sampleInstalled sampleDisk sampleManner
      sampleReplacement).toOption.map
        (fun r => (r.packs sampleInstalled).map fun p => p.label.identity) =
          some ["loud", "mute", "silent"] := by
    decide +kernel
  obtain ⟨r, hr, hpacks⟩ := Option.map_eq_some_iff.mp hidentities
  have hready := eq_ok_of_toOption hr
  exact ⟨registered_packs_law.1 _ _ _, r, hready, registered_packs_law.2 hready, hpacks⟩

end Command

end ScriptHost
