import ScriptHost.Executor
import ScriptHost.Proofs.Session.Hooks

/-!
# Operations on an executor

Everything that may be asked of an executor in the course of a run, as one type, and what each
operation but an execution does to the state of the executor and to its journal.  The surroundings
may change between two operations: another directory is current, or the folders have other names.

## Main results

* `apply_cases` — a change of the environment is refused, or has its effect.
* `start_of_founding`, `start_of_founding_error` — starting founds a session, or is refused.
* `reset_cases`, `stop_cases` — resetting and ending.
-/

namespace ScriptHost

open Sequence (Supplied)

/-- The same operation with another answer. -/
def Step.map {σ α β : Type} (f : α → β) (step : Step σ α) : Step σ β :=
  ⟨step.answer.map f, step.state, step.trail⟩

namespace Executor

/-! ## Operations -/

/-- A change of the environment of executions. -/
inductive Edit where
  | importNamespaces (names : Supplied String)
  | removeNamespaces (names : Supplied String)
  | addModules (modules : Supplied Module)
  | removeModules (modules : Supplied Module)
  | addPaths (paths : Supplied String)
  | removePaths (paths : Supplied String)

/-- Changes the environment. -/
def apply (e : Executor) (t : Trail) : Edit → Step Executor Unit
  | .importNamespaces names => e.importNamespaces t names
  | .removeNamespaces names => e.removeNamespaces t names
  | .addModules modules => e.addModules t modules
  | .removeModules modules => e.removeModules t modules
  | .addPaths paths => e.addPaths t paths
  | .removePaths paths => e.removePaths t paths

/-- What may be asked of an executor, or happen around it, in the course of a run. -/
inductive Operation where
  | change (edit : Edit)
  | start (paths : Supplied String) (packs : List Pack) (arguments : List String)
  | reset
  | stop
  | execute (script : String) (arguments : List String)
  | executeText (text : String) (arguments : List String)
  /-- The file system is from now on another. -/
  | surround (fileSystem : FileSystem)

/-- Does an operation.  Executions answer a result, all others nothing. -/
def perform (e : Executor) (t : Trail) : Operation → Step Executor (Option ScriptResult)
  | .change edit => (e.apply t edit).map fun _ => none
  | .start paths packs arguments => (e.start t paths packs arguments).map fun _ => none
  | .reset => (e.reset t).map fun _ => none
  | .stop => (e.stop t).map fun _ => none
  | .execute script arguments => (e.execute t script arguments).map some
  | .executeText text arguments => (e.executeText t text arguments).map some
  | .surround fileSystem => .ok none { e with fileSystem := fileSystem } t

/-- A new executor has what it is given, and nothing else. -/
theorem new_eq {fs : Option FileSystem} {pp : PreProcessor} {engine : Engine} {file : String}
    {references namespaces : List String} {e : Executor}
    (h : new fs pp engine file references namespaces = .ok e) :
    ∃ folder, fs = some folder ∧ e = {
      fileSystem := folder
      preProcessor := pp
      libraryFile := file
      pool := []
      engine := engine
      desk := .bare
      references := .ofDefaults references
      namespaces := .ofDefaults namespaces
      session := none } := by
  unfold new at h
  cases fs with
  | none => cases h
  | some folder =>
      simp only [requireArgument] at h
      split at h
      · cases h
      · split at h
        · cases h
        · cases h
          exact ⟨folder, rfl, rfl⟩

/-- A new executor has no session and no results in its pool. -/
theorem new_eq_ok {fs : Option FileSystem} {pp : PreProcessor} {engine : Engine} {file : String}
    {references namespaces : List String} {e : Executor}
    (h : new fs pp engine file references namespaces = .ok e) :
    e.session = none ∧ e.pool = [] ∧ e.preProcessor = pp := by
  obtain ⟨folder, -, rfl⟩ := new_eq h
  exact ⟨rfl, rfl, rfl⟩

/-! ## Changes of the environment -/

/-- What a change makes of an executor once its argument is there. -/
def Edit.effect (e : Executor) : Edit → Executor
  | .importNamespaces names => { e with namespaces := e.namespaces.add names.toList }
  | .removeNamespaces names => { e with namespaces := e.namespaces.remove names.toList }
  | .addModules modules => { e with references := e.references.addModules modules.toList }
  | .removeModules modules => { e with references := e.references.removeModules modules.toList }
  | .addPaths paths => { e with references := e.references.addPaths paths.toList }
  | .removePaths paths => { e with references := e.references.removePaths paths.toList }

/-- The name of the argument that a change lacks, if it does. -/
def Edit.lacks? : Edit → Option String
  | .importNamespaces .absent | .removeNamespaces .absent => some "namespaces"
  | .addModules .absent | .removeModules .absent => some "modules"
  | .addPaths .absent | .removePaths .absent => some "paths"
  | _ => none

/-- A change whose argument is absent is refused; any other is made, and nobody is called. -/
theorem edit_cases {α : Type} (e : Executor) (t : Trail) (name : String) (argument : Supplied α)
    (change : List α → Executor) (records : List α → List Log.Record) :
    (argument = .absent ∧
      e.edit t name argument change records = .error (.absentArgument name) e t) ∨
    (argument ≠ .absent ∧ ∃ t', Trail.Made [] t t' ∧
      e.edit t name argument change records = .ok () (change argument.toList) t') := by
  cases argument with
  | absent => exact .inl ⟨rfl, rfl⟩
  | single item => exact .inr ⟨nofun, _, Trail.made_logAll t _, rfl⟩
  | list items => exact .inr ⟨nofun, _, Trail.made_logAll t _, rfl⟩
  | collection items => exact .inr ⟨nofun, _, Trail.made_logAll t _, rfl⟩

/-- A change of the environment is refused if it lacks its argument, and else has its effect. -/
theorem apply_cases (e : Executor) (t : Trail) (edit : Edit) :
    (∃ name, edit.lacks? = some name ∧ e.apply t edit = .error (.absentArgument name) e t) ∨
    (edit.lacks? = none ∧ ∃ t', Trail.Made [] t t' ∧
      e.apply t edit = .ok () (edit.effect e) t') := by
  have general : ∀ {α : Type} (name : String) (argument : Supplied α)
      (change : List α → Executor) (records : List α → List Log.Record),
      e.apply t edit = e.edit t name argument change records →
      edit.effect e = change argument.toList →
      (argument = .absent → edit.lacks? = some name) →
      (argument ≠ .absent → edit.lacks? = none) →
      (∃ name, edit.lacks? = some name ∧ e.apply t edit = .error (.absentArgument name) e t) ∨
      (edit.lacks? = none ∧ ∃ t', Trail.Made [] t t' ∧
        e.apply t edit = .ok () (edit.effect e) t') := by
    intro α name argument change records happly heffect habsent hpresent
    rw [happly, heffect]
    rcases e.edit_cases t name argument change records with ⟨hnone, heq⟩ | ⟨hsome, t', hmade, heq⟩
    · exact .inl ⟨name, habsent hnone, heq⟩
    · exact .inr ⟨hpresent hsome, t', hmade, heq⟩
  cases edit with
  | importNamespaces names =>
      refine general _ names _ _ rfl rfl ?_ ?_ <;> cases names <;> simp [Edit.lacks?]
  | removeNamespaces names =>
      refine general _ names _ _ rfl rfl ?_ ?_ <;> cases names <;> simp [Edit.lacks?]
  | addModules modules =>
      refine general _ modules _ _ rfl rfl ?_ ?_ <;> cases modules <;> simp [Edit.lacks?]
  | removeModules modules =>
      refine general _ modules _ _ rfl rfl ?_ ?_ <;> cases modules <;> simp [Edit.lacks?]
  | addPaths paths =>
      refine general _ paths _ _ rfl rfl ?_ ?_ <;> cases paths <;> simp [Edit.lacks?]
  | removePaths paths =>
      refine general _ paths _ _ rfl rfl ?_ ?_ <;> cases paths <;> simp [Edit.lacks?]

/-- The effect of a change is on the references and the namespaces. -/
theorem effect_frame (e : Executor) (edit : Edit) :
    ∃ references namespaces, edit.effect e =
      { e with references := references, namespaces := namespaces } := by
  cases edit with
  | importNamespaces names => exact ⟨_, _, rfl⟩
  | removeNamespaces names => exact ⟨_, _, rfl⟩
  | addModules modules => exact ⟨_, _, rfl⟩
  | removeModules modules => exact ⟨_, _, rfl⟩
  | addPaths paths => exact ⟨_, _, rfl⟩
  | removePaths paths => exact ⟨_, _, rfl⟩

/-- A change of the environment leaves the session and the sources alone, and calls nobody. -/
theorem apply_frame (e : Executor) (t : Trail) (edit : Edit) :
    (e.apply t edit).state.session = e.session ∧
      (e.apply t edit).state.toSources = e.toSources ∧
      (e.apply t edit).state.desk = e.desk ∧
      (e.apply t edit).state.engine = e.engine ∧
      Trail.Made [] t (e.apply t edit).trail := by
  rcases e.apply_cases t edit with ⟨name, -, heq⟩ | ⟨-, t', hmade, heq⟩
  · rw [heq]
    exact ⟨rfl, rfl, rfl, rfl, .refl t⟩
  · obtain ⟨references, namespaces, heffect⟩ := effect_frame e edit
    rw [heq, heffect]
    exact ⟨rfl, rfl, rfl, rfl, hmade⟩

/-! ## Founding a session -/

/-- The executor in which a new session is founded, given the calls made before: the paths are added
and the engine is pointed at its folders.  A live session, absent paths and folders that cannot be
told refuse it. -/
def founding (e : Executor) (calls : List Call) (paths : Supplied String) :
    Except Failure Executor :=
  if e.isActive then .error (.session .stillActive)
  else
    match requireItems "paths" paths with
    | .error f => .error f
    | .ok items =>
      match ({ e with references := e.references.addPaths items } : Executor).pointEngine calls with
      | (_, some f) => .error f
      | (e, none) => .ok e

/-- Pointing the engine changes the folders on its desk at most. -/
theorem pointEngine_desk (e : Executor) (calls : List Call) :
    ∃ desk, (e.pointEngine calls).1 = { e with desk := desk } ∧
      desk.fileName = e.desk.fileName := by
  simp only [pointEngine]
  cases FileSystem.join (e.fileSystem.currentDirectory calls) e.fileSystem.binFolder with
  | error f => exact ⟨e.desk, rfl, rfl⟩
  | ok base =>
      cases FileSystem.join (e.fileSystem.currentDirectory calls) e.fileSystem.cacheFolder with
      | error f => exact ⟨_, rfl, rfl⟩
      | ok cache => exact ⟨_, rfl, rfl⟩

theorem pointEngine_frame (e : Executor) (calls : List Call) :
    (e.pointEngine calls).1.session = e.session ∧
      (e.pointEngine calls).1.toSources = e.toSources ∧
      (e.pointEngine calls).1.engine = e.engine := by
  obtain ⟨desk, heq, -⟩ := e.pointEngine_desk calls
  rw [heq]
  exact ⟨rfl, rfl, rfl⟩

/-- A founding finds no live session, adds the paths, and points the engine at both folders. -/
theorem founding_eq_ok {e g : Executor} {calls : List Call} {paths : Supplied String}
    (h : e.founding calls paths = .ok g) :
    e.isActive = false ∧ ∃ items base cache, requireItems "paths" paths = .ok items ∧
      FileSystem.join (e.fileSystem.currentDirectory calls) e.fileSystem.binFolder = .ok base ∧
      FileSystem.join (e.fileSystem.currentDirectory calls) e.fileSystem.cacheFolder =
        .ok cache ∧
      g = { e with
        references := e.references.addPaths items
        desk := ⟨some base, some cache, e.desk.fileName⟩ } := by
  cases hactive : e.isActive with
  | true =>
      rw [founding, hactive] at h
      cases h
  | false =>
      rw [founding, if_neg (Bool.eq_false_iff.mp hactive)] at h
      cases hitems : requireItems "paths" paths with
      | error f => simp only [hitems, reduceCtorEq] at h
      | ok items =>
          simp only [hitems, pointEngine] at h
          cases hbase :
              FileSystem.join (e.fileSystem.currentDirectory calls) e.fileSystem.binFolder with
          | error f => simp only [hbase, reduceCtorEq] at h
          | ok base =>
              cases hcache :
                  FileSystem.join (e.fileSystem.currentDirectory calls)
                    e.fileSystem.cacheFolder with
              | error f => simp only [hbase, hcache, reduceCtorEq] at h
              | ok cache =>
                  simp only [hbase, hcache, Except.ok.injEq] at h
                  exact ⟨rfl, items, base, cache, rfl, rfl, rfl, h.symm⟩

theorem founding_frame {e g : Executor} {calls : List Call} {paths : Supplied String}
    (h : e.founding calls paths = .ok g) :
    g.session = e.session ∧ g.toSources = e.toSources ∧ g.engine = e.engine := by
  obtain ⟨-, items, base, cache, -, -, -, rfl⟩ := founding_eq_ok h
  exact ⟨rfl, rfl, rfl⟩

/-- A session that cannot be founded leaves the old one as it was, and calls nobody. -/
theorem start_of_founding_error {e : Executor} {t : Trail} {paths : Supplied String} {f : Failure}
    (h : e.founding t.calls paths = .error f) (packs : List Pack) (arguments : List String) :
    (e.start t paths packs arguments).answer = .error f ∧
      (e.start t paths packs arguments).state.session = e.session ∧
      (e.start t paths packs arguments).state.toSources = e.toSources ∧
      Trail.Made [] t (e.start t paths packs arguments).trail := by
  unfold founding at h
  unfold start
  split
  · next hactive =>
    rw [if_pos hactive] at h
    cases h
    exact ⟨rfl, rfl, rfl, .refl t⟩
  · next hactive =>
    rw [if_neg hactive] at h
    unfold addPaths Executor.edit
    cases hitems : requireItems "paths" paths with
    | error g =>
        rw [hitems] at h
        cases h
        exact ⟨rfl, rfl, rfl, .refl t⟩
    | ok items =>
        simp only [hitems, Step.ok, Trail.calls_logAll] at h ⊢
        have hframe :=
          pointEngine_frame { e with references := e.references.addPaths items } t.calls
        generalize pointEngine { e with references := e.references.addPaths items } t.calls =
          pointed at h hframe
        obtain ⟨g, refused⟩ := pointed
        cases refused with
        | none => cases h
        | some g' =>
            cases h
            exact ⟨rfl, hframe.1, hframe.2.1, Trail.made_logAll t _⟩

/-- A founded session is started in the executor, and takes the place of the old one whether it
starts or not. -/
theorem start_of_founding {e g : Executor} {t : Trail} {paths : Supplied String}
    (h : e.founding t.calls paths = .ok g) (packs : List Pack) (arguments : List String) :
    ∃ t', Trail.Made [] t t' ∧
      e.start t paths packs arguments =
        ((Session.new packs arguments).start t').lift fun s => { g with session := some s } := by
  obtain ⟨hactive, items, base, cache, hitems, hbase, hcache, rfl⟩ := founding_eq_ok h
  rw [start, if_neg (Bool.eq_false_iff.mp hactive)]
  simp only [addPaths, Executor.edit, hitems, Step.ok, pointEngine, Trail.calls_logAll, hbase,
    hcache]
  exact ⟨_, (Trail.made_logAll t _).trans (Trail.made_log _ _), rfl⟩

/-- Starting a session adds paths, points the engine and replaces the session at most. -/
theorem start_state (e : Executor) (t : Trail) (paths : Supplied String) (packs : List Pack)
    (arguments : List String) :
    ∃ references desk session,
      (e.start t paths packs arguments).state =
        { e with references := references, desk := desk, session := session } ∧
      (references = e.references ∨ ∃ items, references = e.references.addPaths items) ∧
      desk.fileName = e.desk.fileName := by
  unfold start
  split
  · exact ⟨_, _, _, rfl, .inl rfl, rfl⟩
  · unfold addPaths Executor.edit
    cases requireItems "paths" paths with
    | error f => exact ⟨_, _, _, rfl, .inl rfl, rfl⟩
    | ok items =>
        obtain ⟨desk, hdesk, hname⟩ :=
          pointEngine_desk { e with references := e.references.addPaths items } t.calls
        simp only [Step.ok, Trail.calls_logAll]
        generalize pointEngine { e with references := e.references.addPaths items } t.calls =
          pointed at hdesk
        obtain ⟨g, refused⟩ := pointed
        cases hdesk
        cases refused with
        | some f => exact ⟨_, _, _, rfl, .inr ⟨items, rfl⟩, hname⟩
        | none => exact ⟨_, _, _, rfl, .inr ⟨items, rfl⟩, hname⟩

/-! ## Resetting and ending -/

theorem reset_of_no_session {e : Executor} (h : e.session = none) (t : Trail) :
    e.reset t = .ok () { e with
      references := e.references.reset, namespaces := e.namespaces.reset } t := by
  rw [reset, h]

theorem reset_of_ended {e : Executor} {s : Session} (h : e.session = some s)
    (hphase : s.phase = .ended) (t : Trail) :
    e.reset t = .error (.session .resetEnded) e t := by
  rw [reset, h]
  simp only [hphase]

theorem reset_of_not_ended {e : Executor} {s : Session} (h : e.session = some s)
    (hphase : s.phase ≠ .ended) (t : Trail) :
    e.reset t = .ok () { e with
      references := e.references.reset, namespaces := e.namespaces.reset
      session := some s.cleared } t := by
  rw [reset, h]
  simp only [Session.reset_of_not_ended hphase]
  rfl

/-- A reset restores the environment, and clears the session unless that has ended. -/
theorem reset_cases (e : Executor) (t : Trail) :
    (e.session = none ∧
      e.reset t = .ok () { e with
        references := e.references.reset, namespaces := e.namespaces.reset } t) ∨
    (∃ s, e.session = some s ∧ s.phase = .ended ∧
      e.reset t = .error (.session .resetEnded) e t) ∨
    (∃ s, e.session = some s ∧ s.phase ≠ .ended ∧
      e.reset t = .ok () { e with
        references := e.references.reset, namespaces := e.namespaces.reset
        session := some s.cleared } t) := by
  cases hsession : e.session with
  | none =>
      refine .inl ⟨rfl, ?_⟩
      rw [reset_of_no_session hsession t, hsession]
  | some s =>
      by_cases hphase : s.phase = .ended
      · exact .inr (.inl ⟨s, rfl, hphase, reset_of_ended hsession hphase t⟩)
      · exact .inr (.inr ⟨s, rfl, hphase, reset_of_not_ended hsession hphase t⟩)

/-- The trail in which an executor asks its session to end. -/
def stopTrail (t : Trail) : Trail := t.log (.debug logger "Terminating script packs")

theorem stop_of_no_session {e : Executor} (h : e.session = none) (t : Trail) :
    e.stop t = .error (.session .notStarted) e t := by
  rw [stop, h]

theorem stop_of_session {e : Executor} {s : Session} (h : e.session = some s) (t : Trail) :
    e.stop t = (s.stop (stopTrail t)).lift fun s => { e with session := some s } := by
  rw [stop, h]
  rfl

/-- Ending the session is refused when there is none, and otherwise left to the session. -/
theorem stop_cases (e : Executor) (t : Trail) :
    (e.session = none ∧ e.stop t = .error (.session .notStarted) e t) ∨
    (∃ s t', e.session = some s ∧ Trail.Made [] t t' ∧
      e.stop t = (s.stop t').lift fun s => { e with session := some s }) := by
  cases hsession : e.session with
  | none => exact .inl ⟨rfl, stop_of_no_session hsession t⟩
  | some s => exact .inr ⟨s, stopTrail t, rfl, Trail.made_log t _, stop_of_session hsession t⟩

/-! ## A sample -/

/-- A folder with a bundle in it. -/
def sampleTable : FileTable where
  currentDirectory := some "/work"
  binFolder := some "bin"
  cacheFolder := some ".cache"
  packagesFolder := some "packages"
  files := [("/work/packages/lib.csx", "lib();")]

/-- A new executor over that folder. -/
def sample : Executor where
  fileSystem := sampleTable.fileSystem "table"
  preProcessor := .passthrough
  libraryFile := "lib.csx"
  pool := []
  engine := .dryRun
  desk := .bare
  references := .ofDefaults []
  namespaces := .ofDefaults []
  session := none

end Executor

end ScriptHost
