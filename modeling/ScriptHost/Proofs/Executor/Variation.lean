import ScriptHost.Proofs.Executor.Environment
import ScriptHost.Proofs.Session.Replay

/-!
# Variations of an executor

A variation of an executor has another file name on the desk of the engine and another state that
the packs of the session share, and is otherwise the same.  Neither decides anything: if the
collaborators cannot tell the journals apart, an operation does the same to a variation as to the
executor itself, and leaves a variation of what that leaves.

## Main results

* `prepare_varied`, `compose_varied` — the two halves of an execution of a variation.
* `apply_varied`, `start_varied`, `reset_varied`, `stop_varied` — the other operations.
-/

namespace ScriptHost

open Sequence (Entries Supplied)

/-- The trail after more calls, oldest first. -/
def Trail.callAll (t : Trail) (cs : List Call) : Trail := cs.foldl call t

theorem Trail.made_callAll (t : Trail) (cs : List Call) : Made cs t (t.callAll cs) := by
  unfold callAll
  induction cs generalizing t with
  | nil => exact .refl t
  | cons c cs ih => exact (made_call t c).trans (ih (t.call c))

/-! ## Sources -/

/-- Whether the pre-processor and the file system cannot tell two journals apart. -/
structure Sources.Alike (calls calls' : List Call) (src : Sources) : Prop where
  ofFile : ∀ path, Indistinct maskedCalls calls calls' fun c =>
    src.preProcessor.ofFile src.fileSystem c path
  ofText : ∀ text, Indistinct maskedCalls calls calls' fun c => src.preProcessor.ofText c text
  currentDirectory : Indistinct maskedCalls calls calls' src.fileSystem.currentDirectory
  fileExists : ∀ path, Indistinct maskedCalls calls calls' fun c => src.fileSystem.fileExists c path

namespace Sources

variable {src : Sources} {t t' : Trail}

theorem Alike.inStep {t₁ t₁' : Trail} (h : src.Alike t.calls t'.calls)
    (hstep : Trail.InStep t t' t₁ t₁') : src.Alike t₁.calls t₁'.calls :=
  ⟨fun path => (h.ofFile path).inStep hstep, fun text => (h.ofText text).inStep hstep,
    h.currentDirectory.inStep hstep, fun path => (h.fileExists path).inStep hstep⟩

theorem Alike.congr {src' : Sources} {calls calls' : List Call} (h : src.Alike calls calls')
    (hpp : src'.preProcessor = src.preProcessor) (hfs : src'.fileSystem = src.fileSystem) :
    src'.Alike calls calls' := by
  constructor
  · rw [hpp, hfs]
    exact h.ofFile
  · rw [hpp]
    exact h.ofText
  · rw [hfs]
    exact h.currentDirectory
  · rw [hfs]
    exact h.fileExists

/-- The bundle is looked for in the same way at journals that the sources cannot tell apart. -/
theorem lookup_alike {calls calls' : List Call} (h : src.Alike calls calls')
    (directory : Option String) :
    src.lookup calls' directory = src.lookup calls directory ∧
      src.lookupCalls calls' directory = src.lookupCalls calls directory := by
  unfold lookup lookupCalls
  cases src.libraryPath directory with
  | error f => exact ⟨rfl, rfl⟩
  | ok path =>
      have hexists : src.fileSystem.fileExists calls' path = src.fileSystem.fileExists calls path :=
        (h.fileExists path).now.symm
      have hfile : src.preProcessor.ofFile src.fileSystem (.probe path :: calls') path =
          src.preProcessor.ofFile src.fileSystem (.probe path :: calls) path :=
        (h.ofFile path [.probe path] [.probe path] rfl).symm
      simp only [hexists, hfile]
      exact ⟨trivial, trivial⟩

end Sources

namespace Executor

variable {e : Executor} {t t' : Trail} {op : Operation}

/-! ## Executors that differ in name and state -/

/-- The executor with another file name on the desk of the engine and another shared state of the
session. -/
def varied (e : Executor) (name : Option String) (state : Entries Datum) : Executor :=
  { e with
    desk := { e.desk with fileName := name }
    session := e.session.map (·.withState state) }

theorem liveSession_varied (e : Executor) (name : Option String) (state : Entries Datum) :
    (e.varied name state).liveSession = e.liveSession.map (·.withState state) := by
  unfold liveSession varied
  cases e.session with
  | none => rfl
  | some s =>
      obtain ⟨⟨_, _, _, _, _, _, phase⟩, packs, started⟩ := s
      cases phase with
      | notStarted => rfl
      | started => rfl
      | ended => rfl

theorem isActive_varied (e : Executor) (name : Option String) (state : Entries Datum) :
    (e.varied name state).isActive = e.isActive := by
  unfold isActive varied
  cases e.session with
  | none => rfl
  | some s => rfl

theorem pointEngine_varied {calls calls' : List Call} (h : e.toSources.Alike calls calls')
    (name : Option String) (state : Entries Datum) :
    (e.varied name state).pointEngine calls' =
      ((e.pointEngine calls).1.varied name state, (e.pointEngine calls).2) := by
  have hfs : (e.varied name state).fileSystem = e.fileSystem := rfl
  simp only [pointEngine, hfs, ← h.currentDirectory.now]
  cases FileSystem.join (e.fileSystem.currentDirectory calls) e.fileSystem.binFolder with
  | error f => rfl
  | ok base =>
      cases FileSystem.join (e.fileSystem.currentDirectory calls) e.fileSystem.cacheFolder with
      | error f => rfl
      | ok cache => rfl

theorem effect_varied (e : Executor) (name : Option String) (state : Entries Datum)
    (edit : Edit) : edit.effect (e.varied name state) = (edit.effect e).varied name state := by
  cases edit <;> rfl

/-- The path of a script is told in the same way at journals that the sources cannot tell apart. -/
theorem scriptPath_varied {calls calls' : List Call} (h : e.toSources.Alike calls calls')
    (name : Option String) (state : Entries Datum) (script : String) :
    (e.varied name state).scriptPath calls' script = e.scriptPath calls script := by
  have hfs : (e.varied name state).fileSystem = e.fileSystem := rfl
  simp only [scriptPath, hfs, ← h.currentDirectory.now]

theorem scriptCalls_varied {calls calls' : List Call} (h : e.toSources.Alike calls calls')
    (op : Operation) (name : Option String) (state : Entries Datum) :
    (e.varied name state).scriptCalls calls' op = e.scriptCalls calls op := by
  cases op with
  | execute script arguments =>
      simp only [scriptCalls, scriptPath_varied h]
  | _ => rfl

/-- Once a text is pre-processed, the current directory is the same at journals that the sources
cannot tell apart. -/
theorem directory_alike {calls calls' : List Call} (h : e.toSources.Alike calls calls')
    (text : String) : e.fileSystem.currentDirectory (.processText text :: calls) =
      e.fileSystem.currentDirectory (.processText text :: calls') :=
  h.currentDirectory [.processText text] [.processText text] rfl

/-- The same preparation with another shared state and at another trail. -/
def Prepared.varied (p : Prepared) (state : Entries Datum) (t : Trail) : Prepared :=
  { p with session := p.session.withState state, trail := t }

theorem prepare_varied (h : e.toSources.Alike t.calls t'.calls) (op : Operation)
    (name : Option String) (state : Entries Datum) :
    (e.varied name state).prepare t' op =
      (e.prepare t op).map fun p => p.varied state (t'.callAll (e.scriptCalls t.calls op)) := by
  cases op with
  | execute script arguments =>
      simp only [prepare, liveSession_varied, scriptPath_varied h]
      cases e.liveSession with
      | error f => rfl
      | ok s =>
          cases hscript : e.scriptPath t.calls script with
          | error f => rfl
          | ok path =>
              have hfile : e.preProcessor.ofFile e.fileSystem t'.calls path =
                  e.preProcessor.ofFile e.fileSystem t.calls path := (h.ofFile path).now.symm
              simp only [Except.map, varied, hfile]
              cases e.preProcessor.ofFile e.fileSystem t.calls path with
              | error f => rfl
              | ok answer => simp [Prepared.varied, scriptCalls, hscript, Trail.callAll]
  | executeText text arguments =>
      simp only [prepare, liveSession_varied]
      cases e.liveSession with
      | error f => rfl
      | ok s =>
          have htext : e.preProcessor.ofText t'.calls text = e.preProcessor.ofText t.calls text :=
            (h.ofText text).now.symm
          simp only [Except.map, varied, htext]
          cases e.preProcessor.ofText t.calls text with
          | error f => rfl
          | ok answer =>
              have hread := (directory_alike h text).symm
              simp only [hread]
              cases e.fileSystem.currentDirectory (.processText text :: t.calls) with
              | error fault => rfl
              | ok directory => rfl
  | _ => rfl

/-- The same composition with another file name and another shared state. -/
def Composed.varied (c : Composed) (name : Option String) (state : Entries Datum) : Composed :=
  ⟨c.executor.varied name state, c.session.withState state, c.script⟩

theorem compose_varied {p : Prepared} {u : Trail}
    (h : e.toSources.Alike p.trail.calls u.calls) (name : Option String)
    (state : Entries Datum) :
    (e.varied name state).compose (p.varied state u) =
        (e.compose p).map (·.varied (p.fileName.or name) state) ∧
      (e.varied name state).searchCalls (p.varied state u) = e.searchCalls p := by
  obtain ⟨hlookup, hcalls⟩ := Sources.lookup_alike h p.directory
  have hlookup' : (e.varied name state).lookup (p.varied state u) = e.lookup p := hlookup
  constructor
  · have hinjected : (p.varied state u).session.injected = p.session.injected := rfl
    unfold compose
    rw [hinjected, hlookup']
    cases p.session.injected with
    | true => rfl
    | false =>
        cases e.lookup p with
        | error f => rfl
        | ok found =>
            cases found with
            | none => rfl
            | some answer => rfl
  · unfold searchCalls
    exact congrArg (fun cs => if p.session.injected then [] else cs) hcalls

/-- An execution has the same failure of its script at journals that the sources cannot tell
apart. -/
theorem scriptFails_varied {f : Failure} (h : e.toSources.Alike t.calls t'.calls)
    (name : Option String) (state : Entries Datum) (hfails : e.ScriptFails t op f) :
    (e.varied name state).ScriptFails t' op f := by
  cases op with
  | execute script arguments =>
      have hsame := scriptPath_varied h name state script
      rcases hfails with hpath | ⟨path, hpath, hanswer⟩
      · exact .inl (hsame.trans hpath)
      · exact .inr ⟨path, hsame.trans hpath, (h.ofFile path).now.symm.trans hanswer⟩
  | executeText text arguments =>
      have hanswer : e.preProcessor.ofText t.calls text = .error f := hfails
      exact (h.ofText text).now.symm.trans hanswer
  | _ => exact hfails.elim

/-- A stray is one at journals that the sources cannot tell apart, with the same fault. -/
theorem stray_varied (h : e.toSources.Alike t.calls t'.calls) (op : Operation)
    (name : Option String) (state : Entries Datum) :
    (e.varied name state).stray t' op = e.stray t op := by
  cases op with
  | executeText text arguments =>
      have htext : (e.varied name state).preProcessor.ofText t'.calls text =
          e.preProcessor.ofText t.calls text := (h.ofText text).now.symm
      have hread : (e.varied name state).fileSystem.currentDirectory
          (.processText text :: t'.calls) =
            e.fileSystem.currentDirectory (.processText text :: t.calls) :=
        (directory_alike h text).symm
      simp only [stray, liveSession_varied, htext, hread]
      cases e.liveSession with
      | error f => rfl
      | ok s =>
          cases e.preProcessor.ofText t.calls text with
          | error f => rfl
          | ok answer => cases e.fileSystem.currentDirectory (.processText text :: t.calls) <;> rfl
  | _ => rfl

/-! ## What an operation does to both -/

/-- Two steps, of an executor and of a variation of it, that answer the same, leave a variation
again, and make calls that look the same. -/
structure Varies {α : Type} (t t' : Trail) (step step' : Step Executor α) : Prop where
  answer : step'.answer = step.answer
  state : ∃ name state, step'.state = step.state.varied name state
  trail : Trail.InStep t t' step.trail step'.trail

theorem Varies.map {α β : Type} {f : α → β} {step step' : Step Executor α}
    (h : Varies t t' step step') : Varies t t' (step.map f) (step'.map f) :=
  ⟨congrArg (Except.map f) h.answer, h.state, h.trail⟩

theorem apply_varied (e : Executor) (t t' : Trail) (name : Option String) (state : Entries Datum)
    (edit : Edit) : Varies t t' (e.apply t edit) ((e.varied name state).apply t' edit) := by
  rcases e.apply_cases t edit with ⟨lacking, hlacks, heq⟩ | ⟨hpresent, u, hmade, heq⟩
  · rcases (e.varied name state).apply_cases t' edit with ⟨_, hlacks', heq'⟩ | ⟨hpresent, -⟩
    · rw [hlacks] at hlacks'
      cases hlacks'
      rw [heq, heq']
      exact ⟨rfl, ⟨name, state, rfl⟩, .refl t t'⟩
    · rw [hlacks] at hpresent
      cases hpresent
  · rcases (e.varied name state).apply_cases t' edit with ⟨_, hlacks, -⟩ | ⟨-, u', hmade', heq'⟩
    · rw [hpresent] at hlacks
      cases hlacks
    · rw [heq, heq', effect_varied]
      exact ⟨rfl, ⟨name, state, rfl⟩, .of_made hmade hmade'⟩

theorem start_varied {packs : List Pack} (hsources : e.toSources.Alike t.calls t'.calls)
    (hpacks : ∀ p ∈ packs, p.Alike maskedCalls t.calls t'.calls)
    (name : Option String) (state : Entries Datum) (paths : Supplied String)
    (arguments : List String) :
    Varies t t' (e.start t paths packs arguments)
      ((e.varied name state).start t' paths packs arguments) := by
  unfold start addPaths Executor.edit
  rw [isActive_varied]
  split
  · exact ⟨rfl, ⟨name, state, rfl⟩, .refl t t'⟩
  · cases requireItems "paths" paths with
    | error f => exact ⟨rfl, ⟨name, state, rfl⟩, .refl t t'⟩
    | ok items =>
        have hpoint := pointEngine_varied
          (e := { e with references := e.references.addPaths items }) hsources name state
        have hadded : ({ e.varied name state with
            references := (e.varied name state).references.addPaths items } : Executor) =
            ({ e with references := e.references.addPaths items } : Executor).varied name state :=
          rfl
        simp only [Step.ok, Trail.calls_logAll]
        rw [hadded, hpoint]
        generalize pointEngine { e with references := e.references.addPaths items } t.calls =
          pointed
        obtain ⟨g, refused⟩ := pointed
        have hadd := fun u : Trail => Trail.made_logAll u (ReferenceSet.pathRecords items)
        cases refused with
        | some f => exact ⟨rfl, ⟨name, state, rfl⟩, .of_made (hadd t) (hadd t')⟩
        | none =>
            let begun := fun u : Trail =>
              (u.logAll (ReferenceSet.pathRecords items)).log
                (.debug logger "Initializing script packs")
            have hbegun : ∀ u, Trail.Made [] u (begun u) := fun u =>
              (hadd u).trans (Trail.made_log _ _)
            have hstep : Trail.InStep t t' (begun t) (begun t') :=
              .of_made (hbegun t) (hbegun t')
            obtain ⟨hanswer, hstate, cs, hcs, hcs'⟩ :=
              Session.start_alike (s := Session.new packs arguments)
                fun p hp => (hpacks p hp).inStep hstep
            refine ⟨hanswer,
              ⟨name, ((Session.new packs arguments).start (begun t)).state.state, ?_⟩,
              hstep.trans (.of_made hcs hcs')⟩
            simp only [Step.lift]
            rw [hstate]
            rfl

theorem session_varied {s : Session} (h : e.session = some s) (name : Option String)
    (state : Entries Datum) : (e.varied name state).session = some (s.withState state) := by
  rw [varied, h]
  rfl

theorem no_session_varied (h : e.session = none) (name : Option String)
    (state : Entries Datum) : (e.varied name state).session = none := by
  rw [varied, h]
  rfl

theorem reset_varied (e : Executor) (t t' : Trail) (name : Option String)
    (state : Entries Datum) : Varies t t' (e.reset t) ((e.varied name state).reset t') := by
  cases hsession : e.session with
  | none =>
      rw [reset_of_no_session hsession,
        reset_of_no_session (no_session_varied hsession name state)]
      exact ⟨rfl, ⟨name, state, rfl⟩, .refl t t'⟩
  | some s =>
      have hsession' := session_varied hsession name state
      by_cases hphase : s.phase = .ended
      · rw [reset_of_ended hsession hphase, reset_of_ended hsession' hphase]
        exact ⟨rfl, ⟨name, state, rfl⟩, .refl t t'⟩
      · rw [reset_of_not_ended hsession hphase, reset_of_not_ended hsession' hphase]
        exact ⟨rfl, ⟨name, [], rfl⟩, .refl t t'⟩

theorem stop_varied (hpacks : ∀ s, e.session = some s → ∀ p ∈ s.started,
      p.Alike maskedCalls t.calls t'.calls) (name : Option String) (state : Entries Datum) :
    Varies t t' (e.stop t) ((e.varied name state).stop t') := by
  cases hsession : e.session with
  | none =>
      rw [stop_of_no_session hsession, stop_of_no_session (no_session_varied hsession name state)]
      exact ⟨rfl, ⟨name, state, rfl⟩, .refl t t'⟩
  | some s =>
      rw [stop_of_session hsession, stop_of_session (session_varied hsession name state),
        Session.stop_withState]
      have hstarted : ∀ p ∈ s.started,
          p.Alike maskedCalls (stopTrail t).calls (stopTrail t').calls := hpacks s hsession
      obtain ⟨hanswer, hstate, cs, hcs, hcs'⟩ := Session.stop_alike hstarted
      have hstep : Trail.InStep t t' (stopTrail t) (stopTrail t') :=
        .of_made (Trail.made_log t _) (Trail.made_log t' _)
      refine ⟨hanswer, ⟨name, state, ?_⟩, hstep.trans (.of_made hcs hcs')⟩
      simp only [Step.lift]
      rw [hstate]
      rfl

end Executor

end ScriptHost
