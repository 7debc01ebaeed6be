import ScriptHost.Proofs.Executor.Twin

/-!
# The stages of a failed execution

A live execution has three stages: the script is pre-processed, the bundle is looked for if it is
due, and the engine runs the result.  Each can fail, and the failure is the answer.  A script that
fails leaves the executor as it was.  A bundle that fails leaves behind the name of the script that
the engine was told, if it has one, and nothing else: the bundle stays due.  An engine that fails
leaves what it would have left had it returned.  Between the first two stages a script that is given
as text has its place read, the current directory; that may fail as well and changes nothing.

What the pre-processor keeps for itself is its own affair.  Apart from it a failure before the
engine is forgotten: whatever follows comes to the same as if the execution had not been tried, as
far as the collaborators do not remember that it was.

## Main results

* `state_of_engine` — what an execution leaves does not depend on what the engine answers.
* `failures_staged` — the law of a failed execution, in any state with a live session.
-/

namespace ScriptHost

namespace Executor

/-! ## Stages -/

/-- Whether an execution whose script is pre-processed fails in reading the current directory. -/
def PlaceFails (e : Executor) (t : Trail) (op : Operation) (f : Failure) : Prop :=
  ∃ answer fault, e.stray t op = some (answer, fault) ∧ f = .raised fault

/-- Whether an execution whose script is pre-processed fails in looking for the bundle. -/
def BundleFails (e : Executor) (t : Trail) (op : Operation) (f : Failure) : Prop :=
  ∃ p, e.prepare t op = some p ∧ p.session.injected = false ∧ e.lookup p = .error f

/-- Whether an execution reaches the engine and the engine fails. -/
def EngineFails (e : Executor) (t : Trail) (op : Operation) (f : Failure) : Prop :=
  ∃ sub ∈ submitted ⟨e, t, op⟩, e.engine.run (e.perform t op).trail.calls.tail sub = .error f

/-- The name of the script of an execution, given the calls made before; a script that is given as
text has none. -/
def scriptName (e : Executor) (calls : List Call) : Operation → Option String
  | .execute script _ =>
    match e.scriptPath calls script with
    | .ok path => some (Path.ofString path).name
    | .error _ => none
  | _ => none

variable {e : Executor} {t : Trail} {op : Operation}

theorem fileName_of_prepared {p : Prepared} (h : e.prepare t op = some p) :
    p.fileName = e.scriptName t.calls op := by
  rcases (prepare_cases h).2 with ⟨script, path, rfl, hpath, -, hp⟩ | ⟨text, rfl, -, -, hp⟩
  · rw [hp, scriptName, hpath]
  · rw [hp]
    rfl

/-! ## The script, its place or the bundle fails -/

theorem submitted_of_scriptCalls
    (h : Trail.Made (e.scriptCalls t.calls op) t (e.perform t op).trail) :
    submitted ⟨e, t, op⟩ = [] := by
  rw [submitted_of_made h]
  exact received_of_sources (e.scriptCalls_source t.calls op)

/-- An execution that fails in reading the current directory answers that failure, does not reach
the engine, and leaves the executor as it was but for what the pre-processor keeps. -/
theorem perform_of_placeFails {f : Failure} (h : e.PlaceFails t op f) :
    (e.perform t op).answer = .error f ∧ submitted ⟨e, t, op⟩ = [] ∧
      ∃ pool, (e.perform t op).state = { e with pool := pool } := by
  obtain ⟨answer, fault, hstray, rfl⟩ := h
  obtain ⟨hanswer, hstate, hmade⟩ := perform_of_stray hstray
  exact ⟨hanswer, submitted_of_scriptCalls hmade, _, hstate⟩

/-- An execution that fails in looking for the bundle answers that failure, does not reach the
engine, and leaves the name of its script on the desk. -/
theorem perform_of_bundleFails {f : Failure} (h : e.BundleFails t op f) :
    (e.perform t op).answer = .error f ∧ submitted ⟨e, t, op⟩ = [] ∧
      ∃ pool, (e.perform t op).state =
        { e with
          pool := pool
          desk := { e.desk with fileName := (e.scriptName t.calls op).or e.desk.fileName } } := by
  obtain ⟨p, hp, hinjected, hlookup⟩ := h
  have hcompose := compose_of_lookup_error hinjected hlookup
  obtain ⟨hsession, -, -, -⟩ := perform_eq_run hp
  obtain ⟨u, -, heq⟩ := perform_of_search hp
  obtain ⟨cs, hmade, hcs⟩ := received_of_prepared hp
  rw [hcompose] at heq hcs
  refine ⟨?_, ?_, (e.toSources.receive p.script).2.pool, ?_⟩
  · rw [heq]
    rfl
  · rw [submitted_of_made hmade, hcs]
  · rw [heq]
    simp only [Step.error, ready]
    rw [fileName_of_prepared hp, ← hsession]
    rfl

/-! ## The engine fails -/

/-- What an execution leaves does not depend on what the engine answers. -/
theorem state_of_engine (hop : op.isExecution = true) (g : Engine) :
    (({ e with engine := g } : Executor).perform t op).state =
      { (e.perform t op).state with engine := g } := by
  have hprepare : ({ e with engine := g } : Executor).prepare t op = e.prepare t op := by
    cases op <;> rfl
  have hstray : ({ e with engine := g } : Executor).strayPool t op = e.strayPool t op := by
    cases op <;> rfl
  cases hp : e.prepare t op with
  | none =>
      rw [(execution_of_not_prepared hop hp).2.1,
        (execution_of_not_prepared hop (hprepare.trans hp)).2.1, hstray]
  | some p =>
      rw [state_of_prepared hp, state_of_prepared (hprepare.trans hp)]
      have hlookup : ({ e with engine := g } : Executor).lookup p = e.lookup p := rfl
      unfold compose
      rw [hlookup]
      cases p.session.injected with
      | true => rfl
      | false =>
          cases e.lookup p with
          | error f => rfl
          | ok found =>
              cases found with
              | none => rfl
              | some answer => rfl

theorem answer_of_engineFails {f : Failure} (h : e.EngineFails t op f) :
    (e.perform t op).answer = .error f := by
  obtain ⟨sub, hsub, hrun⟩ := h
  obtain ⟨p, c, hp, hc, -, rfl⟩ := composed_of_submitted hsub
  have hanswer : (e.perform t op).answer =
      (e.engine.run (e.perform t op).trail.calls.tail (c.submission p.arguments)).map some :=
    (submitted_of_composed hp hc).2
  rw [hanswer, hrun]
  rfl

/-- A live execution that fails does so in one of the stages or in reading the current directory. -/
theorem stage_of_failure {s : Session} {f : Failure} (hop : op.isExecution = true)
    (hlive : e.liveSession = .ok s) (h : (e.perform t op).answer = .error f) :
    e.ScriptFails t op f ∨ e.PlaceFails t op f ∨ e.BundleFails t op f ∨ e.EngineFails t op f := by
  cases hp : e.prepare t op with
  | none =>
      rcases fails_of_not_prepared hop hlive hp with ⟨g, hfails⟩ | ⟨answer, fault, hstray⟩
      · rw [(perform_of_scriptFails hlive hfails).1] at h
        cases h
        exact .inl hfails
      · rw [(perform_of_stray hstray).1] at h
        cases h
        exact .inr (.inl ⟨answer, fault, hstray, rfl⟩)
  | some p =>
      refine .inr (.inr ?_)
      cases hc : e.compose p with
      | error g =>
          obtain ⟨hinjected, hlookup⟩ := compose_eq_error hc
          have hfails : e.BundleFails t op g := ⟨p, hp, hinjected, hlookup⟩
          rw [(perform_of_bundleFails hfails).1] at h
          cases h
          exact .inl hfails
      | ok c =>
          obtain ⟨hsubmitted, hanswer⟩ := submitted_of_composed hp hc
          have hanswer' : (e.perform t op).answer =
              (e.engine.run (e.perform t op).trail.calls.tail
                (c.submission p.arguments)).map some := hanswer
          refine .inr ⟨c.submission p.arguments, ?_, ?_⟩
          · rw [hsubmitted]
            exact List.mem_singleton_self _
          · rw [hanswer'] at h
            cases hrun : e.engine.run (e.perform t op).trail.calls.tail
                (c.submission p.arguments) with
            | ok result =>
                rw [hrun] at h
                cases h
            | error g =>
                rw [hrun] at h
                cases h
                rfl

/-! ## What follows -/

/-- An executor that was told another file name is a twin of itself at every journal that its
collaborators cannot tell from the present one. -/
theorem twins_of_told {s : Session} {t' : Trail} {pool : Pool} {name : Option String}
    (hsession : e.session = some s) (halike : e.Alike t.calls t'.calls) :
    Twins { e with pool := pool, desk := { e.desk with fileName := name } } t
      { e with pool := pool } t' := by
  have hsame : e.session.map (·.withState s.state) = e.session := by
    rw [hsession]
    rfl
  have hvaried : ({ e with pool := pool, desk := { e.desk with fileName := name } } :
      Executor).varied e.desk.fileName s.state =
        { e with pool := pool, session := e.session.map (·.withState s.state) } := rfl
  refine ⟨⟨e.desk.fileName, s.state, ?_⟩, halike.sources.congr rfl rfl, halike.packs⟩
  rw [hvaried, hsame]

/-- The law of an execution in a state with a live session. -/
structure Staged (e : Executor) (t : Trail) (op : Operation) (s : Session) : Prop where
  /-- If the script cannot be pre-processed, that failure is the answer, the engine is not called,
  and the executor is as it was. -/
  script : ∀ f, e.ScriptFails t op f →
    (e.perform t op).answer = .error f ∧ submitted ⟨e, t, op⟩ = [] ∧ (e.perform t op).state = e
  /-- If the script is given as text and the current directory cannot be read once it is
  pre-processed, the same holds but for what the pre-processor keeps. -/
  place : ∀ f, e.PlaceFails t op f →
    (e.perform t op).answer = .error f ∧ submitted ⟨e, t, op⟩ = [] ∧
      ∃ pool, (e.perform t op).state = { e with pool := pool }
  /-- If looking for the bundle fails, the same holds but for the name of the script that the
  engine was told and for what the pre-processor keeps, and the bundle is still due. -/
  bundle : ∀ f, e.BundleFails t op f →
    (e.perform t op).answer = .error f ∧ submitted ⟨e, t, op⟩ = [] ∧ s.injected = false ∧
      ∃ pool, (e.perform t op).state =
        { e with
          pool := pool
          desk := { e.desk with fileName := (e.scriptName t.calls op).or e.desk.fileName } }
  /-- If the engine fails, that failure is the answer, and the executor is as it would be with any
  other answer of the engine. -/
  engine : ∀ f, e.EngineFails t op f →
    (e.perform t op).answer = .error f ∧
      ∀ g : Engine, (({ e with engine := g } : Executor).perform t op).state =
        { (e.perform t op).state with engine := g }
  /-- There is no other failure. -/
  complete : ∀ f, (e.perform t op).answer = .error f →
    e.ScriptFails t op f ∨ e.PlaceFails t op f ∨ e.BundleFails t op f ∨ e.EngineFails t op f
  /-- After a failure of the script, of its place or of the bundle every operation of every run
  comes to the same as without the execution that failed, if the collaborators cannot tell. -/
  following : ∀ f, e.ScriptFails t op f ∨ e.PlaceFails t op f ∨ e.BundleFails t op f → ∀ t',
    e.Alike (e.perform t op).trail.calls t'.calls → ∀ before later,
    (∀ op' ∈ before ++ [later],
      op'.Alike (e.perform t op).trail.calls t'.calls e.toSources) →
    SameTurn
      (turnAfter perform (e.perform t op).state (e.perform t op).trail before later)
      (turnAfter perform { e with pool := (e.perform t op).state.pool } t' before later)

/-- In any state with a live session, an execution fails in stages. -/
theorem failures_staged {s : Session} (hsession : e.session = some s) (hphase : s.phase = .started)
    (hop : op.isExecution = true) (t : Trail) : Staged e t op s := by
  have hlive : e.liveSession = .ok s := liveSession_eq_ok_iff.mpr ⟨hsession, hphase⟩
  have hscript : ∀ f, e.ScriptFails t op f →
      (e.perform t op).answer = .error f ∧ submitted ⟨e, t, op⟩ = [] ∧
        (e.perform t op).state = e := by
    intro f hfails
    obtain ⟨hanswer, hstate, hmade⟩ := perform_of_scriptFails hlive hfails
    exact ⟨hanswer, submitted_of_scriptCalls hmade, hstate⟩
  constructor
  case script => exact hscript
  case place => exact fun f => perform_of_placeFails
  case bundle =>
    intro f hfails
    obtain ⟨hanswer, hsubmitted, hstate⟩ := perform_of_bundleFails hfails
    obtain ⟨p, hp, hinjected, -⟩ := hfails
    have hsame := (perform_eq_run hp).1
    rw [hsession] at hsame
    cases hsame
    exact ⟨hanswer, hsubmitted, hinjected, hstate⟩
  case engine =>
    intro f hfails
    exact ⟨answer_of_engineFails hfails, state_of_engine hop⟩
  case complete => exact fun f => stage_of_failure hop hlive
  case following =>
    intro f hfails t' halike before later hops
    have hstate : ∃ pool name, (e.perform t op).state =
        { e with pool := pool, desk := { e.desk with fileName := name } } := by
      rcases hfails with hfails | hfails | hfails
      · exact ⟨e.pool, e.desk.fileName, (hscript f hfails).2.2⟩
      · obtain ⟨-, -, pool, heq⟩ := perform_of_placeFails hfails
        exact ⟨pool, e.desk.fileName, heq⟩
      · obtain ⟨-, -, pool, heq⟩ := perform_of_bundleFails hfails
        exact ⟨pool, _, heq⟩
    obtain ⟨pool, name, heq⟩ := hstate
    rw [heq]
    have htwins : Twins { e with pool := pool, desk := { e.desk with fileName := name } }
        (e.perform t op).trail { e with pool := pool } t' := twins_of_told hsession halike
    refine (htwins.turnAfter ?_).1
    intro op' hop'
    exact (hops op' hop').inStep rfl (.refl _ _)

/-- Whether a call asks whether a file exists. -/
def isProbe : Call → Bool
  | .probe _ => true
  | _ => false

/-- A file system that fails the first time that it is asked whether a file exists. -/
def stumbling : FileSystem :=
  { sampleTable.fileSystem "stumbling" with
    fileExists := fun calls path =>
      if calls.any isProbe then .ok (sampleTable.files.get? path).isSome
      else .error (.raised ⟨"OSError", path⟩) }

/-- An executor with a live session over that file system. -/
def stumblingSample : Executor :=
  { sample with
    fileSystem := stumbling
    session := some ((Session.new [] []).start .empty).state }

/-- An execution of a script file of the sample folder. -/
def stumblingScript : Operation := .execute "packages/lib.csx" []

/-- The file system cannot tell two journals with a probe in each apart. -/
theorem stumblingSample_alike {calls calls' : List Call} (h : calls.any isProbe = true)
    (h' : calls'.any isProbe = true) : stumblingSample.Alike calls calls' := by
  have hany : ∀ (cs : List Call) {ds : List Call}, ds.any isProbe = true →
      (cs ++ ds).any isProbe = true := by
    intro cs ds hds
    rw [List.any_append, hds, Bool.or_true]
  refine ⟨⟨fun _ _ _ _ => rfl, fun _ _ _ _ => rfl, fun _ _ _ => rfl, ?_⟩, ?_⟩
  · intro path cs cs' _
    simp only [stumblingSample, stumbling, hany cs h, hany cs' h']
  · intro s hs q hq
    cases hs
    cases hq

/-- In the sample the first execution fails in looking for the bundle.  The next one has the bundle
nevertheless, as it has if the file system failed in another probe before. -/
theorem staged_in_sample :
    ∃ s, stumblingSample.session = some s ∧ s.phase = .started ∧
      stumblingSample.BundleFails .empty stumblingScript
        (.raised ⟨"OSError", "/work/packages/packages/lib.csx"⟩) ∧
      (stumblingSample.perform .empty stumblingScript).state.desk.fileName = some "lib.csx" ∧
      codes (turnAfter perform stumblingSample .empty [stumblingScript]
        (.executeText "one();" [])) = ["lib();\none();"] ∧
      SameTurn
        (turnAfter perform (stumblingSample.perform .empty stumblingScript).state
          (stumblingSample.perform .empty stumblingScript).trail [] (.executeText "one();" []))
        (turnAfter perform stumblingSample (Trail.empty.call (.probe "/")) []
          (.executeText "one();" [])) := by
  have hfails : stumblingSample.BundleFails .empty stumblingScript
      (.raised ⟨"OSError", "/work/packages/packages/lib.csx"⟩) := ⟨_, rfl, rfl, rfl⟩
  have hstaged : Staged stumblingSample .empty stumblingScript
      ((Session.new [] []).start .empty).state := failures_staged rfl rfl rfl .empty
  refine ⟨_, rfl, rfl, hfails, rfl, rfl, ?_⟩
  refine hstaged.following _ (.inr (.inr hfails)) _ (stumblingSample_alike rfl rfl) [] _ ?_
  intro op hop
  rw [List.nil_append, List.mem_singleton] at hop
  rw [hop]
  trivial

end Executor

end ScriptHost
