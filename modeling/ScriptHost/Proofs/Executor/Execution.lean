import ScriptHost.Proofs.Executor.Operation

/-!
# Executions

An execution has two halves.  It is *prepared* once the session is live, the pre-processor has
answered for the script, and it is known in which directory the bundle is looked for; it then
*composes* the script with the bundle, if the bundle is due, and submits the result to the engine.
An execution that is not prepared has no live session, or its script cannot be pre-processed, or it
is a *stray*: a text that was pre-processed while the current directory cannot be read.

## Main results

* `prepare_cases` — what is known of a prepared execution.
* `perform_of_prepared` — a prepared execution fails in looking for the bundle, or submits what
  was composed.
* `perform_of_scriptFails`, `perform_of_stray`, `perform_of_not_live` — executions that are not
  prepared.
-/

namespace ScriptHost

/-- What an engine receives by a call. -/
def Call.submission? : Call → Option Submission
  | .execute submission => some submission
  | _ => none

/-- What engines receive, in the order of a journal. -/
def received (calls : List Call) : List Submission := calls.filterMap Call.submission?

@[simp] theorem received_append (cs ds : List Call) :
    received (cs ++ ds) = received cs ++ received ds :=
  List.filterMap_append

theorem received_of_hooks {cs : List Call} (h : ∀ c ∈ cs, c.isHook = true) :
    received cs = [] := by
  apply List.filterMap_eq_nil_iff.mpr
  intro c hc
  cases c with
  | execute submission => cases h _ hc
  | _ => rfl

/-- Whether a call is one on the file system or on the pre-processor. -/
def Call.isSource : Call → Bool
  | .probe _ | .processFile _ | .processText _ => true
  | .startPack _ | .startedPack _ | .askContext _ | .stopPack _ | .execute _ => false

/-- What is not about sources is not found in a journal of calls on them. -/
theorem filterMap_of_sources {α : Type} {f : Call → Option α} {cs : List Call}
    (h : cs.all Call.isSource = true) (hf : ∀ c, c.isSource = true → f c = none) :
    cs.filterMap f = [] := by
  apply List.filterMap_eq_nil_iff.mpr
  intro c hc
  exact hf c (List.all_eq_true.mp h c hc)

theorem received_of_sources {cs : List Call} (h : cs.all Call.isSource = true) :
    received cs = [] := by
  apply filterMap_of_sources h
  intro c hsource
  cases c with
  | execute submission => cases hsource
  | _ => rfl

namespace Sources

/-- What looking for the bundle comes to, before the pre-processor's results are received: the
bundle as the pre-processor answers it, if it is there. -/
def lookup (src : Sources) (calls : List Call) (directory : Option String) :
    Except Failure (Option Handout) :=
  match src.libraryPath directory with
  | .error f => .error f
  | .ok path =>
    match src.fileSystem.fileExists calls path with
    | .error f => .error f
    | .ok false => .ok none
    | .ok true =>
      match src.preProcessor.ofFile src.fileSystem (.probe path :: calls) path with
      | .error f => .error f
      | .ok library => .ok (some library)

/-- The calls by which the bundle is looked for: none if its path cannot be told, and a second one
if it is there. -/
def lookupCalls (src : Sources) (calls : List Call) (directory : Option String) : List Call :=
  match src.libraryPath directory with
  | .error _ => []
  | .ok path =>
    match src.fileSystem.fileExists calls path with
    | .ok true => [.probe path, .processFile path]
    | _ => [.probe path]

theorem lookupCalls_source (src : Sources) (calls : List Call) (directory : Option String) :
    (src.lookupCalls calls directory).all Call.isSource = true := by
  unfold lookupCalls
  split
  · rfl
  · split
    · rfl
    · rfl

/-- Loading the bundle is looking for it and receiving it. -/
theorem load_spec (src : Sources) (logger : String) (t : Trail) (directory : Option String) :
    Trail.Made (src.lookupCalls t.calls directory) t (src.load logger t directory).trail ∧
      match src.lookup t.calls directory with
      | .error f => (src.load logger t directory).answer = .error f ∧
          (src.load logger t directory).state = src
      | .ok none => (src.load logger t directory).answer = .ok none ∧
          (src.load logger t directory).state = src
      | .ok (some library) =>
          (src.load logger t directory).answer = .ok (some (src.receive library).1) ∧
            (src.load logger t directory).state = (src.receive library).2 := by
  unfold lookupCalls lookup load
  cases src.libraryPath directory with
  | error f => exact ⟨.refl t, rfl, rfl⟩
  | ok path =>
      cases hexists : src.fileSystem.fileExists t.calls path with
      | error f =>
          simp only [hexists]
          exact ⟨rfl, rfl, rfl⟩
      | ok found =>
          cases found with
          | false =>
              simp only [hexists]
              exact ⟨rfl, rfl, rfl⟩
          | true =>
              simp only [hexists, processFile, Trail.calls_log, Trail.calls_call]
              cases src.preProcessor.ofFile src.fileSystem (.probe path :: t.calls) path with
              | error f => exact ⟨rfl, rfl, rfl⟩
              | ok library => exact ⟨rfl, rfl, rfl⟩

end Sources

namespace Executor

/-! ## Preparing an execution -/

/-- The calls by which an execution has its script pre-processed, given the calls made before: none
if the path of the script cannot be told. -/
def scriptCalls (e : Executor) (calls : List Call) : Operation → List Call
  | .execute script _ =>
    match e.scriptPath calls script with
    | .error _ => []
    | .ok path => [.processFile path]
  | .executeText text _ => [.processText text]
  | _ => []

theorem scriptCalls_source (e : Executor) (calls : List Call) (op : Operation) :
    (e.scriptCalls calls op).all Call.isSource = true := by
  cases op with
  | execute script arguments =>
      simp only [scriptCalls]
      split
      · rfl
      · rfl
  | _ => rfl

/-- An execution whose session is live, whose script is pre-processed, and of which it is known
where the bundle is looked for. -/
structure Prepared where
  session : Session
  /-- The script as the pre-processor answered it. -/
  script : Handout
  /-- Where the bundle is looked for. -/
  directory : Option String
  /-- The file name that the engine is told; a script given as text has none. -/
  fileName : Option String
  arguments : List String
  /-- The trail once the script is pre-processed. -/
  trail : Trail

/-- The preparation of an execution, if the session is live, the script can be pre-processed, and
the current directory can be read for a text.  No other operation is prepared. -/
def prepare (e : Executor) (t : Trail) : Operation → Option Prepared
  | .execute script arguments =>
    match e.liveSession, e.scriptPath t.calls script with
    | .ok session, .ok path =>
      match e.preProcessor.ofFile e.fileSystem t.calls path with
      | .ok answer =>
        some ⟨session, answer, some (Path.ofString path).parent.toString,
          some (Path.ofString path).name, arguments, t.call (.processFile path)⟩
      | .error _ => none
    | _, _ => none
  | .executeText text arguments =>
    match e.liveSession with
    | .ok session =>
      match e.preProcessor.ofText t.calls text with
      | .ok answer =>
        match e.fileSystem.currentDirectory (.processText text :: t.calls) with
        | .ok directory =>
          some ⟨session, answer, directory, none, arguments, t.call (.processText text)⟩
        | .error _ => none
      | .error _ => none
    | .error _ => none
  | _ => none

/-- Only executions with a live session are prepared, once the pre-processor has answered for their
script; for a text the current directory was read then. -/
theorem prepare_cases {e : Executor} {t : Trail} {op : Operation} {p : Prepared}
    (h : e.prepare t op = some p) :
    e.liveSession = .ok p.session ∧
      ((∃ script path, op = .execute script p.arguments ∧
          e.scriptPath t.calls script = .ok path ∧
          e.preProcessor.ofFile e.fileSystem t.calls path = .ok p.script ∧
          p = ⟨p.session, p.script, some (Path.ofString path).parent.toString,
            some (Path.ofString path).name, p.arguments, t.call (.processFile path)⟩) ∨
        ∃ text, op = .executeText text p.arguments ∧
          e.preProcessor.ofText t.calls text = .ok p.script ∧
          e.fileSystem.currentDirectory (.processText text :: t.calls) = .ok p.directory ∧
          p = ⟨p.session, p.script, p.directory, none, p.arguments,
            t.call (.processText text)⟩) := by
  cases op with
  | execute script arguments =>
      simp only [prepare] at h
      split at h
      · next session path hlive hpath =>
        split at h
        · next answer hanswer =>
          cases h
          exact ⟨hlive, .inl ⟨script, path, rfl, hpath, hanswer, rfl⟩⟩
        · cases h
      · cases h
  | executeText text arguments =>
      simp only [prepare] at h
      split at h
      · next session hlive =>
        split at h
        · next answer hanswer =>
          split at h
          · next directory hdirectory =>
            cases h
            exact ⟨hlive, .inr ⟨text, rfl, hanswer, hdirectory, rfl⟩⟩
          · cases h
        · cases h
      · cases h
  | _ => cases h

/-- The executor once an execution is prepared: the script is received, and the engine is told its
file name. -/
def ready (e : Executor) (p : Prepared) : Executor :=
  { e with
    toSources := (e.toSources.receive p.script).2
    desk := { e.desk with fileName := p.fileName.or e.desk.fileName } }

/-- What looking for the bundle comes to in a prepared execution. -/
def lookup (e : Executor) (p : Prepared) : Except Failure (Option Handout) :=
  e.toSources.lookup p.trail.calls p.directory

/-- The calls by which a prepared execution looks for the bundle, if it is due. -/
def searchCalls (e : Executor) (p : Prepared) : List Call :=
  if p.session.injected then [] else e.toSources.lookupCalls p.trail.calls p.directory

theorem searchCalls_source (e : Executor) (p : Prepared) :
    (e.searchCalls p).all Call.isSource = true := by
  unfold searchCalls
  split
  · rfl
  · exact Sources.lookupCalls_source _ _ _

/-- What a prepared execution submits, and the executor in which it does so. -/
structure Composed where
  executor : Executor
  session : Session
  script : Preprocessed

/-- The executor with what a composed script declares among its references. -/
def Composed.merged (c : Composed) : Executor :=
  { c.executor with references := c.executor.references.merge c.script.references }

/-- What the engine receives for a composed script. -/
def Composed.submission (c : Composed) (arguments : List String) : Submission :=
  c.merged.submission c.script arguments c.session

/-- Composes the script of a prepared execution with the bundle, if it is due and there is one. -/
def compose (e : Executor) (p : Prepared) : Except Failure Composed :=
  let script := (e.toSources.receive p.script).1
  if p.session.injected then
    .ok ⟨{ e.ready p with session := some p.session }, p.session, script.content⟩
  else
    match e.lookup p with
    | .error f => .error f
    | .ok none =>
      .ok ⟨{ e.ready p with session := some (Splice.marked p.session) },
        Splice.marked p.session, script.content⟩
    | .ok (some answer) =>
      let library := (e.ready p).toSources.receive answer
      let spliced := library.2.revise script (script.content.withLibrary library.1.content)
      .ok ⟨{ e.ready p with toSources := spliced.2, session := some (Splice.marked p.session) },
        Splice.marked p.session, spliced.1.content⟩

theorem compose_of_injected {e : Executor} {p : Prepared} (h : p.session.injected = true) :
    e.compose p = .ok ⟨{ e.ready p with session := some p.session }, p.session,
      (e.toSources.receive p.script).1.content⟩ := by
  simp [compose, h]

theorem compose_of_lookup_error {e : Executor} {p : Prepared} {f : Failure}
    (h : p.session.injected = false) (hl : e.lookup p = .error f) : e.compose p = .error f := by
  simp [compose, h, hl]

theorem compose_of_no_bundle {e : Executor} {p : Prepared}
    (h : p.session.injected = false) (hl : e.lookup p = .ok none) :
    e.compose p = .ok ⟨{ e.ready p with session := some (Splice.marked p.session) },
      Splice.marked p.session, (e.toSources.receive p.script).1.content⟩ := by
  simp [compose, h, hl]

theorem compose_of_bundle {e : Executor} {p : Prepared} {answer : Handout}
    (h : p.session.injected = false) (hl : e.lookup p = .ok (some answer)) :
    e.compose p =
      let script := (e.toSources.receive p.script).1
      let library := (e.ready p).toSources.receive answer
      let spliced := library.2.revise script (script.content.withLibrary library.1.content)
      .ok ⟨{ e.ready p with toSources := spliced.2, session := some (Splice.marked p.session) },
        Splice.marked p.session, spliced.1.content⟩ := by
  simp [compose, h, hl]

/-- Composing fails only while the bundle is due, and only in looking for it. -/
theorem compose_eq_error {e : Executor} {p : Prepared} {f : Failure} (h : e.compose p = .error f) :
    p.session.injected = false ∧ e.lookup p = .error f := by
  cases hinjected : p.session.injected with
  | true =>
      rw [compose_of_injected hinjected] at h
      cases h
  | false =>
      cases hfound : e.lookup p with
      | error g =>
          rw [compose_of_lookup_error hinjected hfound] at h
          cases h
          exact ⟨rfl, rfl⟩
      | ok found =>
          cases found with
          | none =>
              rw [compose_of_no_bundle hinjected hfound] at h
              cases h
          | some answer =>
              rw [compose_of_bundle hinjected hfound] at h
              cases h

/-- Composing changes the pool of the executor that is ready, and marks the session. -/
theorem compose_executor {e : Executor} {p : Prepared} {c : Composed} (h : e.compose p = .ok c) :
    ∃ pool, c.executor =
        { e.ready p with pool := pool, session := some (Splice.marked p.session) } ∧
      c.session = Splice.marked p.session := by
  cases hinjected : p.session.injected with
  | true =>
      have hmarked : Splice.marked p.session = p.session := by rw [Splice.marked, ← hinjected]
      rw [compose_of_injected hinjected] at h
      cases h
      rw [hmarked]
      exact ⟨_, rfl, rfl⟩
  | false =>
      cases hfound : e.lookup p with
      | error f =>
          rw [compose_of_lookup_error hinjected hfound] at h
          cases h
      | ok found =>
          cases found with
          | none =>
              rw [compose_of_no_bundle hinjected hfound] at h
              cases h
              exact ⟨_, rfl, rfl⟩
          | some answer =>
              rw [compose_of_bundle hinjected hfound] at h
              cases h
              exact ⟨_, rfl, rfl⟩

/-- Composing keeps the collaborators; the session is the one of the preparation, marked once the
bundle was looked up. -/
theorem compose_frame {e : Executor} {p : Prepared} {c : Composed} (h : e.compose p = .ok c) :
    c.executor.preProcessor = e.preProcessor ∧ c.executor.libraryFile = e.libraryFile ∧
      c.executor.fileSystem = e.fileSystem ∧ c.executor.engine = e.engine ∧
      c.executor.session = some c.session ∧ c.session = Splice.marked p.session := by
  obtain ⟨pool, hexecutor, hsession⟩ := compose_executor h
  rw [hexecutor, hsession]
  exact ⟨rfl, rfl, rfl, rfl, rfl, rfl⟩

theorem liveSession_eq_ok_iff {e : Executor} {s : Session} :
    e.liveSession = .ok s ↔ e.session = some s ∧ s.phase = .started := by
  unfold liveSession
  cases e.session with
  | none => simp
  | some s' =>
      constructor
      · intro h
        cases hphase : s'.phase with
        | notStarted => simp [hphase] at h
        | ended => simp [hphase] at h
        | started =>
            simp only [hphase, Except.ok.injEq] at h
            exact ⟨congrArg some h, h ▸ hphase⟩
      · rintro ⟨hs, hphase⟩
        cases hs
        simp [hphase]

/-- Running a received script fails in looking for the bundle, or submits what was composed. -/
theorem run_of_prepared (e : Executor) (p : Prepared) :
    ∃ t', Trail.Made (e.searchCalls p) p.trail t' ∧
      (e.ready p).run p.trail (e.toSources.receive p.script).1 p.directory p.arguments p.session =
        match e.compose p with
        | .error f => .error f { e.ready p with session := some p.session } t'
        | .ok c => c.executor.submit t' c.script p.arguments c.session := by
  have hload := (e.ready p).toSources.load_spec logger p.trail p.directory
  have hlookup : (e.ready p).toSources.lookup p.trail.calls p.directory = e.lookup p := rfl
  rw [hlookup] at hload
  simp only [run, Splice.run, compose, searchCalls]
  cases hinjected : p.session.injected with
  | true =>
      refine ⟨p.trail, .refl _, ?_⟩
      simp [Step.ok]
  | false =>
      obtain ⟨hmade, hcase⟩ := hload
      refine ⟨_, hmade, ?_⟩
      cases hfound : e.lookup p with
      | error f =>
          simp only [hfound] at hcase
          simp [hcase.1, hcase.2, Step.error]
      | ok found =>
          cases found with
          | none =>
              simp only [hfound] at hcase
              simp [hcase.1, hcase.2, Step.ok]
          | some library =>
              simp only [hfound] at hcase
              simp [hcase.1, hcase.2, Step.ok]

/-- A prepared execution pre-processes the script and then runs it. -/
theorem perform_eq_run {e : Executor} {t : Trail} {op : Operation} {p : Prepared}
    (h : e.prepare t op = some p) :
    e.session = some p.session ∧ p.session.phase = .started ∧
      Trail.Made (e.scriptCalls t.calls op) t p.trail ∧
      e.perform t op = ((e.ready p).run p.trail (e.toSources.receive p.script).1 p.directory
        p.arguments p.session).map some := by
  obtain ⟨hlive, hcases⟩ := prepare_cases h
  obtain ⟨hsession, hphase⟩ := liveSession_eq_ok_iff.mp hlive
  rcases hcases with
    ⟨script, path, rfl, hpath, hanswer, hp⟩ | ⟨text, rfl, hanswer, hdirectory, hp⟩
  · rw [hp]
    simp only [scriptCalls, perform, execute, hlive, hpath, Sources.processFile, hanswer, Step.ok]
    exact ⟨hsession, hphase, rfl, rfl⟩
  · have hread : (e.toSources.receive p.script).2.fileSystem.currentDirectory
        (t.call (.processText text)).calls = .ok p.directory := hdirectory
    rw [hp]
    simp only [perform, executeText, hlive, Sources.processText, hanswer, Step.ok, hread]
    exact ⟨hsession, hphase, rfl, rfl⟩

/-- A prepared execution looks for the bundle if it is due, and then fails or submits what was
composed. -/
theorem perform_of_search {e : Executor} {t : Trail} {op : Operation} {p : Prepared}
    (h : e.prepare t op = some p) :
    ∃ t', Trail.Made (e.searchCalls p) p.trail t' ∧
      e.perform t op =
        match e.compose p with
        | .error f => .error f { e.ready p with session := some p.session } t'
        | .ok c => (c.executor.submit t' c.script p.arguments c.session).map some := by
  obtain ⟨-, -, -, hrun⟩ := perform_eq_run h
  obtain ⟨t', hmade, heq⟩ := run_of_prepared e p
  refine ⟨t', hmade, ?_⟩
  rw [hrun, heq]
  cases e.compose p with
  | error f => rfl
  | ok c => rfl

/-- A composed script is merged into the executor and handed to the engine, which has the last
call; the answer is the engine's. -/
theorem perform_of_composed {e : Executor} {t : Trail} {op : Operation} {p : Prepared}
    {c : Composed} (h : e.prepare t op = some p) (hc : e.compose p = .ok c) :
    (e.perform t op).answer =
        (e.engine.run ((e.searchCalls p).reverse ++ p.trail.calls)
          (c.submission p.arguments)).map some ∧
      (e.perform t op).state = c.merged ∧
      Trail.Made (e.searchCalls p ++ [.execute (c.submission p.arguments)]) p.trail
        (e.perform t op).trail := by
  obtain ⟨t', hmade, heq⟩ := perform_of_search h
  rw [heq, hc]
  have hengine : c.executor.engine = e.engine := (compose_frame hc).2.2.2.1
  have hsubmit : Trail.Made [.execute (c.submission p.arguments)] t'
      (c.executor.submit t' c.script p.arguments c.session).trail := rfl
  refine ⟨?_, rfl, hmade.trans hsubmit⟩
  have hcalls : t'.calls = (e.searchCalls p).reverse ++ p.trail.calls := hmade
  rw [← hcalls, ← hengine]
  rfl

/-- A prepared execution fails in looking for the bundle, or submits what was composed. -/
theorem perform_of_prepared {e : Executor} {t : Trail} {op : Operation} {p : Prepared}
    (h : e.prepare t op = some p) :
    ∃ t', (∃ cs, Trail.Made cs t t' ∧ cs.all Call.isSource = true) ∧
      e.perform t op =
        match e.compose p with
        | .error f => .error f { e.ready p with session := some p.session } t'
        | .ok c => (c.executor.submit t' c.script p.arguments c.session).map some := by
  obtain ⟨-, -, hmade, -⟩ := perform_eq_run h
  obtain ⟨t', hmade', heq⟩ := perform_of_search h
  refine ⟨t', ⟨e.scriptCalls t.calls op ++ e.searchCalls p, hmade.trans hmade', ?_⟩, heq⟩
  rw [List.all_append, scriptCalls_source, searchCalls_source]
  rfl

/-! ## Executions that are not prepared -/

/-- Whether an operation is an execution. -/
def Operation.isExecution : Operation → Bool
  | .execute _ _ | .executeText _ _ => true
  | _ => false

/-- Whether the script of an execution cannot be pre-processed: its path cannot be told, or the
pre-processor fails. -/
def ScriptFails (e : Executor) (t : Trail) : Operation → Failure → Prop
  | .execute script _, f =>
    e.scriptPath t.calls script = .error f ∨
      ∃ path, e.scriptPath t.calls script = .ok path ∧
        e.preProcessor.ofFile e.fileSystem t.calls path = .error f
  | .executeText text _, f => e.preProcessor.ofText t.calls text = .error f
  | _, _ => False

/-- The script of a stray and the fault with which it ends: the session is live and the text is
pre-processed, but the current directory cannot be read. -/
def stray (e : Executor) (t : Trail) : Operation → Option (Handout × Fault)
  | .executeText text _ =>
    match e.liveSession, e.preProcessor.ofText t.calls text,
      e.fileSystem.currentDirectory (.processText text :: t.calls) with
    | .ok _, .ok answer, .error fault => some (answer, fault)
    | _, _, _ => none
  | _ => none

/-- The results that the pre-processor keeps once the script of a stray was received, if the
operation is one. -/
def strayPool (e : Executor) (t : Trail) (op : Operation) : Pool :=
  match e.stray t op with
  | some (answer, _) => (e.pool.receive answer).2
  | none => e.pool

theorem stray_eq_some {e : Executor} {t : Trail} {op : Operation} {answer : Handout}
    {fault : Fault} (h : e.stray t op = some (answer, fault)) :
    ∃ text arguments s, op = .executeText text arguments ∧ e.liveSession = .ok s ∧
      e.preProcessor.ofText t.calls text = .ok answer ∧
      e.fileSystem.currentDirectory (.processText text :: t.calls) = .error fault := by
  cases op with
  | executeText text arguments =>
      simp only [stray] at h
      split at h
      · next s found place hlive hanswer hdirectory =>
        cases h
        exact ⟨text, arguments, s, rfl, hlive, hanswer, hdirectory⟩
      · cases h
  | _ => cases h

/-- A live execution that is not prepared has a script that cannot be pre-processed, or is a
stray. -/
theorem fails_of_not_prepared {e : Executor} {t : Trail} {op : Operation} {s : Session}
    (hop : op.isExecution = true) (hlive : e.liveSession = .ok s) (h : e.prepare t op = none) :
    (∃ f, e.ScriptFails t op f) ∨ ∃ answer fault, e.stray t op = some (answer, fault) := by
  cases op with
  | execute script arguments =>
      cases hpath : e.scriptPath t.calls script with
      | error f => exact .inl ⟨f, .inl hpath⟩
      | ok path =>
          cases hanswer : e.preProcessor.ofFile e.fileSystem t.calls path with
          | ok answer => simp [prepare, hlive, hpath, hanswer] at h
          | error f => exact .inl ⟨f, .inr ⟨path, hpath, hanswer⟩⟩
  | executeText text arguments =>
      cases hanswer : e.preProcessor.ofText t.calls text with
      | error f => exact .inl ⟨f, hanswer⟩
      | ok answer =>
          cases hdirectory : e.fileSystem.currentDirectory (.processText text :: t.calls) with
          | ok directory => simp [prepare, hlive, hanswer, hdirectory] at h
          | error fault =>
              refine .inr ⟨answer, fault, ?_⟩
              simp only [stray, hlive, hanswer, hdirectory]
  | change edit => cases hop
  | start paths packs arguments => cases hop
  | reset => cases hop
  | stop => cases hop
  | surround fileSystem => cases hop

/-- An execution whose script cannot be pre-processed fails in the same way, and leaves the
executor as it was. -/
theorem perform_of_scriptFails {e : Executor} {t : Trail} {op : Operation} {s : Session}
    {f : Failure} (hlive : e.liveSession = .ok s) (h : e.ScriptFails t op f) :
    (e.perform t op).answer = .error f ∧ (e.perform t op).state = e ∧
      Trail.Made (e.scriptCalls t.calls op) t (e.perform t op).trail := by
  cases op with
  | execute script arguments =>
      rcases h with hpath | ⟨path, hpath, hanswer⟩
      · simp only [perform, execute, hlive, hpath, scriptCalls]
        exact ⟨rfl, rfl, .refl t⟩
      · simp only [perform, execute, hlive, hpath, Sources.processFile, hanswer, scriptCalls]
        exact ⟨rfl, rfl, rfl⟩
  | executeText text arguments =>
      have hanswer : e.preProcessor.ofText t.calls text = .error f := h
      simp only [perform, executeText, hlive, Sources.processText, hanswer]
      exact ⟨rfl, rfl, rfl⟩
  | change edit => exact h.elim
  | start paths packs arguments => exact h.elim
  | reset => exact h.elim
  | stop => exact h.elim
  | surround fileSystem => exact h.elim

/-- A script that cannot be pre-processed is received by nobody. -/
theorem stray_of_scriptFails {e : Executor} {t : Trail} {op : Operation} {f : Failure}
    (h : e.ScriptFails t op f) : e.stray t op = none := by
  cases hstray : e.stray t op with
  | none => rfl
  | some found =>
      obtain ⟨text, arguments, s, rfl, -, hanswer, -⟩ := stray_eq_some hstray
      have hfails : e.preProcessor.ofText t.calls text = .error f := h
      rw [hanswer] at hfails
      cases hfails

/-- A stray fails with the fault of reading the current directory, and nothing changes but what the
pre-processor keeps. -/
theorem perform_of_stray {e : Executor} {t : Trail} {op : Operation} {answer : Handout}
    {fault : Fault} (h : e.stray t op = some (answer, fault)) :
    (e.perform t op).answer = .error (.raised fault) ∧
      (e.perform t op).state = { e with pool := e.strayPool t op } ∧
      Trail.Made (e.scriptCalls t.calls op) t (e.perform t op).trail := by
  rw [strayPool, h]
  obtain ⟨text, arguments, s, rfl, hlive, hanswer, hdirectory⟩ := stray_eq_some h
  have hread : (e.toSources.receive answer).2.fileSystem.currentDirectory
      (t.call (.processText text)).calls = .error fault := hdirectory
  simp only [perform, executeText, hlive, Sources.processText, hanswer, Step.ok, hread]
  exact ⟨rfl, rfl, rfl⟩

/-- An execution without a live session is refused. -/
theorem perform_of_not_live {e : Executor} {op : Operation} {f : Failure}
    (hop : op.isExecution = true) (h : e.liveSession = .error f) (t : Trail) :
    e.perform t op = .error f e t := by
  cases op with
  | execute script arguments =>
      rw [perform, execute_of_no_session h]
      rfl
  | executeText text arguments =>
      rw [perform, executeText_of_no_session h]
      rfl
  | change edit => cases hop
  | start paths packs arguments => cases hop
  | reset => cases hop
  | stop => cases hop
  | surround fileSystem => cases hop

theorem stray_of_not_live {e : Executor} {f : Failure} (h : e.liveSession = .error f) (t : Trail)
    (op : Operation) : e.stray t op = none := by
  cases hstray : e.stray t op with
  | none => rfl
  | some found =>
      obtain ⟨text, arguments, s, rfl, hlive, -, -⟩ := stray_eq_some hstray
      rw [h] at hlive
      cases hlive

/-- An execution that is not prepared fails and leaves the executor as it was, but for what the
pre-processor keeps of a stray. -/
theorem execution_of_not_prepared {e : Executor} {t : Trail} {op : Operation}
    (hop : op.isExecution = true) (h : e.prepare t op = none) :
    (∃ f, (e.perform t op).answer = .error f) ∧
      (e.perform t op).state = { e with pool := e.strayPool t op } ∧
      ∃ cs, Trail.Made cs t (e.perform t op).trail ∧ cs.all Call.isSource = true := by
  cases hlive : e.liveSession with
  | error f =>
      rw [perform_of_not_live hop hlive t, strayPool, stray_of_not_live hlive]
      exact ⟨⟨f, rfl⟩, rfl, [], .refl t, rfl⟩
  | ok s =>
      rcases fails_of_not_prepared hop hlive h with ⟨f, hfails⟩ | ⟨answer, fault, hstray⟩
      · obtain ⟨hanswer, hstate, hmade⟩ := perform_of_scriptFails hlive hfails
        rw [strayPool, stray_of_scriptFails hfails]
        exact ⟨⟨f, hanswer⟩, hstate, _, hmade, e.scriptCalls_source t.calls op⟩
      · obtain ⟨hanswer, hstate, hmade⟩ := perform_of_stray hstray
        exact ⟨⟨_, hanswer⟩, hstate, _, hmade, e.scriptCalls_source t.calls op⟩

end Executor

end ScriptHost
