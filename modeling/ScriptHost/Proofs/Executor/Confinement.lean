import ScriptHost.Proofs.Executor.Custody
import ScriptHost.Proofs.Executor.Descent

/-!
# Nothing runs outside a session

The engine, the pre-processor and the file system are only ever called for a session that has
started completely and has not ended.  A session is in the executor before it has started, it stays
there when its start fails and when it has ended, and another may take its place; so what is known
of a live session is carried through the whole run: it is the one that the last founding made and
started without a failure, the hooks called since are the start hooks of all its packs and then
their contexts, and the engine is pointed at the folders as that founding read them, whatever has
become of the file system since.

## Main results

* `grounded_perform` — what is known of a live session, after one operation of any kind.
* `calls_cases` — a turn calls hooks at most, or it is an execution in a live session.
* `confinement` — the law of a whole run.
-/

namespace ScriptHost

open Sequence (Supplied)

theorem hookCalls_of_hooks {cs : List Call} (h : ∀ c ∈ cs, c.isHook = true) : hookCalls cs = cs :=
  List.filter_eq_self.mpr h

/-- A start without a failure starts all packs in order and then asks all of them for their
contexts. -/
theorem Session.started_of_answer {s : Session} {t : Trail} (hphase : s.phase = .notStarted)
    (h : (s.start t).answer = .ok ()) :
    (s.start t).state.started = s.started ++ s.packs ∧
      Trail.Made (startCalls s.packs ++ contextCalls s.packs) t (s.start t).trail := by
  cases hattempt : attemptFailure? s.packs t.calls with
  | some f =>
      rw [(start_of_attemptFailure hphase hattempt).1] at h
      cases h
  | none =>
      obtain ⟨-, -, -, -, hstarted, hmade⟩ := start_of_attempt hphase hattempt
      exact ⟨hstarted, hmade⟩

namespace Executor

/-! ## The turn that founded a live session -/

/-- What is known of a live session and of the turn that founded it. -/
structure Grounded (past : List (Turn Executor Operation)) (e : Executor) (t : Trail) (s : Session)
    (x : Turn Executor Operation) : Prop where
  begun : ∃ t₁, Begun past t s x t₁
  operation : ∃ paths, x.operation = .start paths s.packs s.arguments
  answer : (x.step perform).answer = .ok none
  kept : ∃ born, (x.step perform).state.session = some born ∧ s.cleared = born.cleared
  pointed : e.desk.PointsAt x.state.fileSystem x.trail.calls

/-- Of a live session it is known which turn founded it. -/
def Settled (past : List (Turn Executor Operation)) (e : Executor) (t : Trail) : Prop :=
  ∀ s, e.session = some s → s.phase = .started → ∃ x, Grounded past e t s x

/-- A turn through which a session goes on keeps what is known of it. -/
theorem Grounded.next {past : List (Turn Executor Operation)} {e : Executor} {t : Trail}
    {op : Operation} {s s' : Session} {x : Turn Executor Operation} (h : Grounded past e t s x)
    (hgoes : Continues e t op s s') :
    Grounded (past ++ [⟨e, t, op⟩]) (e.perform t op).state (e.perform t op).trail s' x := by
  obtain ⟨t₁, hbegun⟩ := h.begun
  obtain ⟨paths, hoperation⟩ := h.operation
  obtain ⟨born, hborn, hkept⟩ := h.kept
  obtain ⟨hpacks, harguments, -, -⟩ := Session.parts_of_cleared hgoes.cleared
  obtain ⟨cs, hmade, hquiet⟩ := hgoes.quiet
  constructor
  case begun => exact ⟨t₁, hbegun.next hgoes.founds hgoes.cleared hmade hquiet⟩
  case operation => exact ⟨paths, by rw [hoperation, hpacks, harguments]⟩
  case answer => exact h.answer
  case kept => exact ⟨born, hborn, hgoes.cleared.trans hkept⟩
  case pointed => exact h.pointed.congr hgoes.base hgoes.cache

/-- What is known of a live session is known after any operation: the session was founded just now,
or it went on. -/
theorem grounded_perform (past : List (Turn Executor Operation)) (e : Executor) (t : Trail)
    (op : Operation) (h : Settled past e t) :
    Settled (past ++ [⟨e, t, op⟩]) (e.perform t op).state (e.perform t op).trail := by
  intro s' hs' hphase
  rcases live_cases hs' hphase with
    ⟨paths, packs, arguments, g, t₁, rfl, hfounding, hmade, heq⟩ | ⟨s, hgoes⟩
  · have hpointed := pointed_of_founding hfounding
    have hfs : g.fileSystem = e.fileSystem :=
      congrArg Sources.fileSystem (founding_frame hfounding).2.1
    rw [heq] at hs' ⊢
    cases hs'
    obtain ⟨hpacks, harguments⟩ := (Session.new packs arguments).start_kept t₁
    refine ⟨⟨e, t, .start paths packs arguments⟩, ?_⟩
    constructor
    case begun => exact ⟨t₁, begun_of_founding hfounding hmade hphase⟩
    case operation => exact ⟨paths, by rw [hpacks, harguments]; rfl⟩
    case answer =>
      have hanswer := answer_of_started hphase
      rw [Turn.step, heq, Step.map, Step.lift, hanswer]
      rfl
    case kept => exact ⟨_, by rw [Turn.step, heq]; rfl, rfl⟩
    case pointed =>
      rw [hfs] at hpointed
      exact hpointed
  · have hphase' := (Session.parts_of_cleared hgoes.cleared).2.2.2
    obtain ⟨x, hx⟩ := h s hgoes.session (hphase'.symm.trans hphase)
    exact ⟨x, hx.next hgoes⟩

theorem settled_new {e : Executor} (hnone : e.session = none) (t : Trail) : Settled [] e t := by
  intro s hs
  rw [hnone] at hs
  cases hs

/-! ## Calls on other collaborators than packs -/

/-- An operation that is no execution calls hooks at most. -/
theorem hooks_of_not_execution {e : Executor} {t : Trail} {op : Operation}
    (hop : op.isExecution = false) :
    ∃ cs, Trail.Made cs t (e.perform t op).trail ∧ ∀ c ∈ cs, c.isHook = true := by
  cases op with
  | change edit => exact ⟨[], (e.apply_frame t edit).2.2.2.2, nofun⟩
  | start paths packs arguments =>
      cases hfounding : e.founding t.calls paths with
      | error f => exact ⟨[], (start_of_founding_error hfounding packs arguments).2.2.2, nofun⟩
      | ok g =>
          obtain ⟨t₁, hmade, heq⟩ := start_of_founding hfounding packs arguments
          obtain ⟨cs, hmade', hhooks⟩ := (Session.new packs arguments).start_hooks t₁
          rw [perform, heq]
          exact ⟨[] ++ cs, hmade.trans hmade', hhooks⟩
  | reset =>
      rw [perform]
      rcases e.reset_cases t with ⟨-, heq⟩ | ⟨s, -, -, heq⟩ | ⟨s, -, -, heq⟩ <;>
      · rw [heq]
        exact ⟨[], .refl t, nofun⟩
  | stop =>
      rw [perform]
      rcases e.stop_cases t with ⟨-, heq⟩ | ⟨s, t₁, -, hmade, heq⟩
      · rw [heq]
        exact ⟨[], .refl t, nofun⟩
      · obtain ⟨cs, hmade', hhooks⟩ := s.stop_hooks t₁
        rw [heq]
        exact ⟨[] ++ cs, hmade.trans hmade', hhooks⟩
  | surround fileSystem => exact ⟨[], .refl t, nofun⟩
  | execute script arguments => cases hop
  | executeText text arguments => cases hop

/-- A turn calls hooks at most, or it is an execution in a live session and calls none. -/
theorem calls_cases (y : Turn Executor Operation) :
    (∃ cs, Trail.Made cs y.trail (y.step perform).trail ∧ ∀ c ∈ cs, c.isHook = true) ∨
    ∃ s cs, y.state.liveSession = .ok s ∧ Trail.Made cs y.trail (y.step perform).trail ∧
      hookCalls cs = [] := by
  obtain ⟨e, t, op⟩ := y
  cases hop : op.isExecution with
  | false => exact .inl (hooks_of_not_execution hop)
  | true =>
      cases hlive : e.liveSession with
      | error f =>
          rw [Turn.step, perform_of_not_live hop hlive t]
          exact .inl ⟨[], .refl t, fun c hc => absurd hc List.not_mem_nil⟩
      | ok s =>
          obtain ⟨-, cs, -, -, hmade, hquiet⟩ := goes_on_of_execution op hop hlive t
          exact .inr ⟨s, cs, rfl, hmade, hquiet⟩

/-! ## The law of a run -/

/-- What holds of the session that a turn finds, and of the turn that founded it, if the session has
started completely and has not ended. -/
structure Hosted (past : List (Turn Executor Operation)) (y x : Turn Executor Operation)
    (s : Session) : Prop where
  session : y.state.session = some s
  phase : s.phase = .started
  /-- No session was founded since. -/
  founded : lastFounding past = some x
  operation : ∃ paths, x.operation = .start paths s.packs s.arguments
  answer : (x.step perform).answer = .ok none
  /-- Nothing has changed about the session since but what a reset restores. -/
  kept : ∃ born, (x.step perform).state.session = some born ∧ s.cleared = born.cleared
  /-- All packs have started, and all of them are recorded. -/
  started : s.started = s.packs
  /-- From the founding to the end of the turn all packs were started in order, then all were asked
  for their contexts, and no pack was asked to stop. -/
  hooks : hookCalls ((y.step perform).trail.callsSince x.trail) =
    Session.startCalls s.packs ++ Session.contextCalls s.packs
  /-- The engine is pointed at the folders as the founding read them. -/
  pointed : y.state.desk.PointsAt x.state.fileSystem x.trail.calls

/-- A turn that finds a live session of which it is known how it has begun, and calls no hook, is
hosted by that session. -/
theorem Grounded.hosted {past : List (Turn Executor Operation)} {y x : Turn Executor Operation}
    {s : Session} {cs : List Call} (h : Grounded past y.state y.trail s x)
    (hlive : y.state.liveSession = .ok s)
    (hmade : Trail.Made cs y.trail (y.step perform).trail) (hquiet : hookCalls cs = []) :
    Hosted past y x s := by
  obtain ⟨hsession, hphase⟩ := liveSession_eq_ok_iff.mp hlive
  obtain ⟨t₁, hfounding, hmade₁, hanswer, hcleared, ds, hmade₂, hnone⟩ := h.begun
  obtain ⟨hstarted, hmadeStart⟩ := Session.started_of_answer (s := s.unstarted) rfl hanswer
  constructor
  case session => exact hsession
  case phase => exact hphase
  case founded => exact hfounding
  case operation => exact h.operation
  case answer => exact h.answer
  case kept => exact h.kept
  case started => exact (Session.parts_of_cleared hcleared).2.2.1.trans hstarted
  case hooks =>
    have hall := ((hmade₁.trans hmadeStart).trans hmade₂).trans hmade
    have hhooks : hookCalls (Session.startCalls s.packs ++ Session.contextCalls s.packs) =
        Session.startCalls s.packs ++ Session.contextCalls s.packs := by
      apply hookCalls_of_hooks
      intro c hc
      rcases List.mem_append.mp hc with hc | hc
      · exact Session.isHook_startCalls hc
      · exact Session.isHook_contextCalls hc
    rw [hall.callsSince, hookCalls_append, hookCalls_append, hookCalls_append, hnone, hquiet,
      List.append_nil, List.append_nil]
    exact hhooks
  case pointed => exact h.pointed

/-- The law of everything that is called in a run besides the hooks of packs. -/
structure ConfinementLaw (run : List (Turn Executor Operation)) : Prop where
  /-- The engine, the pre-processor and the file system are called for a session that has started
  completely and has not ended. -/
  confined : ∀ past y rest, run = past ++ y :: rest →
    ∀ c ∈ (y.step perform).trail.callsSince y.trail, c.isHook = false → ∃ x s, Hosted past y x s
  /-- The engine is handed that session, which is still the one of the executor, and which the
  bundle was looked up for. -/
  engine : ∀ past y rest, run = past ++ y :: rest → ∀ sub ∈ submitted y, ∃ x s,
    Hosted past y x s ∧ (y.step perform).state.session = some (Splice.marked s) ∧
      sub.session = (Splice.marked s).toSessionView ∧
      sub.desk.PointsAt x.state.fileSystem x.trail.calls

/-- Over a whole run of a new executor, with hooks, a pre-processor, an engine and file systems that
fail or not at each call, nothing but hooks is called outside a session. -/
theorem confinement {fs : Option FileSystem} {pp : PreProcessor} {engine : Engine} {file : String}
    {references namespaces : List String} {e : Executor}
    (hnew : new fs pp engine file references namespaces = .ok e) (t : Trail)
    (ops : List Operation) : ConfinementLaw (turns perform e t ops) := by
  have hsettled : ∀ {past y rest}, turns perform e t ops = past ++ y :: rest →
      Settled past y.state y.trail := by
    intro past y rest hrun
    exact past_invariant perform (P := Settled) grounded_perform
      (settled_new (new_eq_ok hnew).1 t) hrun
  constructor
  case confined =>
    intro past y rest hrun c hc hhook
    rcases calls_cases y with ⟨cs, hmade, hhooks⟩ | ⟨s, cs, hlive, hmade, hquiet⟩
    · rw [hmade.callsSince] at hc
      rw [hhooks c hc] at hhook
      cases hhook
    · obtain ⟨hsession, hphase⟩ := liveSession_eq_ok_iff.mp hlive
      obtain ⟨x, hx⟩ := hsettled hrun s hsession hphase
      exact ⟨x, s, hx.hosted hlive hmade hquiet⟩
  case engine =>
    intro past y rest hrun sub hsub
    obtain ⟨p, c, hp, hc, -, rfl⟩ := composed_of_submitted hsub
    have hlive := (prepare_cases hp).1
    obtain ⟨hsession, hphase⟩ := liveSession_eq_ok_iff.mp hlive
    obtain ⟨cs, hmade, hquiet⟩ := hooks_of_prepared hp
    obtain ⟨x, hx⟩ := hsettled hrun p.session hsession hphase
    obtain ⟨pool, hexecutor, hmarked⟩ := compose_executor hc
    have hstate : (y.step perform).state = c.merged := (perform_of_composed hp hc).2.1
    refine ⟨x, p.session, hx.hosted hlive hmade hquiet, ?_, ?_, ?_⟩
    · rw [hstate, Composed.merged, hexecutor]
    · rw [Composed.submission, hmarked]
      rfl
    · apply hx.pointed.congr
      · rw [Composed.submission, Composed.merged, hexecutor]
        rfl
      · rw [Composed.submission, Composed.merged, hexecutor]
        rfl

/-- The sample folder once another directory is current. -/
def elsewhere : FileSystem :=
  ({ sampleTable with currentDirectory := some "/else" } : FileTable).fileSystem "table"

/-- A session that fails to start, one that starts, and scripts before, between and behind them. -/
def confinedRun : List Operation :=
  [.executeText "early();" [], .start (.list []) [calm, broken] [], .executeText "two();" [],
    .start (.list []) [calm] [], .surround elsewhere, .executeText "three();" [], .stop,
    .executeText "late();" []]

/-- In the sample run the engine is called once, for the script that stands in the session that
started, and in the folder that was current when it started. -/
theorem confined_in_sample :
    new (some (sampleTable.fileSystem "table")) .passthrough .dryRun "lib.csx" [] [] = .ok sample ∧
      (turns perform sample .empty confinedRun).map (fun x => (submitted x).map Submission.code) =
        [[], [], [], [], [], ["three();"], [], []] ∧
      ((turns perform sample .empty confinedRun).flatMap submitted).map
          (fun sub => sub.desk.baseDirectory) = [some "/work/bin"] ∧
      ConfinementLaw (turns perform sample .empty confinedRun) := by
  have hnew : new (some (sampleTable.fileSystem "table")) .passthrough .dryRun "lib.csx" [] [] =
      .ok sample := rfl
  exact ⟨hnew, rfl, rfl, confinement hnew .empty confinedRun⟩

end Executor

end ScriptHost
