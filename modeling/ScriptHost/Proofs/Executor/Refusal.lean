import ScriptHost.Proofs.Executor.Effect
import ScriptHost.Proofs.Session.Lifecycle

/-!
# Refused operations

An operation is refused when the session of the executor does not admit it, or when its list
argument is absent.  A refusal comes before anything else happens: nothing has changed, and nobody
was called.  That tells it from a failure of the same kind that a collaborator raised: such a
collaborator was called, or it is the file system, whose names are read without a call.

## Main results

* `perform_of_forbidden`, `perform_of_lacking` — an operation that is refused changes nothing.
* `untold_of_silent_failure` — any other failure without a call is that of a path that cannot be
  told.
* `guards_exact` — operations are refused exactly when the session forbids them or their argument
  is absent.
-/

namespace ScriptHost

namespace Executor

/-- Whether the session, or its absence, does not admit an operation. -/
def Forbids (e : Executor) : Operation → Prop
  | .start _ _ _ => ∃ s, e.session = some s ∧ s.phase = .started
  | .reset => ∃ s, e.session = some s ∧ s.phase = .ended
  | .stop => ∀ s, e.session = some s → s.phase = .ended
  | .execute _ _ | .executeText _ _ => ∀ s, e.session = some s → s.phase ≠ .started
  | .change _ | .surround _ => False

/-- Whether an operation takes a list argument and it is absent. -/
def Operation.Lacks : Operation → Prop
  | .start paths _ _ => paths = .absent
  | .change edit => edit.lacks?.isSome
  | _ => False

/-! ## What is refused -/

theorem isActive_iff {e : Executor} :
    e.isActive = true ↔ ∃ s, e.session = some s ∧ s.phase = .started := by
  unfold isActive Session.isActive
  cases e.session with
  | none => simp
  | some s => simp

/-- Without a session that is started an execution is refused. -/
theorem liveSession_of_not_started {e : Executor}
    (h : ∀ s, e.session = some s → s.phase ≠ .started) :
    ∃ refusal, e.liveSession = .error (.session refusal) := by
  cases hlive : e.liveSession with
  | error f =>
      unfold liveSession at hlive
      split at hlive
      · cases hlive
        exact ⟨_, rfl⟩
      · split at hlive
        · cases hlive
          exact ⟨_, rfl⟩
        · cases hlive
        · cases hlive
          exact ⟨_, rfl⟩
  | ok s =>
      obtain ⟨hsession, hphase⟩ := liveSession_eq_ok_iff.mp hlive
      exact absurd hphase (h s hsession)

theorem perform_of_forbidden {e : Executor} {op : Operation} (h : e.Forbids op) (t : Trail) :
    ∃ refusal, (e.perform t op).answer = .error (.session refusal) ∧
      (e.perform t op).state = e ∧ Trail.Made [] t (e.perform t op).trail := by
  have hexecution : op.isExecution = true →
      (∀ s, e.session = some s → s.phase ≠ .started) →
      ∃ refusal, (e.perform t op).answer = .error (.session refusal) ∧
        (e.perform t op).state = e ∧ Trail.Made [] t (e.perform t op).trail := by
    intro hop hidle
    obtain ⟨refusal, hlive⟩ := liveSession_of_not_started hidle
    rw [perform_of_not_live hop hlive t]
    exact ⟨refusal, rfl, rfl, .refl t⟩
  cases op with
  | change edit => exact h.elim
  | start paths packs arguments =>
      rw [perform, start_of_active (isActive_iff.mpr h)]
      exact ⟨_, rfl, rfl, .refl t⟩
  | reset =>
      obtain ⟨s, hsession, hphase⟩ := h
      rw [perform, reset, hsession]
      simp only [hphase]
      exact ⟨_, rfl, rfl, .refl t⟩
  | stop =>
      rw [perform]
      rcases e.stop_cases t with ⟨-, heq⟩ | ⟨s, t', hsession, hmade, heq⟩
      · rw [heq]
        exact ⟨_, rfl, rfl, .refl t⟩
      · have hstate : { e with session := some s } = e := by rw [← hsession]
        rw [heq, Session.stop_of_ended (h s hsession)]
        exact ⟨_, rfl, hstate, hmade⟩
  | execute script arguments => exact hexecution rfl h
  | executeText text arguments => exact hexecution rfl h
  | surround fileSystem => exact h.elim

theorem perform_of_lacking {e : Executor} {op : Operation} (hforbids : ¬ e.Forbids op)
    (h : op.Lacks) (t : Trail) :
    ∃ name, (e.perform t op).answer = .error (.absentArgument name) ∧
      (e.perform t op).state = e ∧ Trail.Made [] t (e.perform t op).trail := by
  cases op with
  | change edit =>
      rw [perform]
      rcases e.apply_cases t edit with ⟨name, -, heq⟩ | ⟨hpresent, -⟩
      · rw [heq]
        exact ⟨name, rfl, rfl, .refl t⟩
      · have hlacks : edit.lacks?.isSome = true := h
        rw [hpresent] at hlacks
        cases hlacks
  | start paths packs arguments =>
      have habsent : paths = .absent := h
      have hactive : e.isActive = false := by
        rw [← Bool.not_eq_true, isActive_iff]
        exact hforbids
      rw [perform, start, if_neg (Bool.eq_false_iff.mp hactive), habsent]
      exact ⟨_, rfl, rfl, .refl t⟩
  | reset => exact h.elim
  | stop => exact h.elim
  | execute script arguments => exact h.elim
  | executeText text arguments => exact h.elim
  | surround fileSystem => exact h.elim

/-! ## What is not refused -/

/-- A session is founded unless that is refused or a folder cannot be told. -/
theorem founding_eq_error {e : Executor} {calls : List Call} {paths : Sequence.Supplied String}
    {f : Failure} (hactive : e.isActive = false) (hpaths : paths ≠ .absent)
    (h : e.founding calls paths = .error f) : f.IsUntold := by
  rw [founding, if_neg (Bool.eq_false_iff.mp hactive)] at h
  cases hitems : requireItems "paths" paths with
  | error g => exact absurd (requireItems_eq_error_iff.mp hitems).1 hpaths
  | ok items =>
      simp only [hitems, pointEngine] at h
      cases hbase :
          FileSystem.join (e.fileSystem.currentDirectory calls) e.fileSystem.binFolder with
      | error g =>
          simp only [hbase, Except.error.injEq] at h
          exact h ▸ FileSystem.join_eq_error hbase
      | ok base =>
          cases hcache :
              FileSystem.join (e.fileSystem.currentDirectory calls) e.fileSystem.cacheFolder with
          | error g =>
              simp only [hbase, hcache, Except.error.injEq] at h
              exact h ▸ FileSystem.join_eq_error hcache
          | ok cache => simp only [hbase, hcache, reduceCtorEq] at h

theorem scriptPath_eq_error {e : Executor} {calls : List Call} {script : String} {f : Failure}
    (h : e.scriptPath calls script = .error f) : f.IsUntold := by
  unfold scriptPath at h
  split at h
  · cases h
  · exact FileSystem.join_eq_error h

/-- A live execution has its script pre-processed before it calls anyone else. -/
theorem script_called_first {e : Executor} {t : Trail} {op : Operation} {s : Session}
    (hop : op.isExecution = true) (hlive : e.liveSession = .ok s) :
    ∃ cs, Trail.Made (e.scriptCalls t.calls op ++ cs) t (e.perform t op).trail := by
  cases hp : e.prepare t op with
  | none =>
      refine ⟨[], ?_⟩
      rw [List.append_nil]
      rcases fails_of_not_prepared hop hlive hp with ⟨f, hfails⟩ | ⟨answer, fault, hstray⟩
      · exact (perform_of_scriptFails hlive hfails).2.2
      · exact (perform_of_stray hstray).2.2
  | some p =>
      obtain ⟨-, -, hmade, -⟩ := perform_eq_run hp
      cases hc : e.compose p with
      | error f =>
          obtain ⟨t', hmade', heq⟩ := perform_of_search hp
          refine ⟨e.searchCalls p, ?_⟩
          rw [heq, hc]
          exact hmade.trans hmade'
      | ok c => exact ⟨_, hmade.trans (perform_of_composed hp hc).2.2⟩

/-- A live execution that fails without having called anyone has a path that cannot be told. -/
theorem untold_of_silent_execution {e : Executor} {t : Trail} {op : Operation} {s : Session}
    {f : Failure} (hop : op.isExecution = true) (hlive : e.liveSession = .ok s)
    (hanswer : (e.perform t op).answer = .error f)
    (hcalls : (e.perform t op).trail.calls = t.calls) : f.IsUntold := by
  obtain ⟨cs, hmade⟩ := script_called_first (t := t) hop hlive
  have hnil : e.scriptCalls t.calls op = [] := by
    cases hscript : e.scriptCalls t.calls op with
    | nil => rfl
    | cons c rest =>
        rw [hscript] at hmade
        exact absurd hcalls (hmade.calls_ne (List.cons_ne_nil c _))
  cases op with
  | execute script arguments =>
      cases hpath : e.scriptPath t.calls script with
      | error g =>
          have hfails : e.ScriptFails t (.execute script arguments) g := .inl hpath
          rw [(perform_of_scriptFails hlive hfails).1] at hanswer
          cases hanswer
          exact scriptPath_eq_error hpath
      | ok path => simp [scriptCalls, hpath] at hnil
  | executeText text arguments => cases hnil
  | change edit => cases hop
  | start paths packs arguments => cases hop
  | reset => cases hop
  | stop => cases hop
  | surround fileSystem => cases hop

/-- An operation that is not refused and fails has called somebody, or was handed a path that cannot
be told. -/
theorem untold_of_silent_failure {e : Executor} {t : Trail} {op : Operation} {f : Failure}
    (hforbids : ¬ e.Forbids op) (hlacks : ¬ op.Lacks)
    (hanswer : (e.perform t op).answer = .error f)
    (hcalls : (e.perform t op).trail.calls = t.calls) : f.IsUntold := by
  have hlive : op.isExecution = true →
      (¬ ∀ s, e.session = some s → s.phase ≠ .started) → f.IsUntold := by
    intro hop hidle
    cases hlive : e.liveSession with
    | ok s => exact untold_of_silent_execution hop hlive hanswer hcalls
    | error g =>
        refine absurd ?_ hidle
        intro s hsession hphase
        rw [liveSession_eq_ok_iff.mpr ⟨hsession, hphase⟩] at hlive
        cases hlive
  cases op with
  | change edit =>
      rw [perform] at hanswer
      rcases e.apply_cases t edit with ⟨name, hname, -⟩ | ⟨-, t', -, heq⟩
      · refine absurd ?_ hlacks
        show edit.lacks?.isSome = true
        rw [hname]
        rfl
      · rw [heq] at hanswer
        cases hanswer
  | start paths packs arguments =>
      have hactive : e.isActive = false := by
        rw [← Bool.not_eq_true, isActive_iff]
        exact hforbids
      cases hfounding : e.founding t.calls paths with
      | error g =>
          have hg := (start_of_founding_error hfounding packs arguments).1
          simp only [perform, Step.map, hg] at hanswer
          cases hanswer
          exact founding_eq_error hactive hlacks hfounding
      | ok g =>
          obtain ⟨t', hmade, heq⟩ := start_of_founding hfounding packs arguments
          have ht' : t'.calls = t.calls := hmade
          simp only [perform, Step.map, heq, Step.lift] at hanswer hcalls
          cases hstart : ((Session.new packs arguments).start t').answer with
          | ok _ =>
              rw [hstart] at hanswer
              cases hanswer
          | error g' =>
              rw [← ht'] at hcalls
              exact absurd hcalls (Session.start_failure_calls rfl hstart)
  | reset =>
      rw [perform] at hanswer
      rcases e.reset_cases t with ⟨-, heq⟩ | ⟨s, hsession, hphase, -⟩ | ⟨s, -, -, heq⟩
      · rw [heq] at hanswer
        cases hanswer
      · exact absurd ⟨s, hsession, hphase⟩ hforbids
      · rw [heq] at hanswer
        cases hanswer
  | stop =>
      rcases e.stop_cases t with ⟨hnone, -⟩ | ⟨s, t', hsession, hmade, heq⟩
      · refine absurd ?_ hforbids
        intro s hs
        rw [hnone] at hs
        cases hs
      · have hphase : s.phase ≠ .ended := by
          intro hended
          refine hforbids ?_
          intro s' hs'
          rw [hsession] at hs'
          cases hs'
          exact hended
        have ht' : t'.calls = t.calls := hmade
        simp only [perform, Step.map, heq, Step.lift] at hanswer hcalls
        cases hstop : (s.stop t').answer with
        | ok _ =>
            rw [hstop] at hanswer
            cases hanswer
        | error g' =>
            rw [← ht'] at hcalls
            exact absurd hcalls (Session.stop_failure_calls hphase hstop)
  | execute script arguments => exact hlive rfl hforbids
  | executeText text arguments => exact hlive rfl hforbids
  | surround fileSystem => cases hanswer

/-! ## The law of refusals -/

/-- Whether a turn ends in a failure of a kind that no collaborator raised: none was called, and it
is not a fault in reading a name. -/
def RefusedAs (kind : String) (x : Turn Executor Operation) : Prop :=
  ∃ f, (x.step perform).answer = .error f ∧ f.kind = kind ∧ (∀ fault, f ≠ .raised fault) ∧
    (x.step perform).trail.calls = x.trail.calls

theorem not_untold {f : Failure} (hkind : f.kind ≠ "TypeError")
    (hraised : ∀ fault, f ≠ .raised fault) : ¬ f.IsUntold := by
  rintro (⟨detail, rfl⟩ | ⟨fault, rfl⟩)
  · exact hkind rfl
  · exact hraised fault rfl

/-- The law of the refusals of a turn. -/
structure GuardLaw (x : Turn Executor Operation) : Prop where
  /-- The session is the reason exactly if it does not admit the operation. -/
  session : RefusedAs "SessionStateError" x ↔ x.state.Forbids x.operation
  /-- The argument is the reason exactly if it is absent and the session admits the operation. -/
  argument : RefusedAs "InvalidArgumentError" x ↔
    x.operation.Lacks ∧ ¬ x.state.Forbids x.operation
  /-- Nothing of the executor changes by a refusal, and nobody is called. -/
  unchanged : x.state.Forbids x.operation ∨ x.operation.Lacks →
    (x.step perform).state = x.state ∧ (x.step perform).trail.callsSince x.trail = []

/-- In any state of an executor an operation is refused exactly when the session forbids it or its
argument is absent, and then it changes nothing and calls nobody. -/
theorem guards_exact (x : Turn Executor Operation) : GuardLaw x := by
  obtain ⟨e, t, op⟩ := x
  constructor
  case session =>
    constructor
    · rintro ⟨f, hanswer, hkind, hraised, hcalls⟩
      by_cases hforbids : e.Forbids op
      · exact hforbids
      by_cases hlacks : op.Lacks
      · obtain ⟨name, hname, -, -⟩ := perform_of_lacking hforbids hlacks t
        rw [Turn.step, hname] at hanswer
        cases hanswer
        simp [Failure.kind] at hkind
      · exact absurd (untold_of_silent_failure hforbids hlacks hanswer hcalls)
          (not_untold (by simp [hkind]) hraised)
    · intro hforbids
      obtain ⟨refusal, hanswer, -, hmade⟩ := perform_of_forbidden hforbids t
      exact ⟨_, hanswer, rfl, by simp, hmade⟩
  case argument =>
    constructor
    · rintro ⟨f, hanswer, hkind, hraised, hcalls⟩
      have hforbids : ¬ e.Forbids op := by
        intro hforbids
        obtain ⟨refusal, hrefusal, -, -⟩ := perform_of_forbidden hforbids t
        rw [Turn.step, hrefusal] at hanswer
        cases hanswer
        simp [Failure.kind] at hkind
      refine ⟨?_, hforbids⟩
      by_cases hlacks : op.Lacks
      · exact hlacks
      · exact absurd (untold_of_silent_failure hforbids hlacks hanswer hcalls)
          (not_untold (by simp [hkind]) hraised)
    · rintro ⟨hlacks, hforbids⟩
      obtain ⟨name, hanswer, -, hmade⟩ := perform_of_lacking hforbids hlacks t
      exact ⟨_, hanswer, rfl, by simp, hmade⟩
  case unchanged =>
    intro h
    by_cases hforbids : e.Forbids op
    · obtain ⟨refusal, -, hstate, hmade⟩ := perform_of_forbidden hforbids t
      exact ⟨hstate, hmade.callsSince⟩
    · obtain ⟨name, -, hstate, hmade⟩ :=
        perform_of_lacking hforbids (h.resolve_left hforbids) t
      exact ⟨hstate, hmade.callsSince⟩

end Executor

end ScriptHost
