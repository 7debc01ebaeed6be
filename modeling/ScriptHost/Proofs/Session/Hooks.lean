import ScriptHost.Proofs.Run
import ScriptHost.Session.Basic

/-!
# Hooks of packs

Starting and ending a session call the hooks of its packs one after the other until one fails.
This module says which hook fails first, as a function of the packs and of the calls made before,
and from that which calls are made and which packs are recorded as started.  Whether a start hook
fails depends on the actions that it wants done alone, and not on the session it does them to.

## Main results

* `start_of_attempt`, `start_of_startFailure`, `start_of_contextFailure` — what starting a session
  does, by the first hook that fails.
* `stop_of_not_ended` — what ending a session does.
-/

namespace ScriptHost

/-! ## Single hooks -/

/-- Whether a call is one on a hook of a pack. -/
def Call.isHook : Call → Bool
  | .startPack _ | .startedPack _ | .askContext _ | .stopPack _ => true
  | .probe _ | .processFile _ | .processText _ | .execute _ => false

/-- The failure in which an action of a pack ends. -/
def PackAction.failure? : PackAction → Option Failure
  | .addReference none => some (.absentArgument "reference")
  | .addReference (some _) => none
  | .importNamespace none => some (.absentArgument "namespace")
  | .importNamespace (some _) => none
  | .put _ _ => none
  | .putArguments _ => none
  | .fail f => some f

namespace Pack

/-- The failure in which the start hook of a pack ends. -/
def startFailure? (p : Pack) (calls : List Call) : Option Failure :=
  (p.onStart calls).findSome? PackAction.failure?

/-- The failure in which asking a pack for its context ends. -/
def contextFailure? (p : Pack) (calls : List Call) : Option Failure :=
  match p.context calls with
  | .error f => some f
  | .ok _ => none

/-- The calls of a start hook that completes. -/
def startCalls (p : Pack) : List Call := [.startPack p.label, .startedPack p.label]

end Pack

namespace SessionView

/-- Two views that differ in what packs contribute at most. -/
structure Keeps (v w : SessionView) : Prop where
  arguments : w.arguments = v.arguments
  contexts : w.contexts = v.contexts
  injected : w.injected = v.injected
  phase : w.phase = v.phase

theorem Keeps.refl (v : SessionView) : Keeps v v := ⟨rfl, rfl, rfl, rfl⟩

theorem Keeps.trans {u v w : SessionView} (h : Keeps u v) (h' : Keeps v w) : Keeps u w :=
  ⟨h'.arguments.trans h.arguments, h'.contexts.trans h.contexts,
    h'.injected.trans h.injected, h'.phase.trans h.phase⟩

theorem perform_of_failure {v : SessionView} {a : PackAction} {f : Failure}
    (h : a.failure? = some f) : v.perform a = .error f := by
  cases a with
  | addReference r =>
      cases r with
      | none => cases h; rfl
      | some r => cases h
  | importNamespace n =>
      cases n with
      | none => cases h; rfl
      | some n => cases h
  | put key value => cases h
  | putArguments key => cases h
  | fail g => cases h; rfl

theorem perform_of_no_failure {v : SessionView} {a : PackAction} (h : a.failure? = none) :
    ∃ w, v.perform a = .ok w ∧ Keeps v w := by
  cases a with
  | addReference r =>
      cases r with
      | none => cases h
      | some r => exact ⟨_, rfl, rfl, rfl, rfl, rfl⟩
  | importNamespace n =>
      cases n with
      | none => cases h
      | some n => exact ⟨_, rfl, rfl, rfl, rfl, rfl⟩
  | put key value => exact ⟨_, rfl, rfl, rfl, rfl, rfl⟩
  | putArguments key => exact ⟨_, rfl, rfl, rfl, rfl, rfl⟩
  | fail g => cases h

/-- Actions stop at the first that fails, whatever the view they are done to. -/
theorem performAll_spec (v : SessionView) (as : List PackAction) :
    ∃ w, v.performAll as = (w, as.findSome? PackAction.failure?) ∧ Keeps v w := by
  induction as generalizing v with
  | nil => exact ⟨v, rfl, .refl v⟩
  | cons a as ih =>
      rw [performAll, List.findSome?_cons]
      cases ha : a.failure? with
      | some f =>
          rw [perform_of_failure ha]
          exact ⟨v, rfl, .refl v⟩
      | none =>
          obtain ⟨u, hu, hvu⟩ := perform_of_no_failure (v := v) ha
          obtain ⟨w, hw, huw⟩ := ih u
          rw [hu]
          exact ⟨w, hw, hvu.trans huw⟩

end SessionView

namespace Session

/-! ## Hooks in a row -/

/-- The calls of start hooks that all complete. -/
def startCalls (ps : List Pack) : List Call := ps.flatMap Pack.startCalls

/-- The calls that ask packs for their contexts. -/
def contextCalls (ps : List Pack) : List Call := ps.map fun p => .askContext p.label

/-- The calls of stop hooks. -/
def stopCalls (ps : List Pack) : List Call := ps.map fun p => .stopPack p.label

/-- The failure of the first start hook that fails when packs are started in order. -/
def startFailure? : List Pack → List Call → Option Failure
  | [], _ => none
  | p :: ps, calls =>
    match p.startFailure? calls with
    | some f => some f
    | none => startFailure? ps (p.startCalls.reverse ++ calls)

/-- The failure of the first pack that fails to show its context. -/
def contextFailure? : List Pack → List Call → Option Failure
  | [], _ => none
  | p :: ps, calls =>
    match p.contextFailure? calls with
    | some f => some f
    | none => contextFailure? ps (.askContext p.label :: calls)

/-- The failure of the first stop hook that fails when packs are stopped in order. -/
def stopFailure? : List Pack → List Call → Option Failure
  | [], _ => none
  | p :: ps, calls =>
    match p.onStop calls with
    | some f => some f
    | none => stopFailure? ps (.stopPack p.label :: calls)

/-- The answer of hooks of which the first failure is given. -/
def outcome : Option Failure → Except Failure Unit
  | some f => .error f
  | none => .ok ()

/-- The first failure of an attempt to start packs: of a start hook, or else of a context. -/
def attemptFailure? (ps : List Pack) (calls : List Call) : Option Failure :=
  match startFailure? ps calls with
  | some f => some f
  | none => contextFailure? ps ((startCalls ps).reverse ++ calls)

/-- Start hooks complete in a row if the first one does, and then the others do. -/
theorem startFailure?_cons_eq_none {p : Pack} {ps : List Pack} {calls : List Call}
    (h : startFailure? (p :: ps) calls = none) :
    p.startFailure? calls = none ∧ startFailure? ps (p.startCalls.reverse ++ calls) = none := by
  rw [startFailure?] at h
  cases hp : p.startFailure? calls with
  | some f => simp [hp] at h
  | none =>
      rw [hp] at h
      exact ⟨rfl, h⟩

/-- An attempt goes well if all packs start, and then all of them show their contexts. -/
theorem attemptFailure?_eq_none {ps : List Pack} {calls : List Call}
    (h : attemptFailure? ps calls = none) :
    startFailure? ps calls = none ∧
      contextFailure? ps ((startCalls ps).reverse ++ calls) = none := by
  rw [attemptFailure?] at h
  cases hstart : startFailure? ps calls with
  | some f => simp [hstart] at h
  | none =>
      rw [hstart] at h
      exact ⟨rfl, h⟩

/-- Two sessions that differ in what packs contribute, and in which of them have started, at
most. -/
structure Keeps (s s' : Session) : Prop where
  view : SessionView.Keeps s.toSessionView s'.toSessionView
  packs : s'.packs = s.packs

theorem Keeps.refl (s : Session) : Keeps s s := ⟨.refl _, rfl⟩

theorem Keeps.trans {s s' s'' : Session} (h : Keeps s s') (h' : Keeps s' s'') : Keeps s s'' :=
  ⟨h.view.trans h'.view, h'.packs.trans h.packs⟩

/-- The trail of a start hook that was called. -/
def startTrail (p : Pack) (t : Trail) : Trail :=
  (t.log (.debug logger ("Initializing script pack [magenta]" ++ p.name ++ "[/]"))).call
    (.startPack p.label)

theorem startPacks_cons_of_failure {p : Pack} {t : Trail} {f : Failure}
    (h : p.startFailure? t.calls = some f) (ps : List Pack) (s : Session) :
    ∃ w, SessionView.Keeps s.toSessionView w ∧
      startPacks (p :: ps) s t = .error f (s.withView w) (startTrail p t) := by
  obtain ⟨w, hw, hkeeps⟩ := s.toSessionView.performAll_spec (p.onStart t.calls)
  rw [Pack.startFailure?] at h
  rw [h] at hw
  refine ⟨w, hkeeps, ?_⟩
  simp only [startPacks, Trail.calls_log, hw]
  rfl

theorem startPacks_cons_of_no_failure {p : Pack} {t : Trail} (h : p.startFailure? t.calls = none)
    (ps : List Pack) (s : Session) :
    ∃ w, s.toSessionView.performAll (p.onStart t.calls) = (w, none) ∧
      SessionView.Keeps s.toSessionView w ∧
      startPacks (p :: ps) s t = startPacks ps { s.withView w with started := s.started ++ [p] }
        ((startTrail p t).call (.startedPack p.label)) := by
  obtain ⟨w, hw, hkeeps⟩ := s.toSessionView.performAll_spec (p.onStart t.calls)
  rw [Pack.startFailure?] at h
  rw [h] at hw
  refine ⟨w, hw, hkeeps, ?_⟩
  simp only [startPacks, Trail.calls_log, hw]
  rfl

theorem startPacks_keeps (ps : List Pack) (s : Session) (t : Trail) :
    Keeps s (startPacks ps s t).state := by
  induction ps generalizing s t with
  | nil => exact .refl s
  | cons p ps ih =>
      cases hp : p.startFailure? t.calls with
      | some f =>
          obtain ⟨w, hw, heq⟩ := startPacks_cons_of_failure hp ps s
          rw [heq]
          exact ⟨hw, rfl⟩
      | none =>
          obtain ⟨w, -, hw, heq⟩ := startPacks_cons_of_no_failure hp ps s
          have hnext : Keeps s { s.withView w with started := s.started ++ [p] } := ⟨hw, rfl⟩
          rw [heq]
          exact hnext.trans (ih _ _)

/-- Start hooks that all complete are all recorded, and nothing else is called. -/
theorem startPacks_of_no_failure {ps : List Pack} {t : Trail}
    (h : startFailure? ps t.calls = none) (s : Session) :
    (startPacks ps s t).answer = .ok () ∧
      (startPacks ps s t).state.started = s.started ++ ps ∧
      Trail.Made (startCalls ps) t (startPacks ps s t).trail := by
  induction ps generalizing s t with
  | nil => exact ⟨rfl, (List.append_nil _).symm, .refl t⟩
  | cons p ps ih =>
      obtain ⟨hp, hps⟩ := startFailure?_cons_eq_none h
      obtain ⟨w, -, -, heq⟩ := startPacks_cons_of_no_failure hp ps s
      have hmade : Trail.Made p.startCalls t
          ((startTrail p t).call (.startedPack p.label)) := rfl
      obtain ⟨hanswer, hstarted, hrest⟩ := ih
        (t := (startTrail p t).call (.startedPack p.label)) hps
        { s.withView w with started := s.started ++ [p] }
      rw [heq]
      refine ⟨hanswer, ?_, hmade.trans hrest⟩
      rw [hstarted, List.append_assoc, List.singleton_append]

/-- Start hooks of which one fails are recorded up to the first that does, and that is the last one
called. -/
theorem startPacks_of_failure {ps : List Pack} {t : Trail} {f : Failure}
    (h : startFailure? ps t.calls = some f) (s : Session) :
    (startPacks ps s t).answer = .error f ∧
      ∃ done p rest, ps = done ++ p :: rest ∧ startFailure? done t.calls = none ∧
        p.startFailure? ((startCalls done).reverse ++ t.calls) = some f ∧
        (startPacks ps s t).state.started = s.started ++ done ∧
        Trail.Made (startCalls done ++ [.startPack p.label]) t (startPacks ps s t).trail := by
  induction ps generalizing s t with
  | nil => cases h
  | cons p ps ih =>
      rw [startFailure?] at h
      cases hp : p.startFailure? t.calls with
      | some g =>
          rw [hp] at h
          cases h
          obtain ⟨w, -, heq⟩ := startPacks_cons_of_failure hp ps s
          rw [heq]
          exact ⟨rfl, [], p, ps, rfl, rfl, hp, (List.append_nil _).symm, rfl⟩
      | none =>
          rw [hp] at h
          obtain ⟨w, -, -, heq⟩ := startPacks_cons_of_no_failure hp ps s
          have hmade : Trail.Made p.startCalls t
              ((startTrail p t).call (.startedPack p.label)) := rfl
          obtain ⟨hanswer, done, q, rest, rfl, hdone, hq, hstarted, hrest⟩ := ih
            (t := (startTrail p t).call (.startedPack p.label)) h
            { s.withView w with started := s.started ++ [p] }
          rw [heq]
          refine ⟨hanswer, p :: done, q, rest, rfl, ?_, ?_, ?_, ?_⟩
          · rw [startFailure?, hp]
            exact hdone
          · rw [startCalls, List.flatMap_cons, List.reverse_append, List.append_assoc]
            exact hq
          · rw [hstarted, List.append_assoc, List.singleton_append]
          · exact hmade.trans hrest

/-! ## Contexts and endings -/

/-- Packs that all show their contexts are all asked, and nothing else is called. -/
theorem askContexts_of_no_failure {ps : List Pack} {t : Trail}
    (h : contextFailure? ps t.calls = none) :
    (askContexts ps t).answer = .ok () ∧
      Trail.Made (contextCalls ps) t (askContexts ps t).trail := by
  induction ps generalizing t with
  | nil => exact ⟨rfl, .refl t⟩
  | cons p ps ih =>
      rw [contextFailure?, Pack.contextFailure?] at h
      rw [askContexts]
      cases hp : p.context t.calls with
      | error f => simp [hp] at h
      | ok shown =>
          rw [hp] at h
          obtain ⟨hanswer, hmade⟩ := ih (t := t.call (.askContext p.label)) h
          have hall := (Trail.made_call t (.askContext p.label)).trans hmade
          cases shown with
          | none => exact ⟨hanswer, hall⟩
          | some c => exact ⟨hanswer, hall⟩

/-- Of packs of which one fails to show its context, those up to the first that does are asked. -/
theorem askContexts_of_failure {ps : List Pack} {t : Trail} {f : Failure}
    (h : contextFailure? ps t.calls = some f) :
    (askContexts ps t).answer = .error f ∧
      ∃ asked p rest, ps = asked ++ p :: rest ∧ contextFailure? asked t.calls = none ∧
        p.contextFailure? ((contextCalls asked).reverse ++ t.calls) = some f ∧
        Trail.Made (contextCalls (asked ++ [p])) t (askContexts ps t).trail := by
  induction ps generalizing t with
  | nil => cases h
  | cons p ps ih =>
      rw [contextFailure?] at h
      rw [askContexts]
      cases hp : p.context t.calls with
      | error g =>
          have hfails : p.contextFailure? t.calls = some g := by rw [Pack.contextFailure?, hp]
          rw [hfails] at h
          cases h
          exact ⟨rfl, [], p, ps, rfl, rfl, hfails, rfl⟩
      | ok shown =>
          have hshows : p.contextFailure? t.calls = none := by rw [Pack.contextFailure?, hp]
          rw [hshows] at h
          obtain ⟨hanswer, asked, q, rest, rfl, hasked, hq, hmade⟩ :=
            ih (t := t.call (.askContext p.label)) h
          have hall := (Trail.made_call t (.askContext p.label)).trans hmade
          have hnone : contextFailure? (p :: asked) t.calls = none := by
            rw [contextFailure?, hshows]
            exact hasked
          have hlast : q.contextFailure? ((contextCalls (p :: asked)).reverse ++ t.calls) =
              some f := by
            rw [contextCalls, List.map_cons, List.reverse_cons, List.append_assoc]
            exact hq
          cases shown with
          | none => exact ⟨hanswer, p :: asked, q, rest, rfl, hnone, hlast, hall⟩
          | some c => exact ⟨hanswer, p :: asked, q, rest, rfl, hnone, hlast, hall⟩

/-- Stop hooks are called in order up to the first that fails, and all of them if none does. -/
theorem stopPacks_spec (ps : List Pack) (t : Trail) :
    (stopPacks ps t).1 = outcome (stopFailure? ps t.calls) ∧
      ∃ called rest, ps = called ++ rest ∧ (called = [] → rest = []) ∧
        Trail.Made (stopCalls called) t (stopPacks ps t).2 ∧
        (stopFailure? ps t.calls = none → rest = []) := by
  induction ps generalizing t with
  | nil => exact ⟨rfl, [], [], rfl, fun _ => rfl, .refl t, fun _ => rfl⟩
  | cons p ps ih =>
      let logged := t.log (.debug logger ("Terminating script pack [magenta]" ++ p.name ++ "[/]"))
      have hmade : Trail.Made [.stopPack p.label] t (logged.call (.stopPack p.label)) := rfl
      rw [stopFailure?]
      cases hp : p.onStop t.calls with
      | some f =>
          simp only [stopPacks, Trail.calls_log, hp]
          exact ⟨rfl, [p], ps, rfl, nofun, hmade, nofun⟩
      | none =>
          simp only [stopPacks, Trail.calls_log, hp]
          obtain ⟨hanswer, called, rest, rfl, -, hrest, hall⟩ :=
            ih (logged.call (.stopPack p.label))
          exact ⟨hanswer, p :: called, rest, rfl, nofun, hmade.trans hrest, hall⟩

/-! ## Starting, resetting and ending a session -/

theorem reset_of_not_ended {s : Session} (h : s.phase ≠ .ended) (t : Trail) :
    s.reset t = .ok () s.cleared t := by
  unfold reset
  split
  · next hended => exact absurd hended h
  · rfl

/-- An attempt without a failure starts the session. -/
theorem start_of_attempt {s : Session} {t : Trail} (hphase : s.phase = .notStarted)
    (h : attemptFailure? s.packs t.calls = none) :
    (s.start t).answer = .ok () ∧ (s.start t).state.phase = .started ∧
      (s.start t).state.packs = s.packs ∧ (s.start t).state.injected = s.injected ∧
      (s.start t).state.started = s.started ++ s.packs ∧
      Trail.Made (startCalls s.packs ++ contextCalls s.packs) t (s.start t).trail := by
  obtain ⟨hstart, hcontext⟩ := attemptFailure?_eq_none h
  obtain ⟨hbegun, hstarted, hmade⟩ := startPacks_of_no_failure hstart s
  have hkeeps := startPacks_keeps s.packs s t
  rw [← hmade] at hcontext
  obtain ⟨hasked, hmade'⟩ := askContexts_of_no_failure hcontext
  simp only [start, hphase, hbegun, hasked]
  exact ⟨rfl, rfl, hkeeps.packs, hkeeps.view.injected, hstarted, hmade.trans hmade'⟩

/-- A start hook that fails is the last call of the attempt, and leaves the session not started,
with the packs before it recorded. -/
theorem start_of_startFailure {s : Session} {t : Trail} {f : Failure}
    (hphase : s.phase = .notStarted) (h : startFailure? s.packs t.calls = some f) :
    (s.start t).answer = .error f ∧ Keeps s (s.start t).state ∧
      ∃ done p rest, s.packs = done ++ p :: rest ∧ startFailure? done t.calls = none ∧
        p.startFailure? ((startCalls done).reverse ++ t.calls) = some f ∧
        (s.start t).state.started = s.started ++ done ∧
        Trail.Made (startCalls done ++ [.startPack p.label]) t (s.start t).trail := by
  obtain ⟨hbegun, hcut⟩ := startPacks_of_failure h s
  simp only [start, hphase, hbegun]
  exact ⟨rfl, startPacks_keeps s.packs s t, hcut⟩

/-- A pack that fails to show its context is the last call of the attempt, and leaves the session
not started, with all packs recorded. -/
theorem start_of_contextFailure {s : Session} {t : Trail} {f : Failure}
    (hphase : s.phase = .notStarted) (hstart : startFailure? s.packs t.calls = none)
    (h : contextFailure? s.packs ((startCalls s.packs).reverse ++ t.calls) = some f) :
    (s.start t).answer = .error f ∧ Keeps s (s.start t).state ∧
      (s.start t).state.started = s.started ++ s.packs ∧
      ∃ asked p rest, s.packs = asked ++ p :: rest ∧
        contextFailure? asked ((startCalls s.packs).reverse ++ t.calls) = none ∧
        p.contextFailure? ((contextCalls asked).reverse ++
          ((startCalls s.packs).reverse ++ t.calls)) = some f ∧
        Trail.Made (startCalls s.packs ++ contextCalls (asked ++ [p])) t (s.start t).trail := by
  obtain ⟨hbegun, hstarted, hmade⟩ := startPacks_of_no_failure hstart s
  rw [← hmade] at h
  obtain ⟨hasked, asked, p, rest, hpacks, hnone, hp, hmade'⟩ := askContexts_of_failure h
  rw [hmade] at hnone hp
  simp only [start, hphase, hbegun, hasked]
  exact ⟨rfl, startPacks_keeps s.packs s t, hstarted, asked, p, rest, hpacks, hnone, hp,
    hmade.trans hmade'⟩

/-- An attempt with a failure leaves the session not started, with the packs recorded whose start
hooks completed. -/
theorem start_of_attemptFailure {s : Session} {t : Trail} {f : Failure}
    (hphase : s.phase = .notStarted) (h : attemptFailure? s.packs t.calls = some f) :
    (s.start t).answer = .error f ∧ Keeps s (s.start t).state ∧
      ∃ done rest tail, s.packs = done ++ rest ∧
        (s.start t).state.started = s.started ++ done ∧
        Trail.Made (startCalls done ++ tail) t (s.start t).trail ∧
        ((∃ p, tail = [.startPack p]) ∨ ∃ asked, asked ≠ [] ∧ tail = contextCalls asked) := by
  rw [attemptFailure?] at h
  cases hstart : startFailure? s.packs t.calls with
  | some g =>
      rw [hstart] at h
      cases h
      obtain ⟨hanswer, hkeeps, done, p, rest, hpacks, -, -, hstarted, hmade⟩ :=
        start_of_startFailure hphase hstart
      exact ⟨hanswer, hkeeps, done, p :: rest, _, hpacks, hstarted, hmade, .inl ⟨_, rfl⟩⟩
  | none =>
      rw [hstart] at h
      obtain ⟨hanswer, hkeeps, hstarted, asked, p, rest, -, -, -, hmade⟩ :=
        start_of_contextFailure hphase hstart h
      exact ⟨hanswer, hkeeps, s.packs, [], _, (List.append_nil _).symm, hstarted, hmade,
        .inr ⟨asked ++ [p], by simp, rfl⟩⟩

/-- Ending a session stops the packs that have started, newest first, up to the first that
fails. -/
theorem stop_of_not_ended {s : Session} (h : s.phase ≠ .ended) (t : Trail) :
    (s.stop t).state = { s with started := [], phase := .ended } ∧
      (s.stop t).answer = outcome (stopFailure? s.started.reverse t.calls) ∧
      ∃ called rest, s.started.reverse = called ++ rest ∧ (called = [] → rest = []) ∧
        Trail.Made (stopCalls called) t (s.stop t).trail ∧
        (stopFailure? s.started.reverse t.calls = none → rest = []) := by
  have hspec := stopPacks_spec s.started.reverse t
  unfold stop
  split
  · next hended => exact absurd hended h
  · exact ⟨rfl, hspec⟩

/-! ## What hooks leave alone -/

theorem start_injected (s : Session) (t : Trail) :
    (s.start t).state.injected = s.injected := by
  by_cases hphase : s.phase = .notStarted
  · cases hattempt : attemptFailure? s.packs t.calls with
    | none => exact (start_of_attempt hphase hattempt).2.2.2.1
    | some f => exact (start_of_attemptFailure hphase hattempt).2.1.view.injected
  · rw [start_of_not_new hphase t]
    rfl

/-- Starting a session changes neither its packs nor its arguments. -/
theorem start_kept (s : Session) (t : Trail) :
    (s.start t).state.packs = s.packs ∧ (s.start t).state.arguments = s.arguments := by
  have hkeeps := startPacks_keeps s.packs s t
  have hkept := And.intro hkeeps.packs hkeeps.view.arguments
  unfold start
  split
  · dsimp only
    cases (startPacks s.packs s t).answer with
    | error f => exact hkept
    | ok _ =>
        cases (askContexts s.packs (startPacks s.packs s t).trail).answer with
        | error f => exact hkept
        | ok _ => exact hkept
  · exact ⟨rfl, rfl⟩

theorem stop_injected (s : Session) (t : Trail) : (s.stop t).state.injected = s.injected := by
  by_cases hphase : s.phase = .ended
  · rw [stop_of_ended hphase t]
    rfl
  · rw [(stop_of_not_ended hphase t).1]

theorem isHook_startCalls {ps : List Pack} {c : Call} (h : c ∈ startCalls ps) :
    c.isHook = true := by
  obtain ⟨p, -, hc⟩ := List.mem_flatMap.mp h
  simp only [Pack.startCalls, List.mem_cons, List.not_mem_nil, or_false] at hc
  rcases hc with rfl | rfl
  · rfl
  · rfl

theorem isHook_contextCalls {ps : List Pack} {c : Call} (h : c ∈ contextCalls ps) :
    c.isHook = true := by
  obtain ⟨p, -, rfl⟩ := List.mem_map.mp h
  rfl

theorem isHook_stopCalls {ps : List Pack} {c : Call} (h : c ∈ stopCalls ps) :
    c.isHook = true := by
  obtain ⟨p, -, rfl⟩ := List.mem_map.mp h
  rfl

/-- Starting a session calls hooks and nothing else. -/
theorem start_hooks (s : Session) (t : Trail) :
    ∃ cs, Trail.Made cs t (s.start t).trail ∧ ∀ c ∈ cs, c.isHook = true := by
  by_cases hphase : s.phase = .notStarted
  · cases hattempt : attemptFailure? s.packs t.calls with
    | none =>
        obtain ⟨-, -, -, -, -, hmade⟩ := start_of_attempt hphase hattempt
        refine ⟨_, hmade, ?_⟩
        intro c hc
        rcases List.mem_append.mp hc with hc | hc
        · exact isHook_startCalls hc
        · exact isHook_contextCalls hc
    | some f =>
        obtain ⟨-, -, done, rest, tail, -, -, hmade, htail⟩ :=
          start_of_attemptFailure hphase hattempt
        refine ⟨_, hmade, ?_⟩
        intro c hc
        rcases List.mem_append.mp hc with hc | hc
        · exact isHook_startCalls hc
        · rcases htail with ⟨p, rfl⟩ | ⟨asked, -, rfl⟩
          · rw [List.mem_singleton.mp hc]
            rfl
          · exact isHook_contextCalls hc
  · rw [start_of_not_new hphase t]
    exact ⟨[], .refl t, nofun⟩

/-- Ending a session calls hooks and nothing else. -/
theorem stop_hooks (s : Session) (t : Trail) :
    ∃ cs, Trail.Made cs t (s.stop t).trail ∧ ∀ c ∈ cs, c.isHook = true := by
  by_cases hphase : s.phase = .ended
  · rw [stop_of_ended hphase t]
    exact ⟨[], .refl t, nofun⟩
  · obtain ⟨-, -, called, rest, -, -, hmade, -⟩ := stop_of_not_ended hphase t
    exact ⟨_, hmade, fun c hc => isHook_stopCalls hc⟩

end Session

end ScriptHost
