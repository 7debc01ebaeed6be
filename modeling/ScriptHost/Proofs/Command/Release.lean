import ScriptHost.Plugin.BuiltIn
import ScriptHost.Proofs.Command.Ready
import ScriptHost.Proofs.Session.Contribution

/-!
# An execution releases what it started

However a command leaves an execution, whether with a result, with an error that it printed or with
a failure that nobody handles, the packs that it started are stopped, each once and the newest
first, after everything else.  There are many ways out and two places where the session is ended;
both leave the same journal behind.  A pack that does not start is not stopped, and if the
configuration, the log, the executor or a pack cannot be had, no hook is called at all.

Before there is a session the engine is pointed at its folders, below the current directory.  If
that was removed, and the configuration names no other, an execution ends there, and no hook is
called either.

The packs, the pre-processor, the engine and the file system may fail at any call; only stop hooks
do not fail here, and the log takes every record.

## Main results

* `made_endSession`, `made_executeSource` — what is called while a session is ended, and while a
  script is executed.
* `opened_or_released` — a session starts, or what was started is stopped again.
* `run_releases` — the law of a whole execution.
-/

namespace ScriptHost

open Session (startCalls contextCalls stopCalls startFailure? contextFailure? stopFailure?)

/-- The calls of a trail, the oldest first, are those that were made since nothing had happened. -/
theorem Trail.reverse_calls {cs : List Call} {t : Trail} (h : Trail.Made cs .empty t) :
    t.calls.reverse = cs := by
  have hcalls : t.calls = cs.reverse ++ [] := h
  rw [hcalls, List.append_nil, List.reverse_reverse]

/-- Whether the stop hook of a pack never fails. -/
def Pack.StopsQuietly (p : Pack) : Prop := ∀ calls, p.onStop calls = none

theorem Session.stopFailure?_of_quiet {ps : List Pack} (h : ∀ p ∈ ps, p.StopsQuietly)
    (calls : List Call) : stopFailure? ps calls = none := by
  induction ps generalizing calls with
  | nil => rfl
  | cons p ps ih =>
      rw [stopFailure?, h p List.mem_cons_self calls]
      exact ih (fun q hq => h q (List.mem_cons_of_mem p hq)) _

/-- If no stop hook fails, ending a session stops all packs that have started, newest first. -/
theorem Session.made_stop {s : Session} (hphase : s.phase ≠ .ended)
    (hquiet : ∀ p ∈ s.started, p.StopsQuietly) (t : Trail) :
    Trail.Made (stopCalls s.started.reverse) t (s.stop t).trail := by
  obtain ⟨-, -, called, rest, hcut, -, hmade, hall⟩ := Session.stop_of_not_ended hphase t
  have hrest : rest = [] := by
    apply hall
    apply Session.stopFailure?_of_quiet
    intro p hp
    exact hquiet p (List.mem_reverse.mp hp)
  rw [hrest, List.append_nil] at hcut
  rw [hcut]
  exact hmade

/-- The calls by which packs are started, used and stopped again. -/
inductive Released (packs : List Pack) : List Call → Prop where
  /-- A pack does not start: it is the last that is asked to, and those before it are stopped. -/
  | unstarted {done rest : List Pack} {p : Pack} {f : Failure} (cut : packs = done ++ p :: rest)
      (started : startFailure? done [] = none)
      (fails : p.startFailure? (startCalls done).reverse = some f) :
      Released packs (startCalls done ++ [.startPack p.label] ++ stopCalls done.reverse)
  /-- All packs start, and one fails to show its context: all are stopped. -/
  | unshown {asked rest : List Pack} {p : Pack} {f : Failure} (cut : packs = asked ++ p :: rest)
      (started : startFailure? packs [] = none)
      (shown : contextFailure? asked (startCalls packs).reverse = none)
      (fails : p.contextFailure? ((contextCalls asked).reverse ++ (startCalls packs).reverse) =
        some f) :
      Released packs
        (startCalls packs ++ contextCalls (asked ++ [p]) ++ stopCalls packs.reverse)
  /-- All packs start and show their contexts, and all are stopped at the end.  What is called in
  between, the engine among it, is no hook. -/
  | executed {inner : List Call} (started : startFailure? packs [] = none)
      (shown : contextFailure? packs (startCalls packs).reverse = none)
      (quiet : hookCalls inner = []) :
      Released packs (startCalls packs ++ contextCalls packs ++ inner ++ stopCalls packs.reverse)

namespace Command

/-! ## Ending a session and executing in it -/

/-- If the log takes every record, an operation is answered as it would be without a log, and calls
the same. -/
theorem heard_spec {σ α : Type} {w : Surroundings} {d : Desktop} {t : Trail} {s : Step σ α}
    (h : (d.listen w t s).refusal = none) :
    (d.listen w t s).answer = s.answer ∧ (d.listen w t s).trail = s.trail := by
  unfold Desktop.listen at h ⊢
  split at h
  · cases h
  · exact ⟨rfl, rfl⟩

theorem made_endSession {w : Surroundings} {d : Desktop} {e : Executor} {s : Session} {t : Trail}
    (hsession : e.session = some s) (hphase : s.phase ≠ .ended)
    (hquiet : ∀ p ∈ s.started, p.StopsQuietly) (hheard : (endSession w d e t).refusal = none) :
    Trail.Made (stopCalls s.started.reverse) t (endSession w d e t).trail := by
  have hstop := Executor.stop_of_session hsession (silent t)
  have htrail : (endSession w d e t).trail = (s.stop (Executor.stopTrail (silent t))).trail := by
    refine (heard_spec hheard).2.trans ?_
    rw [hstop]
    rfl
  rw [htrail]
  exact Session.made_stop hphase hquiet _

/-- A script is executed in a live session, and calls no hook. -/
theorem runSource_goes_on {e : Executor} {s : Session} (hlive : e.liveSession = .ok s) (t : Trail)
    (x : Execution) :
    ∃ s' cs, (runSource e t x).state.session = some s' ∧ s'.cleared = s.cleared ∧
      Trail.Made cs t (runSource e t x).trail ∧ hookCalls cs = [] := by
  unfold runSource
  cases x.source with
  | file path => exact Executor.goes_on_of_execution (.execute path x.arguments) rfl hlive t
  | text code => exact Executor.goes_on_of_execution (.executeText code x.arguments) rfl hlive t

/-- If the log takes every record of an execution, it does so while the script is executed and while
the session is ended. -/
theorem heard_of_executeSource {w : Surroundings} {d : Desktop} {e : Executor} {t : Trail}
    {x : Execution} (h : (executeSource w d e t x).refusal = none) :
    (d.listen w t (runSource e (silent t) x)).refusal = none ∧
      (endSession w (d.listen w t (runSource e (silent t) x)).desktop
        (runSource e (silent t) x).state (runSource e (silent t) x).trail).refusal = none := by
  simp only [executeSource] at h
  cases hrefusal : (d.listen w t (runSource e (silent t) x)).refusal with
  | some f =>
      rw [hrefusal] at h
      cases h
  | none =>
      rw [hrefusal, (heard_spec hrefusal).2] at h
      exact ⟨rfl, h⟩

/-- Executing a script calls no hook, and then stops all packs that have started, whether the script
could be executed or not. -/
theorem made_executeSource {w : Surroundings} {d : Desktop} {e : Executor} {s : Session}
    {t : Trail} {x : Execution} (hsession : e.session = some s) (hphase : s.phase = .started)
    (hquiet : ∀ p ∈ s.started, p.StopsQuietly)
    (hheard : (executeSource w d e t x).refusal = none) :
    ∃ inner, hookCalls inner = [] ∧ Trail.Made (inner ++ stopCalls s.started.reverse) t
      (executeSource w d e t x).trail := by
  have hlive := Executor.liveSession_eq_ok_iff.mpr ⟨hsession, hphase⟩
  obtain ⟨s', inner, hs', hcleared, hmade, hnone⟩ := runSource_goes_on hlive (silent t) x
  obtain ⟨-, -, hstarted, hphase'⟩ := Session.parts_of_cleared hcleared
  have hended : s'.phase ≠ .ended := by simp [hphase', hphase]
  obtain ⟨hran, hstopped⟩ := heard_of_executeSource hheard
  have htrail : (executeSource w d e t x).trail =
      (endSession w (d.listen w t (runSource e (silent t) x)).desktop
        (runSource e (silent t) x).state (runSource e (silent t) x).trail).trail := by
    simp only [executeSource, (heard_spec hran).2]
  rw [← hstarted] at hquiet ⊢
  rw [htrail]
  exact ⟨inner, hnone, Trail.Made.trans hmade (made_endSession hs' hended hquiet hstopped)⟩

/-! ## Starting a session -/

/-- What is left once the session of an execution has started. -/
structure Opened (packs : List Pack) (arguments : List String) (s : Session) (t : Trail) :
    Prop where
  none_fails : startFailure? packs [] = none
  shown : contextFailure? packs (startCalls packs).reverse = none
  phase : s.phase = .started
  started : s.started = packs
  arguments : s.arguments = arguments
  injected : s.injected = false
  references : s.references = Session.packReferences packs
  namespaces : s.namespaces = Session.packNamespaces packs
  made : Trail.Made (startCalls packs ++ contextCalls packs) .empty t

/-- What is left once the session of an execution has failed to start: ending it releases all that
was started. -/
structure Broken (packs : List Pack) (s : Session) (t : Trail) : Prop where
  fails : Session.attemptFailure? packs [] ≠ none
  phase : s.phase ≠ .ended
  started : s.started ⊆ packs
  releases : ∀ t', Trail.Made (stopCalls s.started.reverse) t t' →
    Released packs t'.calls.reverse

/-- If no hook fails, the first session of an execution starts. -/
theorem opened_of_attempt {packs : List Pack} (h : Session.attemptFailure? packs [] = none)
    (arguments : List String) {t : Trail} (ht : Trail.Made [] .empty t) :
    ((Session.new packs arguments).start t).answer = .ok () ∧
      Opened packs arguments ((Session.new packs arguments).start t).state
        ((Session.new packs arguments).start t).trail := by
  have hcalls : t.calls = [] := ht
  have hattempt : Session.attemptFailure? packs t.calls = none := by rwa [hcalls]
  obtain ⟨hanswer, hphase, -, hinjected, hstarted, hmade⟩ :=
    Session.start_of_attempt (s := Session.new packs arguments) rfl hattempt
  obtain ⟨hreferences, hnamespaces⟩ :=
    Session.start_contributes (s := Session.new packs arguments) rfl hattempt
  rw [hcalls] at hreferences hnamespaces
  obtain ⟨-, harguments⟩ := (Session.new packs arguments).start_kept t
  obtain ⟨hfirst, hcontext⟩ := Session.attemptFailure?_eq_none h
  rw [List.append_nil] at hcontext
  exact ⟨hanswer, hfirst, hcontext, hphase, hstarted, harguments, hinjected, hreferences,
    hnamespaces, ht.trans hmade⟩

/-- The first session of an execution starts, or it fails to start. -/
theorem opening_cases (packs : List Pack) (arguments : List String) {t : Trail}
    (ht : Trail.Made [] .empty t) :
    (((Session.new packs arguments).start t).answer = .ok () ∧
      Opened packs arguments ((Session.new packs arguments).start t).state
        ((Session.new packs arguments).start t).trail) ∨
    ∃ f, ((Session.new packs arguments).start t).answer = .error f ∧
      Broken packs ((Session.new packs arguments).start t).state
        ((Session.new packs arguments).start t).trail := by
  have hcalls : t.calls = [] := ht
  cases hattempt : Session.attemptFailure? packs [] with
  | none => exact .inl (opened_of_attempt hattempt arguments ht)
  | some f =>
      have hfails : Session.attemptFailure? packs [] ≠ none := by simp [hattempt]
      rw [Session.attemptFailure?] at hattempt
      cases hstart : startFailure? packs [] with
      | some g =>
          have hstart' : startFailure? packs t.calls = some g := by rwa [hcalls]
          obtain ⟨hanswer, hkeeps, done, p, rest, hcut, hdone, hp, hstarted, hmade⟩ :=
            Session.start_of_startFailure (s := Session.new packs arguments) rfl hstart'
          have hcut' : packs = done ++ p :: rest := hcut
          have hstarted' : ((Session.new packs arguments).start t).state.started = done := hstarted
          refine .inr ⟨g, hanswer, hfails, ?_, ?_, ?_⟩
          · rw [hkeeps.view.phase]
            intro hended
            cases hended
          · rw [hstarted', hcut']
            exact List.subset_append_left done (p :: rest)
          · intro t' hmade'
            rw [hcalls] at hdone hp
            rw [hstarted'] at hmade'
            rw [Trail.reverse_calls ((ht.trans hmade).trans hmade')]
            rw [List.append_nil] at hp
            exact .unstarted hcut' hdone hp
      | none =>
          rw [hstart] at hattempt
          have hstart' : startFailure? packs t.calls = none := by rwa [hcalls]
          have hcontext : contextFailure? packs ((startCalls packs).reverse ++ t.calls) =
              some f := by rwa [hcalls]
          obtain ⟨hanswer, hkeeps, hstarted, asked, p, rest, hcut, hasked, hp, hmade⟩ :=
            Session.start_of_contextFailure (s := Session.new packs arguments) rfl hstart' hcontext
          have hstarted' : ((Session.new packs arguments).start t).state.started = packs := hstarted
          refine .inr ⟨f, hanswer, hfails, ?_, ?_, ?_⟩
          · rw [hkeeps.view.phase]
            intro hended
            cases hended
          · rw [hstarted']
            exact List.Subset.refl packs
          · intro t' hmade'
            rw [hcalls, List.append_nil] at hasked hp
            rw [hstarted'] at hmade'
            rw [Trail.reverse_calls ((ht.trans hmade).trans hmade')]
            exact .unshown hcut hstart hasked hp

/-- The packs of an execution: those that were registered, and those that are installed. -/
def Ready.packs (w : Surroundings) (r : Ready) : List Pack :=
  (r.registry.discover w.entryPoints).1.all

/-- How the session of an execution that is ready is asked to start. -/
def Ready.started (w : Surroundings) (r : Ready) (x : Execution) : Step Executor Unit :=
  r.executor.start .empty (.list x.references) (r.packs w) x.arguments

/-- The start of the session of an execution that is ready. -/
def Ready.opening (w : Surroundings) (r : Ready) (x : Execution) : Course (Desktop × Executor) :=
  startSession w r x

/-- A start of a session that the log broke off at some record. -/
def Ready.broken (w : Surroundings) (r : Ready) (x : Execution) (n : Nat) (f : Failure) :
    Step Executor Unit :=
  brokenOff (r.started w x) ((r.started w x).trail.backTo .empty n) f

theorem settle_of_error (w : Surroundings) (isDebug : Bool) (d : Desktop)
    {started : Step Executor Unit} {f : Failure} (h : started.answer = .error f) :
    ∃ o, (settle w isDebug d started).task = .error o := by
  unfold settle
  rw [h]
  dsimp only
  split <;> exact ⟨_, rfl⟩

/-- The log refuses a record before the session is asked to start, or breaks the start off, or the
session is settled. -/
theorem startSession_cases (w : Surroundings) (r : Ready) (x : Execution) :
    (∃ o f, (r.opening w x).task = .error o ∧ (r.opening w x).refusal = some f ∧
      ((r.opening w x).trail = .empty ∨
        ∃ d n, (r.opening w x).trail = (settle w r.isDebug d (r.broken w x n f)).trail)) ∨
    ∃ d, r.opening w x = settle w r.isDebug d (r.started w x) := by
  unfold Ready.broken Ready.opening Ready.started Ready.packs startSession
  obtain ⟨registry, said⟩ := r.registry.discover w.entryPoints
  dsimp only
  cases r.desktop.hear w said with
  | mk d refusal =>
      cases refusal with
      | some refused => exact .inl ⟨_, refused.2, rfl, rfl, .inl rfl⟩
      | none =>
          simp only [Desktop.listen]
          cases d.hear w ((r.executor.start .empty (.list x.references) registry.all
              x.arguments).trail.records.map Prod.snd).reverse with
          | mk d' refusal' =>
              cases refusal' with
              | none => exact .inr ⟨d', rfl⟩
              | some refused =>
                  obtain ⟨n, f⟩ := refused
                  obtain ⟨o, ho⟩ := settle_of_error w r.isDebug d'
                    (rfl : (brokenOff _ _ f).answer = .error f)
                  exact .inl ⟨o, f, ho, rfl, .inr ⟨d', n, rfl⟩⟩

/-- A session that is settled has started, or was broken off and is ended again. -/
theorem settle_cases {w : Surroundings} {r : Ready} {x : Execution} {g : Executor}
    (hfounding : r.executor.founding [] (.list x.references) = .ok g) (d : Desktop) :
    (∃ s t, settle w r.isDebug d (r.started w x) =
        ⟨.ok (d, { g with session := some s }), t, none⟩ ∧
      Opened (r.packs w) x.arguments s t) ∨
    ∃ s t, Broken (r.packs w) s t ∧ ∃ o, settle w r.isDebug d (r.started w x) =
      (let ended := endSession w d { g with session := some s } t
      ⟨.error o, ended.trail, ended.refusal⟩) := by
  obtain ⟨t, hmade, hstart⟩ :=
    Executor.start_of_founding (t := .empty) hfounding (r.packs w) x.arguments
  rw [Ready.started, hstart]
  rcases opening_cases (r.packs w) x.arguments hmade with
    ⟨hanswer, hopened⟩ | ⟨f, hanswer, hbroken⟩
  · refine .inl ⟨_, _, ?_, hopened⟩
    simp only [settle, Step.lift, hanswer]
  · refine .inr ⟨_, _, hbroken, ?_⟩
    simp only [settle, Step.lift, hanswer, Option.isSome_some, if_true]
    exact ⟨_, rfl⟩

/-- The session of an execution has started if the session was asked for and the command goes on. -/
theorem opened_of_task {w : Surroundings} {r : Ready} {x : Execution} {g e : Executor}
    {d : Desktop} (hfounding : r.executor.founding [] (.list x.references) = .ok g)
    (h : (r.opening w x).task = .ok (d, e)) :
    ∃ s, e = { g with session := some s } ∧
      Opened (r.packs w) x.arguments s (r.opening w x).trail := by
  rcases startSession_cases w r x with ⟨o, f, htask, -⟩ | ⟨d', heq⟩
  · rw [htask] at h
    cases h
  · rw [heq] at h ⊢
    rcases settle_cases hfounding d' with ⟨s, t, hsettle, hopened⟩ | ⟨s, t, -, o, hsettle⟩
    · rw [hsettle] at h ⊢
      cases h
      exact ⟨s, rfl, hopened⟩
    · rw [hsettle] at h
      cases h

/-- The session of an execution starts if no hook fails and the log takes every record. -/
theorem opened_of_attempts {w : Surroundings} {r : Ready} {x : Execution} {g : Executor}
    (hfounding : r.executor.founding [] (.list x.references) = .ok g)
    (hattempt : Session.attemptFailure? (r.packs w) [] = none)
    (hheard : (r.opening w x).refusal = none) :
    ∃ d s, (r.opening w x).task = .ok (d, { g with session := some s }) ∧
      Opened (r.packs w) x.arguments s (r.opening w x).trail := by
  rcases startSession_cases w r x with ⟨o, f, -, hrefused, -⟩ | ⟨d, heq⟩
  · rw [hrefused] at hheard
    cases hheard
  · rw [heq]
    rcases settle_cases hfounding d with ⟨s, t, hsettle, hopened⟩ | ⟨s, t, hbroken, -⟩
    · rw [hsettle]
      exact ⟨d, s, rfl, hopened⟩
    · exact absurd hattempt hbroken.fails

/-- A session starts, or the packs that were started are stopped again. -/
theorem opened_or_released {w : Surroundings} {r : Ready} {x : Execution}
    (hnone : r.executor.session = none) (hfolders : r.executor.fileSystem.HasFolders)
    (hquiet : ∀ p ∈ r.packs w, p.StopsQuietly)
    (hheard : (r.opening w x).refusal = none) :
    (∃ o, (r.opening w x).task = .error o ∧
      Released (r.packs w) (r.opening w x).trail.calls.reverse) ∨
    ∃ d e s, (r.opening w x).task = .ok (d, e) ∧ e.session = some s ∧
      Opened (r.packs w) x.arguments s (r.opening w x).trail := by
  obtain ⟨g, hfounding⟩ := Executor.founding_of_folders hnone hfolders x.references
  rcases startSession_cases w r x with ⟨o, f, -, hrefused, -⟩ | ⟨d, heq⟩
  · rw [hrefused] at hheard
    cases hheard
  · rw [heq] at hheard ⊢
    rcases settle_cases hfounding d with ⟨s, t, hsettle, hopened⟩ | ⟨s, t, hbroken, o, hsettle⟩
    · rw [hsettle]
      exact .inr ⟨d, _, s, rfl, rfl, hopened⟩
    · rw [hsettle] at hheard ⊢
      have hstarted := fun p hp => hquiet p (hbroken.started hp)
      exact .inl ⟨o, rfl, hbroken.releases _ (made_endSession rfl hbroken.phase hstarted hheard)⟩

/-! ## The law of an execution -/

theorem trail_report (w : Surroundings) (x : Execution) (d : Desktop) (result : ScriptResult)
    (t : Trail) : (report w x d result t).trail = t := by
  unfold report
  dsimp only
  split <;> rfl

theorem andThen_of_error {α β : Type} {c : Course α} {o : Outcome} (h : c.task = .error o)
    (next : α → Trail → Course β) :
    (c.andThen next).trail = c.trail ∧ (c.andThen next).refusal = c.refusal := by
  rw [Course.andThen, h]
  exact ⟨rfl, rfl⟩

theorem andThen_of_ok {α β : Type} {c : Course α} {a : α} (h : c.task = .ok a)
    (next : α → Trail → Course β) :
    (c.andThen next).task = (next a c.trail).task ∧
      (c.andThen next).trail = (next a c.trail).trail ∧
      ((c.andThen next).refusal = none → c.refusal = none ∧ (next a c.trail).refusal = none) := by
  rw [Course.andThen, h]
  refine ⟨rfl, rfl, ?_⟩
  intro hnone
  cases hrefusal : c.refusal with
  | none =>
      rw [hrefusal] at hnone
      exact ⟨rfl, hnone⟩
  | some f => simp [hrefusal] at hnone

/-- If the log takes every record of a chain of stretches, it takes those of the first one. -/
theorem heard_of_andThen {α β : Type} {c : Course α} {next : α → Trail → Course β}
    (h : (c.andThen next).refusal = none) : c.refusal = none := by
  cases htask : c.task with
  | error o => exact (andThen_of_error htask next).2.symm.trans h
  | ok a => exact ((andThen_of_ok htask next).2.2 h).1

/-- An execution that is ready, over any file system with folders, releases what it started. -/
theorem conduct_releases {w : Surroundings} {r : Ready} {x : Execution}
    (hnone : r.executor.session = none) (hfolders : r.executor.fileSystem.HasFolders)
    (hquiet : ∀ p ∈ r.packs w, p.StopsQuietly) (hheard : (conduct w r x).refusal = none) :
    Released (r.packs w) (conduct w r x).trail.calls.reverse := by
  have hopening : (r.opening w x).refusal = none := heard_of_andThen hheard
  rcases opened_or_released hnone hfolders hquiet hopening with
    ⟨o, htask, hreleased⟩ | ⟨d, e, s, htask, hsession, hopened⟩
  · have htrail : (conduct w r x).trail = (r.opening w x).trail := (andThen_of_error htask _).1
    rw [htrail]
    exact hreleased
  · have hstarted : ∀ p ∈ s.started, p.StopsQuietly := by
      rw [hopened.started]
      exact hquiet
    have hlater := ((andThen_of_ok htask _).2.2 hheard).2
    obtain ⟨inner, hinner, hmade⟩ :=
      made_executeSource hsession hopened.phase hstarted (heard_of_andThen hlater)
    have htrail : (conduct w r x).trail =
        (executeSource w d e (r.opening w x).trail x).trail := by
      refine (andThen_of_ok htask _).2.1.trans ?_
      cases hran : (executeSource w d e (r.opening w x).trail x).task with
      | error o => exact (andThen_of_error hran _).1
      | ok a => exact (andThen_of_ok hran _).2.1.trans (trail_report w x a.1 a.2 _)
    have hall := Trail.reverse_calls (hopened.made.trans hmade)
    rw [htrail, hall, hopened.started, ← List.append_assoc]
    exact .executed hopened.none_fails hopened.shown hinner

/-- A failed start that left no session is settled by telling its failure: nothing is called. -/
theorem trail_settle (w : Surroundings) (isDebug : Bool) (d : Desktop)
    {started : Step Executor Unit} {f : Failure} (hanswer : started.answer = .error f)
    (hnone : started.state.session = none) :
    (settle w isDebug d started).trail = started.trail := by
  unfold settle
  rw [hanswer]
  simp only [hnone, Option.isSome_none, Bool.false_eq_true, if_false]

/-- Where the file system cannot say where it is or lacks a folder, no session is founded: it does
not open, and nothing is called. -/
theorem opening_of_no_folders {w : Surroundings} {r : Ready} {x : Execution}
    (hnone : r.executor.session = none) (hfolders : ¬ r.executor.fileSystem.HasFolders) :
    (∃ o, (r.opening w x).task = .error o) ∧ (r.opening w x).trail.calls = [] := by
  have hfounding : ∃ f, r.executor.founding [] (.list x.references) = .error f := by
    cases hfounding : r.executor.founding [] (.list x.references) with
    | ok g => exact absurd (Executor.folders_of_founding hfounding) hfolders
    | error f => exact ⟨f, rfl⟩
  obtain ⟨f, hfounding⟩ := hfounding
  obtain ⟨hanswer, hsession, -, hmade⟩ :=
    Executor.start_of_founding_error (t := .empty) hfounding (r.packs w) x.arguments
  have hleft : (r.started w x).state.session = none := hsession.trans hnone
  rcases startSession_cases w r x with ⟨o, g, htask, -, htrail | ⟨d, n, htrail⟩⟩ | ⟨d, heq⟩
  · exact ⟨⟨o, htask⟩, by rw [htrail]; rfl⟩
  · have hbroken : (r.broken w x n g).state.session = none := by
      simp [Ready.broken, brokenOff, Step.error, hleft]
    obtain ⟨k, hcut⟩ := hmade.backTo n
    rw [List.take_nil] at hcut
    rw [trail_settle w r.isDebug _ (f := g) rfl hbroken] at htrail
    exact ⟨⟨o, htask⟩, by rw [htrail]; exact hcut⟩
  · have htrail := trail_settle w r.isDebug d hanswer hleft
    rw [heq]
    exact ⟨settle_of_error w r.isDebug d hanswer, (congrArg Trail.calls htrail).trans hmade⟩

theorem conduct_of_no_folders {w : Surroundings} {r : Ready} {x : Execution}
    (hnone : r.executor.session = none) (hfolders : ¬ r.executor.fileSystem.HasFolders) :
    (∃ o, (conduct w r x).task = .error o) ∧ (conduct w r x).trail.calls = [] := by
  obtain ⟨⟨o, htask⟩, hcalls⟩ := opening_of_no_folders (w := w) (x := x) hnone hfolders
  have htrail : (conduct w r x).trail = (r.opening w x).trail := (andThen_of_error htask _).1
  refine ⟨⟨o, ?_⟩, htrail ▸ hcalls⟩
  change ((r.opening w x).andThen _).task = _
  rw [Course.andThen, htask]

/-- An execution that is ready, over another file system. -/
def Ready.over (r : Ready) (fs : FileSystem) : Ready :=
  { r with executor := { r.executor with fileSystem := fs } }

/-- The law of the hooks of an execution. -/
structure ReleaseLaw (w : Surroundings) (d : Disk) (m : Manner) (x : Execution) : Prop where
  /-- If the configuration, the log, the executor or a pack cannot be had, nothing is called. -/
  unready : ∀ o, prepare w d m x = .error o → (runScript w d m x).trail.calls = []
  /-- An execution that is ready can tell where it is, and has its folders, if the current directory
  is there or the configuration names another. -/
  placed : ∀ r c, prepare w d m x = .ok r → configuration w d m.configuration = .ok c →
    c.folders.currentDirectory.isSome = true ∨ r.desktop.disk.isLost = false →
    r.executor.fileSystem.HasFolders
  /-- Whatever comes out of such an execution, what it started is released. -/
  released : ∀ r, prepare w d m x = .ok r → r.executor.fileSystem.HasFolders →
    (∀ p ∈ r.packs w, p.StopsQuietly) → (runScript w d m x).refusal = none →
    Released (r.packs w) (runScript w d m x).trail.calls.reverse
  /-- Any other fails before there is a session, and nothing is called. -/
  lost : ∀ r, prepare w d m x = .ok r → ¬ r.executor.fileSystem.HasFolders →
    (runScript w d m x).trail.calls = []
  /-- The same is true of any other file system, at whatever calls it fails: what was started is
  released, if it can tell where it is and has its folders, -/
  anywhere : ∀ r, prepare w d m x = .ok r → (∀ p ∈ r.packs w, p.StopsQuietly) →
    ∀ fs : FileSystem, fs.HasFolders → (conduct w (r.over fs) x).refusal = none →
    Released (r.packs w) (conduct w (r.over fs) x).trail.calls.reverse
  /-- and else nothing is called. -/
  nowhere : ∀ r, prepare w d m x = .ok r → ∀ fs : FileSystem, ¬ fs.HasFolders →
    (conduct w (r.over fs) x).trail.calls = []

/-- Every execution releases what it started. -/
theorem run_releases (w : Surroundings) (d : Disk) (m : Manner) (x : Execution) :
    ReleaseLaw w d m x := by
  constructor
  case unready =>
    intro o h
    rw [runScript, h]
    rfl
  case placed =>
    intro r c h hc hplace
    obtain ⟨-, c', folders, hc', hpinned, hfs⟩ := executor_of_ready h
    cases hc.symm.trans hc'
    rw [hfs]
    apply Disk.fileSystem_hasFolders
    rwa [FolderSettings.isSome_pinned hpinned]
  case released =>
    intro r h hfolders hquiet hheard
    rw [runScript, h] at hheard ⊢
    exact conduct_releases (executor_of_ready h).1 hfolders hquiet hheard
  case lost =>
    intro r h hfolders
    rw [runScript, h]
    exact (conduct_of_no_folders (executor_of_ready h).1 hfolders).2
  case anywhere =>
    intro r h hquiet fs hfolders hheard
    exact conduct_releases (r := r.over fs) (executor_of_ready h).1 hfolders hquiet hheard
  case nowhere =>
    intro r h fs hfolders
    exact (conduct_of_no_folders (r := r.over fs) (executor_of_ready h).1 hfolders).2

/-! ## A sample -/

/-- A directory with a bundle in it. -/
def sampleDisk : Disk where
  nodes := [(["work"], .directory), (["work", "packages"], .directory),
    (["work", "packages", "ScriptLibraries.csx"], .file (Text.encodeUtf8 "lib();"))]
  place := ["work"]

/-- A pack that contributes a reference and a namespace. -/
def greeter : Pack :=
  .steady ⟨"greeter", "greeter", "Greeter"⟩
    [.addReference (some "Greetings.dll"), .importNamespace (some "Greetings")] none

/-- A pack that fails to start. -/
def mute : Pack := .steady ⟨"mute", "mute", "Mute"⟩ [.addReference none] none

/-- Surroundings in which both packs can be had. -/
def sampleGreetings (environment : Environment) : Surroundings where
  catalogue := .plain "greetings" false [("Greeter", .packClass "Greeter" (.ok greeter)),
    ("Mute", .packClass "Mute" (.ok mute))] :: Plugin.builtIn
  home := "/usr/share/host"
  entryPoints := []
  environment := environment
  stamp := ⟨"", ""⟩
  duration := .finite false 0 0

def sampleManner : Manner := ⟨false, false, none⟩

/-- The disk once its current directory was removed. -/
def strandedDisk : Disk := { sampleDisk with isLost := true }

/-- The sample surroundings with a log file that is a directory. -/
def unloggedGreetings : Surroundings :=
  sampleGreetings [("SCRIPTCORE_LOGGING__FILE", "/work/packages")]

def greetingExecution : Execution := ⟨.text "one();", [], ["greetings:Greeter"], []⟩

/-- If packs are to be started, it is not nothing that is called. -/
theorem not_released_nil {p : Pack} {ps : List Pack} : ¬ Released (p :: ps) [] := by
  intro h
  generalize hnothing : ([] : List Call) = calls at h
  cases h with
  | unstarted cut started fails => simp at hnothing
  | unshown cut started shown fails => simp [startCalls, Pack.startCalls] at hnothing
  | executed started shown quiet => simp [startCalls, Pack.startCalls] at hnothing

/-- In a directory that was removed an execution gets ready and ends without a call, and so it does
before it is ready if the log file is a directory, though the configuration, the executor and the
packs can be had: neither releases what is asked of it. -/
theorem nothing_called_in_sample :
    (∃ r, prepare (sampleGreetings []) strandedDisk sampleManner greetingExecution = .ok r ∧
      r.packs (sampleGreetings []) = [greeter] ∧ greeter.StopsQuietly ∧
      ¬ r.executor.fileSystem.HasFolders ∧
      (runScript (sampleGreetings []) strandedDisk sampleManner greetingExecution).refusal = none ∧
      ¬ Released [greeter] (runScript (sampleGreetings []) strandedDisk sampleManner
        greetingExecution).trail.calls.reverse) ∧
    ∃ c e registry, configuration unloggedGreetings sampleDisk sampleManner.configuration = .ok c ∧
      executor unloggedGreetings sampleDisk c = .ok e ∧
      registerAll unloggedGreetings.catalogue (.new true)
        (c.execution.packs ++ greetingExecution.packs) = .ok registry ∧
      registry.all = [greeter] ∧
      (runScript unloggedGreetings sampleDisk sampleManner greetingExecution).refusal = none ∧
      ¬ Released [greeter] (runScript unloggedGreetings sampleDisk sampleManner
        greetingExecution).trail.calls.reverse := by
  refine ⟨⟨_, rfl, rfl, fun _ => rfl, ?_, rfl, not_released_nil⟩, _, _, _, rfl, rfl, rfl, rfl, rfl,
    not_released_nil⟩
  rintro ⟨current, -, -, hcurrent, -⟩
  cases hcurrent

/-- The pack that started is stopped after the other one failed to start. -/
example : (runScript (sampleGreetings []) sampleDisk sampleManner
    ⟨.text "one();", [], ["greetings:Greeter", "greetings:Mute"], []⟩).trail.calls.reverse =
      [.startPack greeter.label, .startedPack greeter.label, .startPack mute.label,
        .stopPack greeter.label] := rfl

end Command

end ScriptHost
