import ScriptHost.Proofs.Session.Hooks

/-!
# The life of a session

A session is started, reset and ended in any order and any number of times, with packs whose hooks
fail or not at each call.  Whatever happens, its phase only moves forward, a refused operation
leaves no trace, the packs recorded as started are those whose start hooks completed, and ending
the session stops them newest first.

The journal of a run is the list of calls between two trails; a pack shows in it by its label.

## Main results

* `lifecycle` — the law of a whole run, over any packs and any operations.
-/

namespace ScriptHost

/-! ## Packs in a journal -/

/-- The pack that has started by a call. -/
def Call.startedLabel? : Call → Option PackLabel
  | .startedPack label => some label
  | _ => none

/-- The pack that is stopped by a call. -/
def Call.stoppedLabel? : Call → Option PackLabel
  | .stopPack label => some label
  | _ => none

/-- The packs whose start hooks completed, in the order of a journal. -/
def startedLabels (calls : List Call) : List PackLabel := calls.filterMap Call.startedLabel?

/-- The packs whose stop hooks were called, in the order of a journal. -/
def stoppedLabels (calls : List Call) : List PackLabel := calls.filterMap Call.stoppedLabel?

@[simp] theorem startedLabels_append (cs ds : List Call) :
    startedLabels (cs ++ ds) = startedLabels cs ++ startedLabels ds :=
  List.filterMap_append

@[simp] theorem stoppedLabels_append (cs ds : List Call) :
    stoppedLabels (cs ++ ds) = stoppedLabels cs ++ stoppedLabels ds :=
  List.filterMap_append

namespace Session

@[simp] theorem startedLabels_startCalls (ps : List Pack) :
    startedLabels (startCalls ps) = ps.map Pack.label := by
  induction ps with
  | nil => rfl
  | cons p ps ih =>
      change p.label :: startedLabels (startCalls ps) = p.label :: ps.map Pack.label
      rw [ih]

@[simp] theorem stoppedLabels_startCalls (ps : List Pack) :
    stoppedLabels (startCalls ps) = [] := by
  induction ps with
  | nil => rfl
  | cons p ps ih => exact ih

@[simp] theorem startedLabels_contextCalls (ps : List Pack) :
    startedLabels (contextCalls ps) = [] := by
  induction ps with
  | nil => rfl
  | cons p ps ih => exact ih

@[simp] theorem stoppedLabels_contextCalls (ps : List Pack) :
    stoppedLabels (contextCalls ps) = [] := by
  induction ps with
  | nil => rfl
  | cons p ps ih => exact ih

@[simp] theorem startedLabels_stopCalls (ps : List Pack) : startedLabels (stopCalls ps) = [] := by
  induction ps with
  | nil => rfl
  | cons p ps ih => exact ih

@[simp] theorem stoppedLabels_stopCalls (ps : List Pack) :
    stoppedLabels (stopCalls ps) = ps.map Pack.label := by
  induction ps with
  | nil => rfl
  | cons p ps ih =>
      change p.label :: stoppedLabels (stopCalls ps) = p.label :: ps.map Pack.label
      rw [ih]

/-! ## Operations -/

/-- What may be asked of a session in the course of its life. -/
inductive Operation where
  | start
  | reset
  | stop
  deriving DecidableEq, Repr

/-- Does an operation. -/
def perform (s : Session) (t : Trail) : Operation → Step Session Unit
  | .start => s.start t
  | .reset => s.reset t
  | .stop => s.stop t

/-- Whether a turn was refused: the session answered a refusal of its own, and called no hook. -/
def Refused (x : Turn Session Operation) : Prop :=
  (∃ refusal, (x.step perform).answer = .error (.session refusal)) ∧
    (x.step perform).trail.calls = x.trail.calls

/-- Whether no stop hook failed in any turn. -/
def NoStopFailure (xs : List (Turn Session Operation)) : Prop :=
  ∀ x ∈ xs, x.operation = .stop → stopFailure? x.state.started.reverse x.trail.calls = none

end Session

/-- Whether a phase may come after another, or be the same. -/
def Phase.Forward : Phase → Phase → Prop
  | .notStarted, _ => True
  | .started, q => q ≠ .notStarted
  | .ended, q => q = .ended

theorem Phase.Forward.refl (p : Phase) : p.Forward p := by
  cases p with
  | notStarted => trivial
  | started => exact nofun
  | ended => rfl

namespace Session

/-! ## What each operation does to the journal -/

/-- The calls of a failed attempt are not empty, so a failed hook is never taken for a refusal. -/
theorem attempt_calls_ne_nil {done : List Pack} {tail : List Call}
    (h : (∃ p, tail = [.startPack p]) ∨ ∃ asked, asked ≠ [] ∧ tail = contextCalls asked) :
    startCalls done ++ tail ≠ [] := by
  intro hnil
  have htail : tail = [] := (List.append_eq_nil_iff.mp hnil).2
  rcases h with ⟨p, rfl⟩ | ⟨asked, hne, rfl⟩
  · cases htail
  · exact hne (List.map_eq_nil_iff.mp htail)

theorem attempt_tail_labels {tail : List Call}
    (h : (∃ p, tail = [.startPack p]) ∨ ∃ asked, asked ≠ [] ∧ tail = contextCalls asked) :
    startedLabels tail = [] ∧ stoppedLabels tail = [] := by
  rcases h with ⟨p, rfl⟩ | ⟨asked, -, rfl⟩
  · exact ⟨rfl, rfl⟩
  · exact ⟨startedLabels_contextCalls asked, stoppedLabels_contextCalls asked⟩

/-- Starting a session records the packs whose start hooks complete, and stops none. -/
theorem start_journal {s : Session} (h : s.phase = .notStarted) (t : Trail) :
    ∃ cs, Trail.Made cs t (s.start t).trail ∧ stoppedLabels cs = [] ∧
      (s.start t).state.started.map Pack.label = s.started.map Pack.label ++ startedLabels cs ∧
      (∀ p ∈ (s.start t).state.started, p ∈ s.started ∨ p ∈ s.packs) ∧
      (s.start t).state.packs = s.packs ∧ (s.start t).state.phase ≠ .ended := by
  cases hattempt : attemptFailure? s.packs t.calls with
  | none =>
      obtain ⟨-, hphase, hpacks, -, hstarted, hmade⟩ := start_of_attempt h hattempt
      refine ⟨_, hmade, by simp, ?_, ?_, hpacks, by simp [hphase]⟩
      · simp [hstarted]
      · intro p hp
        rwa [hstarted, List.mem_append] at hp
  | some f =>
      obtain ⟨-, hkeeps, done, rest, tail, hpacks, hstarted, hmade, htail⟩ :=
        start_of_attemptFailure h hattempt
      obtain ⟨hstart, hstop⟩ := attempt_tail_labels htail
      refine ⟨_, hmade, by simp [hstop], ?_, ?_, hkeeps.packs, ?_⟩
      · simp [hstarted, hstart]
      · intro p hp
        rw [hstarted, List.mem_append] at hp
        rcases hp with hp | hp
        · exact .inl hp
        · refine .inr ?_
          rw [hpacks]
          exact List.mem_append_left _ hp
      · rw [hkeeps.view.phase, h]
        exact nofun

/-- Ending a session stops packs that are recorded as started, newest first. -/
theorem stop_journal {s : Session} (h : s.phase ≠ .ended) (t : Trail) :
    ∃ cs, Trail.Made cs t (s.stop t).trail ∧ startedLabels cs = [] ∧
      stoppedLabels cs <+: (s.started.map Pack.label).reverse ∧
      (stopFailure? s.started.reverse t.calls = none →
        stoppedLabels cs = (s.started.map Pack.label).reverse) := by
  obtain ⟨-, -, called, rest, hcut, -, hmade, hall⟩ := stop_of_not_ended h t
  have hlabels : (s.started.map Pack.label).reverse =
      called.map Pack.label ++ rest.map Pack.label := by
    rw [← List.map_reverse, hcut, List.map_append]
  refine ⟨_, hmade, by simp, ?_, ?_⟩
  · rw [stoppedLabels_stopCalls, hlabels]
    exact List.prefix_append _ _
  · intro hnone
    rw [stoppedLabels_stopCalls, hlabels, hall hnone]
    simp

/-! ## Refusals -/

/-- A new session that fails to start has called a hook. -/
theorem start_failure_calls {s : Session} {t : Trail} {f : Failure}
    (hphase : s.phase = .notStarted) (h : (s.start t).answer = .error f) :
    (s.start t).trail.calls ≠ t.calls := by
  cases hattempt : attemptFailure? s.packs t.calls with
  | none =>
      rw [(start_of_attempt hphase hattempt).1] at h
      cases h
  | some g =>
      obtain ⟨-, -, done, rest, tail, -, -, hmade, htail⟩ :=
        start_of_attemptFailure hphase hattempt
      exact hmade.calls_ne (attempt_calls_ne_nil htail)

/-- A session that has not ended and fails to end has called a hook. -/
theorem stop_failure_calls {s : Session} {t : Trail} {f : Failure} (hphase : s.phase ≠ .ended)
    (h : (s.stop t).answer = .error f) : (s.stop t).trail.calls ≠ t.calls := by
  obtain ⟨-, houtcome, called, rest, hcut, hnil, hmade, -⟩ := stop_of_not_ended hphase t
  cases called with
  | cons p called => exact hmade.calls_ne nofun
  | nil =>
      rw [hnil rfl, List.append_nil] at hcut
      rw [houtcome, hcut] at h
      cases h

theorem start_refused_iff {s : Session} {t : Trail} :
    Refused ⟨s, t, .start⟩ ↔ s.phase ≠ .notStarted := by
  constructor
  · rintro ⟨⟨refusal, hanswer⟩, hcalls⟩ hphase
    exact start_failure_calls hphase hanswer hcalls
  · intro hphase
    have hstart := start_of_not_new hphase t
    exact ⟨⟨_, congrArg Step.answer hstart⟩, congrArg (fun x => x.trail.calls) hstart⟩

theorem reset_refused_iff {s : Session} {t : Trail} :
    Refused ⟨s, t, .reset⟩ ↔ s.phase = .ended := by
  constructor
  · rintro ⟨⟨refusal, hanswer⟩, -⟩
    by_cases hphase : s.phase = .ended
    · exact hphase
    · simp only [Turn.step, perform, reset_of_not_ended hphase] at hanswer
      cases hanswer
  · intro hphase
    have hreset := reset_of_ended hphase t
    exact ⟨⟨_, congrArg Step.answer hreset⟩, congrArg (fun x => x.trail.calls) hreset⟩

theorem stop_refused_iff {s : Session} {t : Trail} :
    Refused ⟨s, t, .stop⟩ ↔ s.phase = .ended := by
  constructor
  · rintro ⟨⟨refusal, hanswer⟩, hcalls⟩
    by_cases hphase : s.phase = .ended
    · exact hphase
    · exact absurd hcalls (stop_failure_calls hphase hanswer)
  · intro hphase
    have hstop := stop_of_ended hphase t
    exact ⟨⟨_, congrArg Step.answer hstop⟩, congrArg (fun x => x.trail.calls) hstop⟩

/-- A refused operation changes nothing and says nothing. -/
theorem refused_unchanged {x : Turn Session Operation} (h : Refused x) :
    (x.step perform).state = x.state ∧ (x.step perform).trail = x.trail := by
  obtain ⟨s, t, op⟩ := x
  cases op with
  | start =>
      have hstart := start_of_not_new (start_refused_iff.mp h) t
      exact ⟨congrArg Step.state hstart, congrArg Step.trail hstart⟩
  | reset =>
      have hreset := reset_of_ended (reset_refused_iff.mp h) t
      exact ⟨congrArg Step.state hreset, congrArg Step.trail hreset⟩
  | stop =>
      have hstop := stop_of_ended (stop_refused_iff.mp h) t
      exact ⟨congrArg Step.state hstop, congrArg Step.trail hstop⟩

/-! ## Phases -/

theorem perform_forward (s : Session) (t : Trail) (op : Operation) :
    s.phase.Forward (s.perform t op).state.phase := by
  cases op with
  | start =>
      by_cases hphase : s.phase = .notStarted
      · rw [hphase]
        trivial
      · have hstart := start_of_not_new hphase t
        simp only [perform, hstart]
        exact .refl s.phase
  | reset =>
      by_cases hphase : s.phase = .ended
      · simp only [perform, reset_of_ended hphase]
        exact .refl s.phase
      · simp only [perform, reset_of_not_ended hphase]
        exact .refl s.phase
  | stop =>
      have hended := stop_phase s t
      simp only [perform, hended]
      cases s.phase with
      | notStarted => trivial
      | started => exact nofun
      | ended => rfl

/-- A session becomes started exactly when it is asked to start for the first time and no hook of
the attempt fails. -/
theorem becomes_started_iff (s : Session) (t : Trail) (op : Operation) :
    (s.phase ≠ .started ∧ (s.perform t op).state.phase = .started) ↔
      op = .start ∧ s.phase = .notStarted ∧ attemptFailure? s.packs t.calls = none := by
  cases op with
  | start =>
      by_cases hphase : s.phase = .notStarted
      · cases hattempt : attemptFailure? s.packs t.calls with
        | none =>
            have hstarted := (start_of_attempt hphase hattempt).2.1
            simp [perform, hphase, hstarted]
        | some f =>
            have hkept := (start_of_attemptFailure hphase hattempt).2.1.view.phase
            simp [perform, hphase, hkept]
      · have hstart := start_of_not_new hphase t
        simp [perform, hstart, hphase, Step.error]
  | reset =>
      by_cases hphase : s.phase = .ended
      · simp [perform, reset_of_ended hphase, Step.error]
      · simp [perform, reset_of_not_ended hphase, Step.ok, cleared]
  | stop => simp [perform, stop_phase]

/-! ## The whole life -/

/-- What holds after some turns of a run that began with a new session of the packs at a trail. -/
structure Inv (packs : List Pack) (t₀ : Trail) (past : List (Turn Session Operation))
    (s : Session) (t : Trail) : Prop where
  same_packs : s.packs = packs
  members : ∀ p ∈ s.started, p ∈ packs
  journal : ∃ cs, Trail.Made cs t₀ t ∧
    (s.phase ≠ .ended →
      s.started.map Pack.label = startedLabels cs ∧ stoppedLabels cs = []) ∧
    (s.phase = .ended → s.started = [] ∧ stoppedLabels cs <+: (startedLabels cs).reverse ∧
      (NoStopFailure past → stoppedLabels cs = (startedLabels cs).reverse))

theorem NoStopFailure.of_append {past : List (Turn Session Operation)}
    {x : Turn Session Operation} (h : NoStopFailure (past ++ [x])) : NoStopFailure past :=
  fun y hy => h y (List.mem_append_left _ hy)

theorem inv_new (packs : List Pack) (arguments : List String) (t : Trail) :
    Inv packs t [] (new packs arguments) t :=
  ⟨rfl, nofun, [], .refl t, fun _ => ⟨rfl, rfl⟩, nofun⟩

/-- A turn that leaves the session and its trail alone keeps the invariant. -/
theorem Inv.of_unchanged {packs : List Pack} {t₀ t : Trail} {s : Session}
    {past : List (Turn Session Operation)} (h : Inv packs t₀ past s t)
    (x : Turn Session Operation) : Inv packs t₀ (past ++ [x]) s t := by
  obtain ⟨hpacks, hmembers, cs, hmade, hlive, hended⟩ := h
  refine ⟨hpacks, hmembers, cs, hmade, hlive, ?_⟩
  intro hphase
  obtain ⟨hnil, hinitial, hall⟩ := hended hphase
  exact ⟨hnil, hinitial, fun hno => hall hno.of_append⟩

theorem inv_perform {packs : List Pack} {t₀ : Trail} (past : List (Turn Session Operation))
    (s : Session) (t : Trail) (op : Operation) (h : Inv packs t₀ past s t) :
    Inv packs t₀ (past ++ [⟨s, t, op⟩]) (s.perform t op).state (s.perform t op).trail := by
  by_cases hrefused : Refused ⟨s, t, op⟩
  · obtain ⟨hstate, htrail⟩ := refused_unchanged hrefused
    simp only [Turn.step] at hstate htrail
    rw [hstate, htrail]
    exact h.of_unchanged _
  obtain ⟨hpacks, hmembers, cs, hmade, hlive, -⟩ := h
  cases op with
  | start =>
      have hphase : s.phase = .notStarted := by
        rw [start_refused_iff] at hrefused
        exact Classical.not_not.mp hrefused
      obtain ⟨hrecorded, hnone⟩ := hlive (by simp [hphase])
      obtain ⟨ds, hmade', hstop, hstarted, hfrom, hpacks', hphase'⟩ := start_journal hphase t
      refine ⟨hpacks'.trans hpacks, ?_, cs ++ ds, hmade.trans hmade', ?_,
        fun hended => absurd hended hphase'⟩
      · intro p hp
        rcases hfrom p hp with hp | hp
        · exact hmembers p hp
        · exact hpacks ▸ hp
      · intro _
        rw [perform, hstarted, hrecorded, startedLabels_append, stoppedLabels_append, hnone, hstop]
        exact ⟨rfl, rfl⟩
  | reset =>
      have hphase : s.phase ≠ .ended := fun he => hrefused (reset_refused_iff.mpr he)
      simp only [perform, reset_of_not_ended hphase]
      exact ⟨hpacks, hmembers, cs, hmade, hlive, fun hended => absurd hended hphase⟩
  | stop =>
      have hphase : s.phase ≠ .ended := fun he => hrefused (stop_refused_iff.mpr he)
      obtain ⟨hrecorded, hnone⟩ := hlive hphase
      obtain ⟨ds, hmade', hstart, hinitial, hall⟩ := stop_journal hphase t
      obtain ⟨hstate, -⟩ := stop_of_not_ended hphase t
      have hlabels : startedLabels (cs ++ ds) = s.started.map Pack.label := by
        rw [startedLabels_append, hstart, hrecorded, List.append_nil]
      have hstops : stoppedLabels (cs ++ ds) = stoppedLabels ds := by
        rw [stoppedLabels_append, hnone, List.nil_append]
      simp only [perform, hstate]
      refine ⟨hpacks, nofun, cs ++ ds, hmade.trans hmade', fun hne => absurd rfl hne, ?_⟩
      intro _
      rw [hlabels, hstops]
      refine ⟨rfl, hinitial, ?_⟩
      intro hno
      exact hall (hno ⟨s, t, .stop⟩ (by simp) rfl)

/-- The law of the life of a session over packs: of its turns, and of the state and the trail at
its end. -/
structure Lifecycle (packs : List Pack) (t₀ : Trail) (xs : List (Turn Session Operation))
    (s : Session) (t : Trail) : Prop where
  /-- The phase only moves forward. -/
  forward : ∀ x ∈ xs, x.state.phase.Forward (x.step perform).state.phase
  start_refused : ∀ x ∈ xs, x.operation = .start → (Refused x ↔ x.state.phase ≠ .notStarted)
  reset_refused : ∀ x ∈ xs, x.operation = .reset → (Refused x ↔ x.state.phase = .ended)
  stop_refused : ∀ x ∈ xs, x.operation = .stop → (Refused x ↔ x.state.phase = .ended)
  /-- A refused operation changes nothing. -/
  refused : ∀ x ∈ xs, Refused x →
    (x.step perform).state = x.state ∧ (x.step perform).trail = x.trail
  /-- The session becomes started by an attempt in which no hook fails, and only so. -/
  becomes_started : ∀ x ∈ xs,
    (x.state.phase ≠ .started ∧ (x.step perform).state.phase = .started) ↔
      x.operation = .start ∧ x.state.phase = .notStarted ∧
        attemptFailure? packs x.trail.calls = none
  /-- Until the session ends, the packs recorded are those whose start hooks completed. -/
  recorded : s.phase ≠ .ended →
    s.started.map Pack.label = startedLabels (t.callsSince t₀) ∧
      stoppedLabels (t.callsSince t₀) = []
  members : ∀ p ∈ s.started, p ∈ packs
  /-- Packs are stopped in the reverse order in which they started. -/
  stopped : stoppedLabels (t.callsSince t₀) <+: (startedLabels (t.callsSince t₀)).reverse
  stopped_all : s.phase = .ended → NoStopFailure xs →
    stoppedLabels (t.callsSince t₀) = (startedLabels (t.callsSince t₀)).reverse
  /-- No pack is stopped that did not start. -/
  stopped_started : ∀ label ∈ stoppedLabels (t.callsSince t₀),
    label ∈ startedLabels (t.callsSince t₀)

/-- Over any packs, whose hooks fail or not at each call, every sequence of operations on a new
session obeys the law of its life. -/
theorem lifecycle (packs : List Pack) (arguments : List String) (t : Trail)
    (ops : List Operation) :
    Lifecycle packs t (turns perform (new packs arguments) t ops)
      (finish perform (new packs arguments) t ops).1
      (finish perform (new packs arguments) t ops).2 := by
  have hinv := past_invariant_finish perform (P := Inv packs t) inv_perform
    (inv_new packs arguments t) ops
  obtain ⟨-, hmembers, cs, hmade, hlive, hended⟩ := hinv
  have hinitial : stoppedLabels cs <+: (startedLabels cs).reverse := by
    by_cases hphase : (finish perform (new packs arguments) t ops).1.phase = .ended
    · exact (hended hphase).2.1
    · rw [(hlive hphase).2]
      exact List.nil_prefix
  constructor
  case forward => exact fun x _ => perform_forward x.state x.trail x.operation
  case start_refused =>
    rintro ⟨s, t, op⟩ - rfl
    exact start_refused_iff
  case reset_refused =>
    rintro ⟨s, t, op⟩ - rfl
    exact reset_refused_iff
  case stop_refused =>
    rintro ⟨s, t, op⟩ - rfl
    exact stop_refused_iff
  case refused => exact fun x _ h => refused_unchanged h
  case becomes_started =>
    intro x hx
    obtain ⟨before, after, hcut⟩ := List.append_of_mem hx
    have hpacks := (past_invariant perform (P := Inv packs t) inv_perform
      (inv_new packs arguments t) hcut).same_packs
    rw [← hpacks]
    exact becomes_started_iff x.state x.trail x.operation
  case recorded =>
    rw [hmade.callsSince]
    exact hlive
  case members => exact hmembers
  case stopped =>
    rw [hmade.callsSince]
    exact hinitial
  case stopped_all =>
    rw [hmade.callsSince]
    exact fun hphase => (hended hphase).2.2
  case stopped_started =>
    rw [hmade.callsSince]
    exact fun label hlabel => List.mem_reverse.mp (hinitial.subset hlabel)

end Session

end ScriptHost
