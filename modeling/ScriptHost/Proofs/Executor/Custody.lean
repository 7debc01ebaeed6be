import ScriptHost.Proofs.Executor.Effect
import ScriptHost.Proofs.Session.Lifecycle

/-!
# Packs in custody

A pack whose start hook completed has to be stopped some time.  Until then it is outstanding, and
the session of the executor is to record it, so that ending the session stops it.

There are two ways to lose a pack.  A session that failed to start may have packs that did start,
and another session may be founded in its place; and a stop hook that fails keeps the packs behind
it from being stopped, while the session ends all the same.  The invariant is a conservation law:
an outstanding pack is recorded, or a turn lost it and no later turn stopped it.

## Main results

* `held_perform` — what one operation does to the packs that are outstanding.
* `custody` — the law of a whole run, and the condition under which no pack is lost.
-/

namespace ScriptHost

open Sequence (Supplied)

/-! ## Outstanding packs -/

/-- Whether the start hook of a pack completed in a journal, and its stop hook was not called
since. -/
def Outstanding (p : PackLabel) (calls : List Call) : Prop :=
  ∃ cs ds, calls = cs ++ .startedPack p :: ds ∧ p ∉ stoppedLabels ds

theorem mem_startedLabels {p : PackLabel} {calls : List Call} :
    p ∈ startedLabels calls ↔ .startedPack p ∈ calls := by
  rw [startedLabels, List.mem_filterMap]
  constructor
  · rintro ⟨c, hc, hlabel⟩
    cases c with
    | startedPack q =>
        cases hlabel
        exact hc
    | _ => cases hlabel
  · intro hc
    exact ⟨_, hc, rfl⟩

theorem Outstanding.mem_startedLabels {p : PackLabel} {calls : List Call}
    (h : Outstanding p calls) : p ∈ startedLabels calls := by
  obtain ⟨cs, ds, rfl, -⟩ := h
  apply ScriptHost.mem_startedLabels.mpr
  simp

/-- In a journal in which nothing is stopped, what has started is outstanding. -/
theorem outstanding_iff_of_no_stop {p : PackLabel} {calls : List Call}
    (h : stoppedLabels calls = []) : Outstanding p calls ↔ p ∈ startedLabels calls := by
  constructor
  · exact Outstanding.mem_startedLabels
  · intro hp
    obtain ⟨cs, ds, rfl⟩ := List.append_of_mem (mem_startedLabels.mp hp)
    refine ⟨cs, ds, rfl, ?_⟩
    rw [stoppedLabels_append] at h
    have hds : stoppedLabels ds = [] := (List.append_eq_nil_iff.mp h).2
    rw [hds]
    exact List.not_mem_nil

/-- A pack is outstanding after more calls if they start it, or if it was and they do not stop
it. -/
theorem outstanding_append {p : PackLabel} {cs ds : List Call} :
    Outstanding p (cs ++ ds) ↔
      Outstanding p ds ∨ (Outstanding p cs ∧ p ∉ stoppedLabels ds) := by
  constructor
  · rintro ⟨as, bs, hcut, hstop⟩
    rcases List.append_eq_append_iff.mp hcut with ⟨as', rfl, hds⟩ | ⟨cs', rfl, hbs⟩
    · exact .inl ⟨as', bs, hds, hstop⟩
    · cases cs' with
      | nil => exact .inl ⟨[], bs, hbs.symm, hstop⟩
      | cons c cs' =>
          rw [List.cons_append, List.cons.injEq] at hbs
          obtain ⟨rfl, rfl⟩ := hbs
          rw [stoppedLabels_append, List.mem_append, not_or] at hstop
          exact .inr ⟨⟨as, cs', rfl, hstop.1⟩, hstop.2⟩
  · rintro (⟨as, bs, rfl, hstop⟩ | ⟨⟨as, bs, rfl, hstop⟩, hnone⟩)
    · exact ⟨cs ++ as, bs, by simp, hstop⟩
    · refine ⟨as, bs ++ ds, by simp, ?_⟩
      rw [stoppedLabels_append, List.mem_append, not_or]
      exact ⟨hstop, hnone⟩

theorem labels_of_sources {cs : List Call} (h : cs.all Call.isSource = true) :
    startedLabels cs = [] ∧ stoppedLabels cs = [] := by
  constructor
  · apply filterMap_of_sources h
    intro c hsource
    cases c with
    | startedPack p => cases hsource
    | _ => rfl
  · apply filterMap_of_sources h
    intro c hsource
    cases c with
    | stopPack p => cases hsource
    | _ => rfl

namespace Executor

/-- The phase of the session of an executor, and the packs it records as started. -/
def record (e : Executor) : Option (Phase × List Pack) :=
  e.session.map fun s => (s.phase, s.started)

/-- The packs that the session of an executor records as started. -/
def held (e : Executor) : List PackLabel :=
  match e.record with
  | none => []
  | some (_, started) => started.map Pack.label

theorem held_of_session {e : Executor} {s : Session} (h : e.session = some s) :
    e.held = s.started.map Pack.label := by
  simp only [held, record, h, Option.map_some]

theorem record_congr {e e' : Executor} (h : e'.session = e.session) : e'.record = e.record := by
  rw [record, record, h]

theorem held_congr {e e' : Executor} (h : e'.record = e.record) : e'.held = e.held := by
  rw [held, held, h]

/-- Whether a session that has ended records no pack. -/
def Emptied (e : Executor) : Prop := ∀ started, e.record = some (.ended, started) → started = []

theorem Emptied.started_eq_nil {e : Executor} {s : Session} (h : e.Emptied)
    (hsession : e.session = some s) (hphase : s.phase = .ended) : s.started = [] := by
  apply h s.started
  rw [record, hsession, ← hphase]
  rfl

theorem Emptied.congr {e e' : Executor} (h : e.Emptied) (hrecord : e'.record = e.record) :
    e'.Emptied := by
  intro started hended
  rw [hrecord] at hended
  exact h started hended

/-- The packs that are stopped in a turn. -/
def stops (x : Turn Executor Operation) : List PackLabel :=
  stoppedLabels ((x.step perform).trail.callsSince x.trail)

/-- Whether a turn loses a pack: another session takes the place of the one that recorded it, and
does not record it; or the session ends with a failing stop hook, and its own is not called. -/
def Loses (x : Turn Executor Operation) (p : PackLabel) : Prop :=
  p ∈ x.state.held ∧
    match x.operation with
    | .start paths _ _ =>
      (∃ g, x.state.founding x.trail.calls paths = .ok g) ∧ p ∉ (x.step perform).state.held
    | .stop =>
      (∃ s, x.state.session = some s ∧ s.phase ≠ .ended ∧
        Session.stopFailure? s.started.reverse x.trail.calls ≠ none) ∧ p ∉ stops x
    | _ => False

/-! ## One operation -/

/-- What is outstanding after a turn, as far as the turn can tell, is recorded or lost. -/
def Conserves (x : Turn Executor Operation) (calls : List Call) : Prop :=
  ∀ p, (Outstanding p calls ∨ (p ∈ x.state.held ∧ p ∉ stoppedLabels calls)) ↔
    (p ∈ (x.step perform).state.held ∨ Loses x p)

/-- A turn can only lose a pack if it founds a session or ends one. -/
theorem not_loses_of_idle {x : Turn Executor Operation}
    (h : ¬ x.state.Arms x.trail x.operation ∧ ¬ x.state.Ends x.operation) (p : PackLabel) :
    ¬ Loses x p := by
  obtain ⟨e, t, op⟩ := x
  rintro ⟨-, hcause⟩
  cases op with
  | start paths packs arguments => exact h.1 hcause.1
  | stop =>
      obtain ⟨⟨s, hsession, hphase, -⟩, -⟩ := hcause
      exact h.2 ⟨s, hsession, hphase⟩
  | change edit => exact hcause
  | reset => exact hcause
  | execute script arguments => exact hcause
  | executeText text arguments => exact hcause
  | surround fileSystem => exact hcause

/-- A turn that neither starts nor stops a pack, keeps what is recorded and loses nothing. -/
theorem conserves_of_quiet {x : Turn Executor Operation} {calls : List Call}
    (hlabels : startedLabels calls = [] ∧ stoppedLabels calls = [])
    (hrecord : (x.step perform).state.record = x.state.record) (hno : ∀ p, ¬ Loses x p) :
    Conserves x calls := by
  intro p
  rw [outstanding_iff_of_no_stop hlabels.2, hlabels.1, hlabels.2, held_congr hrecord]
  simp [hno p]

/-- A prepared execution neither starts nor stops a pack, and keeps what is recorded. -/
theorem prepared_quiet {e : Executor} {t : Trail} {op : Operation} {p : Prepared}
    (h : e.prepare t op = some p) :
    (∃ cs, Trail.Made cs t (e.perform t op).trail ∧ startedLabels cs = [] ∧
      stoppedLabels cs = []) ∧ (e.perform t op).state.record = e.record := by
  have hsession := (perform_eq_run h).1
  obtain ⟨t', ⟨cs, hmade, hsource⟩, heq⟩ := perform_of_prepared h
  obtain ⟨hstarted, hstopped⟩ := labels_of_sources hsource
  rw [heq]
  cases hc : e.compose p with
  | error f => exact ⟨⟨cs, hmade, hstarted, hstopped⟩, record_congr hsession.symm⟩
  | ok c =>
      obtain ⟨-, -, -, -, hsome, hmarked⟩ := compose_frame hc
      have hsubmit : Trail.Made [.execute _] t'
          (c.executor.submit t' c.script p.arguments c.session).trail := rfl
      refine ⟨⟨_, hmade.trans hsubmit, ?_, ?_⟩, ?_⟩
      · rw [startedLabels_append, hstarted]
        rfl
      · rw [stoppedLabels_append, hstopped]
        rfl
      · change c.executor.record = e.record
        rw [record, record, hsome, hmarked, hsession]
        rfl

/-- A founded session takes what is recorded from the one before it. -/
theorem conserves_of_founding {e g : Executor} {t : Trail} {paths : Supplied String}
    (h : e.founding t.calls paths = .ok g) (packs : List Pack) (arguments : List String) :
    ∃ cs, Trail.Made cs t (e.perform t (.start paths packs arguments)).trail ∧
      Conserves ⟨e, t, .start paths packs arguments⟩ cs := by
  obtain ⟨t', hmade, heq⟩ := start_of_founding h packs arguments
  obtain ⟨cs, hmade', hstopped, hstarted, -, -, -⟩ :=
    Session.start_journal (s := Session.new packs arguments) rfl t'
  have hheld : (e.perform t (.start paths packs arguments)).state.held = startedLabels cs := by
    simp only [perform, heq, Step.map, Step.lift]
    rw [held_of_session rfl, hstarted]
    rfl
  refine ⟨[] ++ cs, ?_, ?_⟩
  · simp only [perform, heq]
    exact hmade.trans hmade'
  · intro p
    have hloses : Loses ⟨e, t, .start paths packs arguments⟩ p ↔
        p ∈ e.held ∧ p ∉ startedLabels cs := by
      rw [← hheld]
      constructor
      · rintro ⟨hp, -, hno⟩
        exact ⟨hp, hno⟩
      · rintro ⟨hp, hno⟩
        exact ⟨hp, ⟨g, h⟩, hno⟩
    have hafter : (Turn.step perform ⟨e, t, .start paths packs arguments⟩).state.held =
        startedLabels cs := hheld
    rw [List.nil_append, outstanding_iff_of_no_stop hstopped, hstopped, hafter, hloses]
    by_cases hp : p ∈ startedLabels cs
    · simp [hp]
    · simp [hp]

/-- Ending a session that has not ended starts nothing, leaves nothing recorded, and stops all that
was recorded unless a stop hook fails. -/
theorem stop_live {e : Executor} {s : Session} (hsession : e.session = some s)
    (hphase : s.phase ≠ .ended) (t : Trail) :
    ∃ cs, Trail.Made cs t (e.perform t .stop).trail ∧ startedLabels cs = [] ∧
      (e.perform t .stop).state.held = [] ∧
      (Session.stopFailure? s.started.reverse t.calls = none →
        stoppedLabels cs = e.held.reverse) := by
  rcases e.stop_cases t with ⟨hnone, -⟩ | ⟨s', t', hs', hmade, heq⟩
  · rw [hnone] at hsession
    cases hsession
  rw [hsession] at hs'
  cases hs'
  obtain ⟨cs, hmade', hstarted, -, hall⟩ := Session.stop_journal hphase t'
  have hcalls : t'.calls = t.calls := hmade
  refine ⟨cs, ?_, hstarted, ?_, ?_⟩
  · simp only [perform, heq]
    exact hmade.trans hmade'
  · simp only [perform, heq, Step.map, Step.lift]
    rw [held_of_session rfl, (Session.stop_of_not_ended hphase t').1]
    rfl
  · rw [← hcalls, held_of_session hsession]
    exact hall

theorem conserves_of_stop {e : Executor} {s : Session} (hsession : e.session = some s)
    (hphase : s.phase ≠ .ended) (t : Trail) :
    ∃ cs, Trail.Made cs t (e.perform t .stop).trail ∧ Conserves ⟨e, t, .stop⟩ cs := by
  obtain ⟨cs, hmade, hstarted, hheld, hall⟩ := stop_live hsession hphase t
  refine ⟨cs, hmade, ?_⟩
  intro p
  have hturn : Trail.Made cs t (Turn.step perform ⟨e, t, .stop⟩).trail := hmade
  have hafter : (Turn.step perform ⟨e, t, .stop⟩).state.held = [] := hheld
  have hstops : stops ⟨e, t, .stop⟩ = stoppedLabels cs := by
    rw [stops, hturn.callsSince]
  have hloses : Loses ⟨e, t, .stop⟩ p ↔ p ∈ e.held ∧ p ∉ stoppedLabels cs := by
    constructor
    · rintro ⟨hp, -, hno⟩
      rw [hstops] at hno
      exact ⟨hp, hno⟩
    · rintro ⟨hp, hno⟩
      refine ⟨hp, ⟨s, hsession, hphase, ?_⟩, hstops ▸ hno⟩
      intro hnone
      rw [hall hnone, List.mem_reverse] at hno
      exact hno hp
  have hout : ¬ Outstanding p cs := by
    intro hout
    have hmem := hout.mem_startedLabels
    rw [hstarted] at hmem
    cases hmem
  rw [hafter, hloses]
  simp [hout]

/-- What one operation does to the packs that are outstanding: those that are recorded or started,
and not stopped, are recorded afterwards, or the turn loses them. -/
theorem held_perform (e : Executor) (t : Trail) (op : Operation) :
    ∃ cs, Trail.Made cs t (e.perform t op).trail ∧ Conserves ⟨e, t, op⟩ cs := by
  cases hp : e.prepare t op with
  | some p =>
      obtain ⟨⟨cs, hmade, hlabels⟩, hrecord⟩ := prepared_quiet hp
      have hidle : ¬ e.Arms t op ∧ ¬ e.Ends op := idle_of_prepared hp
      exact ⟨cs, hmade, conserves_of_quiet hlabels hrecord (not_loses_of_idle hidle)⟩
  | none =>
      obtain ⟨heffect, -⟩ := effect_of_not_prepared hp
      cases heffect with
      | quiet idle session made sources =>
          have hlabels := labels_of_sources sources
          exact ⟨_, made, conserves_of_quiet hlabels (record_congr session)
            (not_loses_of_idle idle)⟩
      | founded founding made session trail => exact conserves_of_founding founding _ _
      | cleared old phase session trail =>
          have hmade : Trail.Made [] t (e.perform t .reset).trail := congrArg Trail.calls trail
          refine ⟨[], hmade, conserves_of_quiet ⟨rfl, rfl⟩ ?_ fun p h => h.2⟩
          change (e.perform t .reset).state.record = e.record
          rw [record, record, session, old]
          rfl
      | ended old phase made session trail => exact conserves_of_stop old phase t

/-- A session that has ended records no pack, whatever is done. -/
theorem emptied_perform {e : Executor} (h : e.Emptied) (t : Trail) (op : Operation) :
    (e.perform t op).state.Emptied := by
  cases hp : e.prepare t op with
  | some p => exact h.congr (prepared_quiet hp).2
  | none =>
      obtain ⟨heffect, -⟩ := effect_of_not_prepared hp
      cases heffect with
      | quiet idle session made sources => exact h.congr (record_congr session)
      | @founded paths packs arguments g t₁ founding made session trail =>
          obtain ⟨-, -, -, -, -, -, hphase⟩ :=
            Session.start_journal (s := Session.new packs arguments) rfl t₁
          intro started hended
          simp only [record, session, Option.map_some, Option.some.injEq, Prod.mk.injEq] at hended
          exact absurd hended.1 hphase
      | cleared old phase session trail =>
          refine h.congr ?_
          rw [record, record, session, old]
          rfl
      | @ended s t₁ old phase made session trail =>
          intro started hended
          simp only [record, session, (Session.stop_of_not_ended phase t₁).1, Option.map_some,
            Option.some.injEq, Prod.mk.injEq] at hended
          exact hended.2.symm

/-! ## A whole run -/

/-- Whether a turn of a run lost a pack, and no turn since stopped it. -/
def Adrift (p : PackLabel) (run : List (Turn Executor Operation)) : Prop :=
  ∃ a x b, run = a ++ x :: b ∧ Loses x p ∧ ∀ y ∈ b, p ∉ stops y

theorem adrift_concat {p : PackLabel} {past : List (Turn Executor Operation)}
    {x : Turn Executor Operation} :
    Adrift p (past ++ [x]) ↔ Loses x p ∨ (Adrift p past ∧ p ∉ stops x) := by
  constructor
  · rintro ⟨a, y, b, hcut, hloses, hb⟩
    rcases List.eq_nil_or_concat b with rfl | ⟨b', z, rfl⟩
    · have hlast := List.append_inj_right' hcut rfl
      rw [List.cons.injEq] at hlast
      exact .inl (hlast.1 ▸ hloses)
    · rw [List.concat_eq_append] at hcut hb
      have hcut' : past ++ [x] = (a ++ y :: b') ++ [z] := by
        rw [hcut, List.append_assoc, List.cons_append]
      have hpast := List.append_inj_left' hcut' rfl
      have hlast := List.append_inj_right' hcut' rfl
      rw [List.cons.injEq] at hlast
      refine .inr ⟨⟨a, y, b', hpast, hloses, ?_⟩, ?_⟩
      · intro w hw
        exact hb w (List.mem_append_left _ hw)
      · rw [hlast.1]
        exact hb z (by simp)
  · rintro (hloses | ⟨⟨a, y, b, rfl, hloses, hb⟩, hx⟩)
    · exact ⟨past, x, [], rfl, hloses, fun y hy => absurd hy List.not_mem_nil⟩
    · refine ⟨a, y, b ++ [x], by simp, hloses, ?_⟩
      intro w hw
      rcases List.mem_append.mp hw with hw | hw
      · exact hb w hw
      · rw [List.mem_singleton.mp hw]
        exact hx

/-- What holds after some turns of a run that began at a trail: the packs that are outstanding are
those that are recorded or adrift. -/
structure Accounted (t₀ : Trail) (past : List (Turn Executor Operation)) (e : Executor)
    (t : Trail) : Prop where
  journal : ∃ cs, Trail.Made cs t₀ t ∧ ∀ p, Outstanding p cs ↔ p ∈ e.held ∨ Adrift p past
  emptied : e.Emptied

theorem accounted_perform {t₀ : Trail} (past : List (Turn Executor Operation)) (e : Executor)
    (t : Trail) (op : Operation) (h : Accounted t₀ past e t) :
    Accounted t₀ (past ++ [⟨e, t, op⟩]) (e.perform t op).state (e.perform t op).trail := by
  obtain ⟨⟨cs, hmade, hout⟩, hemptied⟩ := h
  obtain ⟨ds, hmade', hconserves⟩ := held_perform e t op
  have hstops : stops ⟨e, t, op⟩ = stoppedLabels ds := by
    have hturn : Trail.Made ds t (Turn.step perform ⟨e, t, op⟩).trail := hmade'
    rw [stops, hturn.callsSince]
  refine ⟨⟨cs ++ ds, hmade.trans hmade', ?_⟩, emptied_perform hemptied t op⟩
  intro p
  have hturn : (Outstanding p ds ∨ (p ∈ e.held ∧ p ∉ stoppedLabels ds)) ↔
      (p ∈ (e.perform t op).state.held ∨ Loses ⟨e, t, op⟩ p) := hconserves p
  rw [outstanding_append, hout, adrift_concat, hstops]
  calc Outstanding p ds ∨ ((p ∈ e.held ∨ Adrift p past) ∧ p ∉ stoppedLabels ds)
    _ ↔ (Outstanding p ds ∨ (p ∈ e.held ∧ p ∉ stoppedLabels ds)) ∨
          (Adrift p past ∧ p ∉ stoppedLabels ds) := by rw [or_and_right, or_assoc]
    _ ↔ (p ∈ (e.perform t op).state.held ∨ Loses ⟨e, t, op⟩ p) ∨
          (Adrift p past ∧ p ∉ stoppedLabels ds) := by rw [hturn]
    _ ↔ p ∈ (e.perform t op).state.held ∨
          (Loses ⟨e, t, op⟩ p ∨ (Adrift p past ∧ p ∉ stoppedLabels ds)) := or_assoc

theorem accounted_new {e : Executor} (hnone : e.session = none) (t : Trail) :
    Accounted t [] e t := by
  have hrecord : e.record = none := by rw [record, hnone]; rfl
  refine ⟨⟨[], .refl t, ?_⟩, ?_⟩
  · intro p
    rw [outstanding_iff_of_no_stop rfl, held, hrecord]
    constructor
    · intro hp
      cases hp
    · rintro (hp | ⟨a, x, b, hcut, -⟩)
      · cases hp
      · simp at hcut
  · intro started hended
    rw [hrecord] at hended
    cases hended

/-- Whether at every moment of a run the session records all packs that are outstanding. -/
def NeverLost (e : Executor) (t : Trail) (ops : List Operation) : Prop :=
  ∀ before after, ops = before ++ after → ∀ p,
    Outstanding p ((finish perform e t before).2.callsSince t) →
      p ∈ (finish perform e t before).1.held

/-- The law of the packs of a run. -/
structure Custody (e : Executor) (t : Trail) (ops : List Operation) : Prop where
  /-- A pack that is outstanding is recorded, or adrift. -/
  outstanding : ∀ p, Outstanding p ((finish perform e t ops).2.callsSince t) ↔
    p ∈ (finish perform e t ops).1.held ∨ Adrift p (turns perform e t ops)
  /-- All outstanding packs are recorded at every moment exactly if no turn loses one. -/
  never_lost : NeverLost e t ops ↔ ∀ x ∈ turns perform e t ops, ∀ p, ¬ Loses x p
  /-- A turn loses packs only if a stop hook fails, or if it replaces a session that failed to
  start. -/
  cause : ∀ x ∈ turns perform e t ops, ∀ p, Loses x p →
    x.operation = .stop ∨ ∃ s, x.state.session = some s ∧ s.phase = .notStarted
  /-- A pack that is recorded is stopped by ending the session, unless a stop hook fails. -/
  released : ∀ s, (finish perform e t ops).1.session = some s →
    Session.stopFailure? s.started.reverse (finish perform e t ops).2.calls = none →
      ∀ p ∈ (finish perform e t ops).1.held,
        p ∈ stops ⟨(finish perform e t ops).1, (finish perform e t ops).2, .stop⟩

theorem accounted_finish {e : Executor} (hnone : e.session = none) (t : Trail)
    (ops : List Operation) :
    Accounted t (turns perform e t ops) (finish perform e t ops).1 (finish perform e t ops).2 :=
  past_invariant_finish perform (P := Accounted t) accounted_perform (accounted_new hnone t) ops

theorem outstanding_finish {e : Executor} (hnone : e.session = none) (t : Trail)
    (ops : List Operation) (p : PackLabel) :
    Outstanding p ((finish perform e t ops).2.callsSince t) ↔
      p ∈ (finish perform e t ops).1.held ∨ Adrift p (turns perform e t ops) := by
  obtain ⟨cs, hmade, hout⟩ := (accounted_finish hnone t ops).journal
  rw [hmade.callsSince]
  exact hout p

/-- A pack that a turn loses is not recorded after it. -/
theorem not_held_of_loses {x : Turn Executor Operation} {p : PackLabel} (hloses : Loses x p) :
    p ∉ (x.step perform).state.held := by
  obtain ⟨e, t, op⟩ := x
  obtain ⟨hp, hcause⟩ := hloses
  cases op with
  | start paths packs arguments => exact hcause.2
  | stop =>
      obtain ⟨⟨s, hsession, hphase, -⟩, -⟩ := hcause
      obtain ⟨cs, -, -, hheld, -⟩ := stop_live hsession hphase t
      have hafter : (Turn.step perform ⟨e, t, .stop⟩).state.held = [] := hheld
      rw [hafter]
      exact List.not_mem_nil
  | change edit => exact hcause.elim
  | reset => exact hcause.elim
  | execute script arguments => exact hcause.elim
  | executeText text arguments => exact hcause.elim
  | surround fileSystem => exact hcause.elim

theorem neverLost_iff {e : Executor} (hnone : e.session = none) (t : Trail)
    (ops : List Operation) :
    NeverLost e t ops ↔ ∀ x ∈ turns perform e t ops, ∀ p, ¬ Loses x p := by
  constructor
  · intro hnever x hx p hloses
    obtain ⟨a, b, hcut⟩ := List.append_of_mem hx
    obtain ⟨before, after, hops, ha, hfinish, -⟩ := turns_eq_append_cons perform hcut
    have hturns : turns perform e t (before ++ [x.operation]) = a ++ [x] := by
      rw [turns_append, hfinish, ← ha]
      rfl
    have hlast : finish perform e t (before ++ [x.operation]) =
        ((x.step perform).state, (x.step perform).trail) := by
      rw [finish_append, hfinish]
      rfl
    have hadrift : Adrift p (turns perform e t (before ++ [x.operation])) := by
      rw [hturns]
      exact adrift_concat.mpr (.inl hloses)
    have hout := (outstanding_finish hnone t (before ++ [x.operation]) p).mpr (.inr hadrift)
    have hheld := hnever (before ++ [x.operation]) after (by rw [hops]; simp) p hout
    rw [hlast] at hheld
    exact not_held_of_loses hloses hheld
  · rintro hno before after rfl p hout
    rcases (outstanding_finish hnone t before p).mp hout with hheld | ⟨a, x, b, hcut, hloses, -⟩
    · exact hheld
    · refine absurd hloses (hno x ?_ p)
      rw [turns_append, hcut]
      simp

/-- A session in whose place another can be founded, and which records a pack, has failed to
start. -/
theorem cause_of_loses {x : Turn Executor Operation} {p : PackLabel}
    (hemptied : x.state.Emptied) (hloses : Loses x p) :
    x.operation = .stop ∨ ∃ s, x.state.session = some s ∧ s.phase = .notStarted := by
  obtain ⟨e, t, op⟩ := x
  obtain ⟨hp, hcause⟩ := hloses
  cases op with
  | stop => exact .inl rfl
  | start paths packs arguments =>
      obtain ⟨⟨g, hfounding⟩, -⟩ := hcause
      have hactive : e.isActive = false := by
        cases hactive : e.isActive with
        | false => rfl
        | true => simp [founding, hactive] at hfounding
      cases hsession : e.session with
      | none => simp [held, record, hsession] at hp
      | some s =>
          refine .inr ⟨s, rfl, ?_⟩
          cases hphase : s.phase with
          | notStarted => rfl
          | started => simp [isActive, hsession, Session.isActive, hphase] at hactive
          | ended =>
              have hnil := hemptied.started_eq_nil hsession hphase
              simp [held_of_session hsession, hnil] at hp
  | change edit => exact hcause.elim
  | reset => exact hcause.elim
  | execute script arguments => exact hcause.elim
  | executeText text arguments => exact hcause.elim
  | surround fileSystem => exact hcause.elim

/-- Ending a session stops all that it records, unless a stop hook fails. -/
theorem stops_of_held {e : Executor} {s : Session} (hemptied : e.Emptied)
    (hsession : e.session = some s) {t : Trail}
    (hnone : Session.stopFailure? s.started.reverse t.calls = none) {p : PackLabel}
    (hp : p ∈ e.held) : p ∈ stops ⟨e, t, .stop⟩ := by
  have hphase : s.phase ≠ .ended := by
    intro hphase
    rw [held_of_session hsession, hemptied.started_eq_nil hsession hphase] at hp
    cases hp
  obtain ⟨cs, hmade, -, -, hall⟩ := stop_live hsession hphase t
  have hturn : Trail.Made cs t (Turn.step perform ⟨e, t, .stop⟩).trail := hmade
  rw [stops, hturn.callsSince, hall hnone]
  exact List.mem_reverse.mpr hp

/-- Over a whole run of a new executor, with packs whose hooks fail or not at each call: a pack
that is outstanding is recorded or adrift, and none is ever adrift exactly if no turn loses one. -/
theorem custody {fs : Option FileSystem} {pp : PreProcessor} {engine : Engine} {file : String}
    {references namespaces : List String} {e : Executor}
    (hnew : new fs pp engine file references namespaces = .ok e) (t : Trail)
    (ops : List Operation) : Custody e t ops := by
  have hnone := (new_eq_ok hnew).1
  constructor
  case outstanding => exact outstanding_finish hnone t ops
  case never_lost => exact neverLost_iff hnone t ops
  case cause =>
    intro x hx p hloses
    obtain ⟨a, b, hcut⟩ := List.append_of_mem hx
    have hpast := past_invariant perform (P := Accounted t) accounted_perform
      (accounted_new hnone t) hcut
    exact cause_of_loses hpast.emptied hloses
  case released =>
    intro s hsession hno p hp
    exact stops_of_held (accounted_finish hnone t ops).emptied hsession hno hp

/-- A pack whose hooks never fail. -/
def calm : Pack := .steady ⟨"calm", "calm", "Pack"⟩ [] none

/-- A pack that does not start. -/
def broken : Pack := .steady ⟨"broken", "broken", "Pack"⟩ [.fail (.absentArgument "reference")] none

/-- A session fails to start, and another is founded in its place. -/
def restart : List Operation :=
  [.start (.list []) [calm, broken] [], .start (.list []) [] []]

/-- Founding another session after one that failed to start loses the packs that did start. -/
theorem restart_loses :
    new (some (sampleTable.fileSystem "table")) .passthrough .dryRun "lib.csx" [] [] = .ok sample ∧
      ¬ NeverLost sample .empty restart := by
  have hnew : new (some (sampleTable.fileSystem "table")) .passthrough .dryRun "lib.csx" [] [] =
      .ok sample := rfl
  refine ⟨hnew, ?_⟩
  intro hnever
  have hno := (custody hnew .empty restart).never_lost.mp hnever
  let failed := sample.perform .empty (.start (.list []) [calm, broken] [])
  have hturn : ⟨failed.state, failed.trail, .start (.list []) [] []⟩ ∈
      turns perform sample .empty restart := by
    simp [turns, restart, failed]
  refine hno _ hturn calm.label ⟨?_, ⟨_, rfl⟩, ?_⟩
  · exact List.mem_singleton.mpr rfl
  · exact List.not_mem_nil

end Executor

end ScriptHost
