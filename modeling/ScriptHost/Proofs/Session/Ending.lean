import ScriptHost.Proofs.Session.Lifecycle

/-!
# The end of a session

Ending a session asks the packs that have started to stop, newest first.  The first stop hook that
fails is the last one that is called: the packs behind it, which started earlier, are skipped.  The
session has ended all the same and records nothing any more, so nobody will ask them again.

A pack is thus asked exactly if no pack that started after it fails to stop, and all packs are asked
exactly if none but the oldest fails.

## Main results

* `stopPacks_reached` — which packs of a row are asked to stop.
* `finish_of_ended` — a session that has ended does nothing any more.
* `ending_law` — what the end of a session does, in any state that a run comes to.
-/

namespace ScriptHost

namespace Session

/-! ## Which packs are asked -/

/-- Packs are stopped in order, and one of them is asked exactly if none before it fails. -/
theorem stopPacks_reached (ps : List Pack) (t : Trail) :
    ∃ called, called <+: ps ∧ Trail.Made (stopCalls called) t (stopPacks ps t).2 ∧
      ∀ before p after, ps = before ++ p :: after →
        (before ++ [p] <+: called ↔ stopFailure? before t.calls = none) := by
  induction ps generalizing t with
  | nil =>
      refine ⟨[], List.prefix_refl _, .refl t, ?_⟩
      intro before p after hcut
      simp at hcut
  | cons q ps ih =>
      let logged := t.log (.debug logger ("Terminating script pack [magenta]" ++ q.name ++ "[/]"))
      have hmade : Trail.Made [.stopPack q.label] t (logged.call (.stopPack q.label)) := rfl
      cases hq : q.onStop t.calls with
      | some f =>
          simp only [stopPacks, Trail.calls_log, hq]
          refine ⟨[q], by simp, hmade, ?_⟩
          intro before p after hcut
          cases before with
          | nil =>
              obtain ⟨rfl, rfl⟩ := List.cons.inj hcut
              exact iff_of_true (List.prefix_refl _) rfl
          | cons b before =>
              obtain ⟨rfl, -⟩ := List.cons.inj hcut
              refine iff_of_false ?_ ?_
              · intro hreached
                have hlength := hreached.length_le
                simp at hlength
              · simp [stopFailure?, hq]
      | none =>
          simp only [stopPacks, Trail.calls_log, hq]
          obtain ⟨called, hfirst, hrest, hreached⟩ := ih (logged.call (.stopPack q.label))
          refine ⟨q :: called, ?_, hmade.trans hrest, ?_⟩
          · exact List.cons_prefix_cons.mpr ⟨rfl, hfirst⟩
          · intro before p after hcut
            cases before with
            | nil =>
                obtain ⟨rfl, rfl⟩ := List.cons.inj hcut
                exact iff_of_true (by simp) rfl
            | cons b before =>
                obtain ⟨rfl, hbehind⟩ := List.cons.inj hcut
                rw [List.cons_append, List.cons_prefix_cons, stopFailure?, hq]
                simp only [true_and]
                exact hreached before p after hbehind

/-- All packs of a row are asked exactly if none but the last fails. -/
theorem reached_all_iff {ps called : List Pack} {calls : List Call} (hfirst : called <+: ps)
    (hreached : ∀ before p after, ps = before ++ p :: after →
      (before ++ [p] <+: called ↔ stopFailure? before calls = none)) :
    called = ps ↔ stopFailure? ps.dropLast calls = none := by
  by_cases hnil : ps = []
  · subst hnil
    exact iff_of_true (List.prefix_nil.mp hfirst) rfl
  · have hcut := List.dropLast_concat_getLast hnil
    rw [← hreached ps.dropLast (ps.getLast hnil) [] hcut.symm, hcut]
    constructor
    · rintro rfl
      exact List.prefix_refl _
    · intro hall
      exact hfirst.eq_of_length_le hall.length_le

/-! ## After the end -/

/-- A session that has ended refuses whatever it is asked, and nobody is called. -/
theorem perform_of_ended {s : Session} (h : s.phase = .ended) (t : Trail) (op : Operation) :
    (s.perform t op).state = s ∧ (s.perform t op).trail = t := by
  have hrefused : Refused ⟨s, t, op⟩ := by
    cases op with
    | start => exact start_refused_iff.mpr (by simp [h])
    | reset => exact reset_refused_iff.mpr h
    | stop => exact stop_refused_iff.mpr h
  exact refused_unchanged hrefused

/-- Nothing changes any more once a session has ended. -/
theorem finish_of_ended {s : Session} (h : s.phase = .ended) (t : Trail) (ops : List Operation) :
    finish perform s t ops = (s, t) := by
  induction ops with
  | nil => rfl
  | cons op ops ih =>
      obtain ⟨hstate, htrail⟩ := perform_of_ended h t op
      rw [finish, hstate, htrail, ih]

/-! ## The law -/

/-- What it does to end a session over packs, in a state whose life began at a trail. -/
structure Ending (t₀ : Trail) (s : Session) (t : Trail) : Prop where
  /-- The packs recorded are those whose start hooks completed, oldest first, and none of them was
  asked to stop before. -/
  recorded : s.started.map Pack.label = startedLabels (t.callsSince t₀) ∧
    stoppedLabels (t.callsSince t₀) = []
  /-- Nothing but stop hooks is called, newest first and each at most once; the hook of a pack is
  called exactly if no hook of a newer pack fails. -/
  reached : ∃ called, called <+: s.started.reverse ∧
    (s.stop t).trail.callsSince t = stopCalls called ∧
    ∀ newer p older, s.started.reverse = newer ++ p :: older →
      (newer ++ [p] <+: called ↔ stopFailure? newer t.calls = none)
  /-- Every pack whose start hook completed is asked exactly if none but the oldest fails. -/
  complete : stoppedLabels ((s.stop t).trail.callsSince t) =
      (startedLabels (t.callsSince t₀)).reverse ↔
    stopFailure? s.started.tail.reverse t.calls = none
  /-- The answer is the first failure, if there is one. -/
  answer : (s.stop t).answer = outcome (stopFailure? s.started.reverse t.calls)
  /-- The session has ended in either case, and records no pack. -/
  ended : (s.stop t).state = { s with started := [], phase := .ended }
  /-- Whatever follows, nobody is called any more. -/
  final : ∀ ops, finish perform (s.stop t).state (s.stop t).trail ops =
    ((s.stop t).state, (s.stop t).trail)

/-- Over any packs, whose hooks fail or not at each call, and after any operations: a session that
has not ended obeys the law when it is ended. -/
theorem ending_law (packs : List Pack) (arguments : List String) (t₀ : Trail)
    (ops : List Operation) {s : Session} {t : Trail}
    (hrun : finish perform (new packs arguments) t₀ ops = (s, t)) (hphase : s.phase ≠ .ended) :
    Ending t₀ s t := by
  have hinv := past_invariant_finish perform (P := Inv packs t₀) inv_perform
    (inv_new packs arguments t₀) ops
  rw [hrun] at hinv
  obtain ⟨-, -, cs, hmade, hlive, -⟩ := hinv
  have hrecorded : s.started.map Pack.label = startedLabels (t.callsSince t₀) ∧
      stoppedLabels (t.callsSince t₀) = [] := by
    rw [hmade.callsSince]
    exact hlive hphase
  obtain ⟨hstate, hanswer, -⟩ := stop_of_not_ended hphase t
  have htrail : (s.stop t).trail = (stopPacks s.started.reverse t).2 := by
    unfold stop
    split
    · next hended => exact absurd hended hphase
    · rfl
  obtain ⟨called, hfirst, hcalled, hreached⟩ := stopPacks_reached s.started.reverse t
  rw [← htrail] at hcalled
  constructor
  case recorded => exact hrecorded
  case reached => exact ⟨called, hfirst, hcalled.callsSince, hreached⟩
  case complete =>
    have hall := reached_all_iff hfirst hreached
    rw [List.dropLast_reverse] at hall
    rw [hcalled.callsSince, stoppedLabels_stopCalls, ← hrecorded.1, ← List.map_reverse, ← hall]
    constructor
    · intro hlabels
      have hlength := congrArg List.length hlabels
      rw [List.length_map, List.length_map] at hlength
      exact hfirst.eq_of_length hlength
    · intro hcalled
      rw [hcalled]
  case answer => exact hanswer
  case ended => exact hstate
  case final =>
    intro ops
    exact finish_of_ended (stop_phase s t) _ ops

/-- A pack that starts and does not stop. -/
def stuck : Pack :=
  { Pack.steady ⟨"stuck", "stuck", "Pack"⟩ [] none with
    onStop := fun _ => some (.raised ⟨"RuntimeError", "stuck"⟩) }

/-- Three packs, of which the one in the middle does not stop. -/
def stuckPacks : List Pack :=
  [.steady ⟨"a", "a", "Pack"⟩ [] none, stuck, .steady ⟨"c", "c", "Pack"⟩ [] none]

/-- Of the three packs the newest and the one in the middle are asked to stop.  The oldest has
started and is skipped, and no later operation asks it. -/
theorem oldest_skipped_in_sample :
    ∃ s t, finish perform (new stuckPacks []) .empty [.start] = (s, t) ∧ s.phase = .started ∧
      (startedLabels (t.callsSince .empty)).map PackLabel.name = ["a", "stuck", "c"] ∧
      (stoppedLabels ((s.stop t).trail.callsSince t)).map PackLabel.name = ["c", "stuck"] ∧
      stoppedLabels ((s.stop t).trail.callsSince t) ≠
        (startedLabels (t.callsSince .empty)).reverse ∧
      ∀ ops, finish perform (s.stop t).state (s.stop t).trail ops =
        ((s.stop t).state, (s.stop t).trail) := by
  obtain ⟨s, t, hrun, hphase, hstarted, hstopped, hfails⟩ :
      ∃ s t, finish perform (new stuckPacks []) .empty [.start] = (s, t) ∧ s.phase = .started ∧
        (startedLabels (t.callsSince .empty)).map PackLabel.name = ["a", "stuck", "c"] ∧
        (stoppedLabels ((s.stop t).trail.callsSince t)).map PackLabel.name = ["c", "stuck"] ∧
        stopFailure? s.started.tail.reverse t.calls ≠ none :=
    ⟨_, _, rfl, rfl, rfl, rfl, nofun⟩
  have hlaw := ending_law stuckPacks [] .empty [.start] hrun (by simp [hphase])
  exact ⟨s, t, hrun, hphase, hstarted, hstopped, fun hall => hfails (hlaw.complete.mp hall),
    hlaw.final⟩

end Session

end ScriptHost
