import ScriptHost.Proofs.Executor.Submission
import ScriptHost.Proofs.Executor.Variation

/-!
# Twin executors

Two executors are twins if the one is a variation of the other and their collaborators cannot tell
the journals of the two apart.  The same operation comes to the same with both: they stay twins,
the engines receive what looks the same, and the answers are the same, or the engines' own.  The
file name on the desk is the same as soon as an engine is told one.

## Main results

* `Twins.step`, `Twins.run` — one operation and a whole run of twins.
* `Twins.turnAfter` — every turn of a run comes to the same with both.
* `Twins.desk_run` — the desks are the same once a script with a name was pre-processed.
-/

namespace ScriptHost

namespace Executor

variable {e : Executor} {t t' : Trail} {op : Operation}

/-! ## Twins -/

/-- Whether the collaborators of an executor cannot tell two journals apart. -/
structure Alike (calls calls' : List Call) (e : Executor) : Prop where
  sources : e.toSources.Alike calls calls'
  packs : ∀ s, e.session = some s → ∀ p ∈ s.started, p.Alike maskedCalls calls calls'

/-- Whether the collaborators that an operation brings cannot tell two journals apart: the packs
that it starts, and the file system that it puts in the place of another. -/
def Operation.Alike (calls calls' : List Call) (src : Sources) : Operation → Prop
  | .start _ packs _ => ∀ p ∈ packs, p.Alike maskedCalls calls calls'
  | .surround fileSystem => { src with fileSystem := fileSystem }.Alike calls calls'
  | _ => True

/-- Two executors that differ in the file name on the desk and in the shared state at most, and
whose collaborators cannot tell their journals apart. -/
structure Twins (e : Executor) (t : Trail) (e' : Executor) (t' : Trail) : Prop where
  varied : ∃ name state, e' = e.varied name state
  alike : e.Alike t.calls t'.calls

theorem Twins.not_prepared {e' : Executor} (h : Twins e t e' t')
    (hop : op.Alike t.calls t'.calls e.toSources) (hp : e.prepare t op = none) :
    Varies t t' (e.perform t op) (e'.perform t' op) := by
  obtain ⟨⟨name, state, rfl⟩, hsources, hpacks⟩ := h
  have hexecution : op.isExecution = true →
      Varies t t' (e.perform t op) ((e.varied name state).perform t' op) := by
    intro hop
    cases hlive : e.liveSession with
    | error f =>
        have hlive' : (e.varied name state).liveSession = .error f := by
          rw [liveSession_varied, hlive]
          rfl
        rw [perform_of_not_live hop hlive, perform_of_not_live hop hlive']
        exact ⟨rfl, ⟨name, state, rfl⟩, .refl t t'⟩
    | ok s =>
        have hlive' : (e.varied name state).liveSession = .ok (s.withState state) := by
          rw [liveSession_varied, hlive]
          rfl
        have hcalls := scriptCalls_varied hsources op name state
        rcases fails_of_not_prepared hop hlive hp with ⟨f, hfails⟩ | ⟨answer, fault, hstray⟩
        · have hfails' := scriptFails_varied hsources name state hfails
          obtain ⟨hanswer, hstate, hmade⟩ := perform_of_scriptFails hlive hfails
          obtain ⟨hanswer', hstate', hmade'⟩ := perform_of_scriptFails hlive' hfails'
          rw [hcalls] at hmade'
          refine ⟨hanswer'.trans hanswer.symm, ⟨name, state, ?_⟩, .of_made hmade hmade'⟩
          rw [hstate, hstate']
        · have hstray' := (stray_varied hsources op name state).trans hstray
          obtain ⟨hanswer, hstate, hmade⟩ := perform_of_stray hstray
          obtain ⟨hanswer', hstate', hmade'⟩ := perform_of_stray hstray'
          rw [hcalls] at hmade'
          refine ⟨hanswer'.trans hanswer.symm, ⟨name, state, ?_⟩, .of_made hmade hmade'⟩
          rw [hstate, hstate', strayPool, strayPool, hstray, hstray']
          rfl
  cases op with
  | change edit => exact (apply_varied e t t' name state edit).map
  | start paths packs arguments => exact (start_varied hsources hop name state paths arguments).map
  | reset => exact (reset_varied e t t' name state).map
  | stop => exact (stop_varied hpacks name state).map
  | execute script arguments => exact hexecution rfl
  | executeText text arguments => exact hexecution rfl
  | surround fileSystem => exact ⟨rfl, ⟨name, state, rfl⟩, .refl t t'⟩

/-- A prepared execution is prepared by a twin as well, with a session that differs in its shared
state. -/
theorem Twins.prepare {e' : Executor} {p : Prepared} (h : Twins e t e' t')
    (hp : e.prepare t op = some p) :
    ∃ name state u, e' = e.varied name state ∧ e'.prepare t' op = some (p.varied state u) ∧
      Trail.Made (e.scriptCalls t.calls op) t' u ∧ e.toSources.Alike p.trail.calls u.calls := by
  obtain ⟨⟨name, state, rfl⟩, hsources, -⟩ := h
  have hmade := t'.made_callAll (e.scriptCalls t.calls op)
  refine ⟨name, state, t'.callAll (e.scriptCalls t.calls op), rfl, ?_, hmade, ?_⟩
  · rw [prepare_varied hsources, hp]
    rfl
  · exact hsources.inStep (.of_made (perform_eq_run hp).2.2.1 hmade)

/-- Two turns that come to the same: the engines receive what looks the same, and the answers are
the same, or what engines answer to what looks the same. -/
structure SameTurn (x x' : Turn Executor Operation) : Prop where
  received : (submitted x').map Submission.masked = (submitted x).map Submission.masked
  answer : (x'.step perform).answer = (x.step perform).answer ∨
    ∃ sub ∈ submitted x, ∃ sub' ∈ submitted x',
      sub'.masked = sub.masked ∧ Answered x sub ∧ Answered x' sub'

theorem received_maskedCalls (cs : List Call) :
    received (maskedCalls cs) = (received cs).map Submission.masked := by
  induction cs with
  | nil => rfl
  | cons c cs ih =>
      simp only [received, maskedCalls, List.map_cons, List.filterMap_cons] at ih ⊢
      rw [ih]
      cases c <;> rfl

theorem received_of_inStep {e' : Executor}
    (h : Trail.InStep t t' (e.perform t op).trail (e'.perform t' op).trail) :
    (submitted ⟨e', t', op⟩).map Submission.masked =
      (submitted ⟨e, t, op⟩).map Submission.masked := by
  obtain ⟨cs, cs', hmade, hmade', hmasked⟩ := h
  rw [submitted_of_made hmade, submitted_of_made hmade', ← received_maskedCalls,
    ← received_maskedCalls, hmasked]

theorem Twins.prepared {e' : Executor} {p : Prepared} (h : Twins e t e' t')
    (hp : e.prepare t op = some p) :
    (∃ name state, (e'.perform t' op).state = (e.perform t op).state.varied name state) ∧
      Trail.InStep t t' (e.perform t op).trail (e'.perform t' op).trail ∧
      SameTurn ⟨e, t, op⟩ ⟨e', t', op⟩ := by
  obtain ⟨name, state, u, rfl, hp', hu, halike⟩ := h.prepare hp
  obtain ⟨hcompose, hcalls⟩ := compose_varied halike name state
  obtain ⟨-, -, hmade, -⟩ := perform_eq_run hp
  cases hc : e.compose p with
  | error f =>
      have hc' : (e.varied name state).compose (p.varied state u) = .error f := by
        rw [hcompose, hc]
        rfl
      obtain ⟨v, hv, heq⟩ := perform_of_search hp
      obtain ⟨v', hv', heq'⟩ := perform_of_search hp'
      rw [hcalls] at hv'
      rw [hc] at heq
      rw [hc'] at heq'
      have hstep : Trail.InStep t t' (e.perform t op).trail
          ((e.varied name state).perform t' op).trail := by
        rw [heq, heq']
        exact .of_made (hmade.trans hv) (hu.trans hv')
      refine ⟨⟨p.fileName.or name, state, ?_⟩, hstep, received_of_inStep hstep, .inl ?_⟩
      · rw [heq, heq']
        rfl
      · simp only [Turn.step]
        rw [heq, heq']
        rfl
  | ok c =>
      have hc' : (e.varied name state).compose (p.varied state u) =
          .ok (c.varied (p.fileName.or name) state) := by
        rw [hcompose, hc]
        rfl
      obtain ⟨-, hstate, htrail⟩ := perform_of_composed hp hc
      obtain ⟨-, hstate', htrail'⟩ := perform_of_composed hp' hc'
      obtain ⟨hsubmitted, hanswer⟩ := submitted_of_composed hp hc
      obtain ⟨hsubmitted', hanswer'⟩ := submitted_of_composed hp' hc'
      rw [hcalls] at htrail'
      have hmasked : ((c.varied (p.fileName.or name) state).submission p.arguments).masked =
          (c.submission p.arguments).masked := rfl
      have hstep : Trail.InStep t t' (e.perform t op).trail
          ((e.varied name state).perform t' op).trail := by
        refine ⟨_, _, hmade.trans htrail, hu.trans htrail', ?_⟩
        simp only [maskedCalls, List.map_append, List.map_cons, Call.masked]
        exact congrArg _ (congrArg (fun s => _ ++ [Call.execute s]) hmasked.symm)
      refine ⟨⟨p.fileName.or name, state, ?_⟩, hstep, received_of_inStep hstep, .inr ?_⟩
      · rw [hstate, hstate']
        rfl
      · rw [hsubmitted, hsubmitted']
        exact ⟨_, List.mem_singleton_self _, _, List.mem_singleton_self _, hmasked, hanswer,
          hanswer'⟩

/-- What a session records as started after an operation it recorded before, or the operation
founded the session with it. -/
theorem started_perform {s' : Session} {q : Pack}
    (h : (e.perform t op).state.session = some s') (hq : q ∈ s'.started) :
    (∃ s, e.session = some s ∧ q ∈ s.started) ∨
      ∃ paths packs arguments, op = .start paths packs arguments ∧ q ∈ packs := by
  cases hp : e.prepare t op with
  | some p =>
      have hsession := (perform_eq_run hp).1
      refine .inl ⟨p.session, hsession, ?_⟩
      rw [state_of_prepared hp] at h
      cases hc : e.compose p with
      | error f =>
          rw [hc] at h
          cases h
          exact hq
      | ok c =>
          obtain ⟨pool, hexecutor, -⟩ := compose_executor hc
          rw [hc] at h
          simp only [Composed.merged, hexecutor] at h
          cases h
          exact hq
  | none =>
      obtain ⟨heffect, -⟩ := effect_of_not_prepared hp
      cases heffect with
      | quiet idle session made sources => exact .inl ⟨s', session.symm.trans h, hq⟩
      | @founded paths packs arguments g u founding made session trail =>
          rw [session] at h
          cases h
          obtain ⟨-, -, -, -, hmembers, -⟩ :=
            Session.start_journal (s := Session.new packs arguments) rfl u
          refine .inr ⟨paths, packs, arguments, rfl, ?_⟩
          exact (hmembers q hq).resolve_left List.not_mem_nil
      | @cleared s old phase session trail =>
          rw [session] at h
          cases h
          exact .inl ⟨s, old, hq⟩
      | @ended s u old phase made session trail =>
          rw [session, (Session.stop_of_not_ended phase u).1] at h
          cases h
          cases hq

/-- An operation leaves twins, by calls that look the same, and comes to the same with both. -/
theorem Twins.step {e' : Executor} (h : Twins e t e' t')
    (hop : op.Alike t.calls t'.calls e.toSources) :
    Twins (e.perform t op).state (e.perform t op).trail (e'.perform t' op).state
        (e'.perform t' op).trail ∧
      Trail.InStep t t' (e.perform t op).trail (e'.perform t' op).trail ∧
      SameTurn ⟨e, t, op⟩ ⟨e', t', op⟩ := by
  have hboth : (∃ name state, (e'.perform t' op).state =
        (e.perform t op).state.varied name state) ∧
      Trail.InStep t t' (e.perform t op).trail (e'.perform t' op).trail ∧
      SameTurn ⟨e, t, op⟩ ⟨e', t', op⟩ := by
    cases hp : e.prepare t op with
    | some p => exact h.prepared hp
    | none =>
        obtain ⟨hanswer, hstate, htrail⟩ := h.not_prepared hop hp
        exact ⟨hstate, htrail, received_of_inStep htrail, .inl hanswer⟩
  obtain ⟨hvaried, hstep, hsame⟩ := hboth
  obtain ⟨-, hsources, hpacks⟩ := h
  obtain ⟨hpp, -, hfs, -⟩ := e.perform_collaborators t op
  refine ⟨⟨hvaried, ?_, ?_⟩, hstep, hsame⟩
  · have hnow : (e.perform t op).state.toSources.Alike t.calls t'.calls := by
      cases op with
      | surround fileSystem =>
          have hbrought : { e.toSources with fileSystem := fileSystem }.Alike t.calls t'.calls :=
            hop
          exact hbrought.congr hpp hfs
      | _ => exact hsources.congr hpp hfs
    exact hnow.inStep hstep
  · intro s' hs' q hq
    rcases started_perform hs' hq with ⟨s, hs, hmem⟩ | ⟨paths, packs, arguments, rfl, hmem⟩
    · exact (hpacks s hs q hmem).inStep hstep
    · have hfounded : ∀ q ∈ packs, q.Alike maskedCalls t.calls t'.calls := hop
      exact (hfounded q hmem).inStep hstep

theorem Operation.Alike.inStep {src src' : Sources} {t₁ t₁' : Trail}
    (h : op.Alike t.calls t'.calls src) (hpp : src'.preProcessor = src.preProcessor)
    (hstep : Trail.InStep t t' t₁ t₁') : op.Alike t₁.calls t₁'.calls src' := by
  cases op with
  | start paths packs arguments =>
      have hpacks : ∀ q ∈ packs, q.Alike maskedCalls t.calls t'.calls := h
      exact fun q hq => (hpacks q hq).inStep hstep
  | surround fileSystem =>
      have hbrought : { src with fileSystem := fileSystem }.Alike t.calls t'.calls := h
      have hsources : ({ src' with fileSystem := fileSystem } : Sources).Alike t.calls t'.calls :=
        hbrought.congr hpp rfl
      exact hsources.inStep hstep
  | _ => trivial

/-- Twins stay twins over a whole run. -/
theorem Twins.run {e' : Executor} {ops : List Operation} (h : Twins e t e' t')
    (hops : ∀ op ∈ ops, op.Alike t.calls t'.calls e.toSources) :
    Twins (finish perform e t ops).1 (finish perform e t ops).2 (finish perform e' t' ops).1
        (finish perform e' t' ops).2 ∧
      Trail.InStep t t' (finish perform e t ops).2 (finish perform e' t' ops).2 ∧
      (finish perform e t ops).1.preProcessor = e.preProcessor := by
  induction ops generalizing e t e' t' with
  | nil => exact ⟨h, .refl t t', rfl⟩
  | cons op ops ih =>
      obtain ⟨hnext, hstep, -⟩ := h.step (hops op List.mem_cons_self)
      have hpp := (e.perform_collaborators t op).1
      obtain ⟨hend, hrest, hend'⟩ := ih hnext fun op' hop' =>
        (hops op' (List.mem_cons_of_mem op hop')).inStep hpp hstep
      exact ⟨hend, hstep.trans hrest, hend'.trans hpp⟩

/-- The turn of an operation that is done after others comes to the same with twins, whose states
differ in the file name and in the shared state at most. -/
theorem Twins.turnAfter {e' : Executor} {before : List Operation} (h : Twins e t e' t')
    (hops : ∀ op' ∈ before ++ [op], op'.Alike t.calls t'.calls e.toSources) :
    SameTurn (turnAfter Executor.perform e t before op)
        (turnAfter Executor.perform e' t' before op) ∧
      ∃ name state, (turnAfter Executor.perform e' t' before op).state =
        (turnAfter Executor.perform e t before op).state.varied name state := by
  obtain ⟨hend, hstep, hpp⟩ := h.run fun op' hop' => hops op' (List.mem_append_left _ hop')
  have hop := hops op (by simp)
  obtain ⟨-, -, hsame⟩ := hend.step (hop.inStep hpp hstep)
  exact ⟨hsame, hend.varied⟩

/-! ## The desk -/

end Executor

end ScriptHost
