import ScriptHost.Proofs.Session.Lifecycle

/-!
# Hooks that cannot tell two journals apart

What a collaborator answers may depend on every call that was made before.  So two runs can be
compared only as far as their collaborators cannot tell the journals of the two apart, however
both of them grow, as long as they grow by calls that look the same.  Calls look the same here if
they differ in nothing but the file name that the engine was told and the state that packs share.

Packs that cannot tell two journals apart start and stop at the one as they do at the other.

## Main results

* `Indistinct.inStep` — two journals that grow by calls that look the same stay indistinct.
* `start_alike`, `stop_alike` — starting and ending a session at indistinct journals.
-/

namespace ScriptHost

/-! ## Calls that look the same -/

/-- A submission without the file name that the engine was told and without the state that packs
share. -/
def Submission.masked (submission : Submission) : Submission :=
  { submission with
    desk := { submission.desk with fileName := none }
    session := { submission.session with state := [] } }

/-- A call, with what it submits masked. -/
def Call.masked : Call → Call
  | .execute submission => .execute submission.masked
  | c => c

/-- What calls look like. -/
def maskedCalls (calls : List Call) : List Call := calls.map Call.masked

/-- The hooks among calls. -/
def hookCalls (calls : List Call) : List Call := calls.filter Call.isHook

theorem maskedCalls_append (cs ds : List Call) :
    maskedCalls (cs ++ ds) = maskedCalls cs ++ maskedCalls ds :=
  List.map_append

theorem maskedCalls_reverse (cs : List Call) : maskedCalls cs.reverse = (maskedCalls cs).reverse :=
  List.map_reverse

theorem hookCalls_append (cs ds : List Call) :
    hookCalls (cs ++ ds) = hookCalls cs ++ hookCalls ds :=
  List.filter_append cs ds

theorem hookCalls_maskedCalls (cs : List Call) : hookCalls (maskedCalls cs) = hookCalls cs := by
  induction cs with
  | nil => rfl
  | cons c cs ih =>
      simp only [hookCalls, maskedCalls, List.map_cons, List.filter_cons] at ih ⊢
      rw [ih]
      cases c <;> rfl

/-- Calls that look the same have the same hooks among them. -/
theorem hookCalls_congr {cs cs' : List Call} (h : maskedCalls cs = maskedCalls cs') :
    hookCalls cs = hookCalls cs' := by
  rw [← hookCalls_maskedCalls cs, h, hookCalls_maskedCalls]

/-- From one trail to a later one, and from another to a later one, calls were made that look the
same. -/
def Trail.InStep (t t' t₁ t₁' : Trail) : Prop :=
  ∃ cs cs', Made cs t t₁ ∧ Made cs' t' t₁' ∧ maskedCalls cs = maskedCalls cs'

namespace Trail.InStep

theorem of_made {cs : List Call} {t t' t₁ t₁' : Trail} (h : Made cs t t₁) (h' : Made cs t' t₁') :
    InStep t t' t₁ t₁' :=
  ⟨cs, cs, h, h', rfl⟩

theorem refl (t t' : Trail) : InStep t t' t t' := of_made (.refl t) (.refl t')

theorem trans {t t' t₁ t₁' t₂ t₂' : Trail} (h : InStep t t' t₁ t₁')
    (h' : InStep t₁ t₁' t₂ t₂') : InStep t t' t₂ t₂' := by
  obtain ⟨cs, cs', hmade, hmade', hmasked⟩ := h
  obtain ⟨ds, ds', hlater, hlater', hmasked'⟩ := h'
  refine ⟨cs ++ ds, cs' ++ ds', hmade.trans hlater, hmade'.trans hlater', ?_⟩
  rw [maskedCalls_append, maskedCalls_append, hmasked, hmasked']

end Trail.InStep

/-! ## Journals that cannot be told apart -/

section Indistinct

variable {κ α : Type}

/-- Whether something that depends on a journal comes out the same at two of them, however both
grow, as long as they grow by calls with the same key. -/
def Indistinct (key : List Call → κ) (calls calls' : List Call) (f : List Call → α) : Prop :=
  ∀ cs cs', key cs = key cs' → f (cs ++ calls) = f (cs' ++ calls')

theorem Indistinct.now {key : List Call → κ} {calls calls' : List Call} {f : List Call → α}
    (h : Indistinct key calls calls' f) : f calls = f calls' :=
  h [] [] rfl

/-- What does not depend on the journal cannot tell any two apart. -/
theorem Indistinct.of_const {f : List Call → α} (h : ∀ calls calls', f calls = f calls')
    (key : List Call → κ) (calls calls' : List Call) : Indistinct key calls calls' f :=
  fun _ _ _ => h _ _

/-- Journals that grow by calls that look the same stay indistinct. -/
theorem Indistinct.inStep {t t' t₁ t₁' : Trail} {f : List Call → α}
    (h : Indistinct maskedCalls t.calls t'.calls f) (hstep : Trail.InStep t t' t₁ t₁') :
    Indistinct maskedCalls t₁.calls t₁'.calls f := by
  obtain ⟨cs, cs', hmade, hmade', hmasked⟩ := hstep
  intro ds ds' hds
  rw [hmade, hmade', ← List.append_assoc, ← List.append_assoc]
  apply h
  rw [maskedCalls_append, maskedCalls_append, maskedCalls_reverse, maskedCalls_reverse, hds,
    hmasked]

/-- What notices hooks only still notices hooks only once the same hooks were called. -/
theorem Indistinct.of_hooks {t t' t₁ t₁' : Trail} {cs cs' : List Call} {f : List Call → α}
    (h : Indistinct hookCalls t.calls t'.calls f) (hmade : Trail.Made cs t t₁)
    (hmade' : Trail.Made cs' t' t₁') (hhooks : hookCalls cs.reverse = hookCalls cs'.reverse) :
    Indistinct maskedCalls t₁.calls t₁'.calls f := by
  intro ds ds' hds
  rw [hmade, hmade', ← List.append_assoc, ← List.append_assoc]
  apply h
  rw [hookCalls_append, hookCalls_append, hookCalls_congr hds, hhooks]

/-- Whether the hooks of a pack cannot tell two journals apart. -/
structure Pack.Alike (key : List Call → κ) (calls calls' : List Call) (p : Pack) : Prop where
  onStart : Indistinct key calls calls' p.onStart
  context : Indistinct key calls calls' p.context
  onStop : Indistinct key calls calls' p.onStop

theorem Pack.Alike.inStep {t t' t₁ t₁' : Trail} {p : Pack}
    (h : p.Alike maskedCalls t.calls t'.calls) (hstep : Trail.InStep t t' t₁ t₁') :
    p.Alike maskedCalls t₁.calls t₁'.calls :=
  ⟨h.onStart.inStep hstep, h.context.inStep hstep, h.onStop.inStep hstep⟩

theorem Pack.Alike.of_hooks {t t' t₁ t₁' : Trail} {cs cs' : List Call} {p : Pack}
    (h : p.Alike hookCalls t.calls t'.calls) (hmade : Trail.Made cs t t₁)
    (hmade' : Trail.Made cs' t' t₁') (hhooks : hookCalls cs.reverse = hookCalls cs'.reverse) :
    p.Alike maskedCalls t₁.calls t₁'.calls :=
  ⟨h.onStart.of_hooks hmade hmade' hhooks, h.context.of_hooks hmade hmade' hhooks,
    h.onStop.of_hooks hmade hmade' hhooks⟩

end Indistinct

namespace Session

variable {t t' : Trail}

/-! ## Hooks in a row -/

/-- Start hooks do the same at journals that the packs cannot tell apart. -/
theorem startPacks_alike {ps : List Pack} (h : ∀ p ∈ ps, p.Alike maskedCalls t.calls t'.calls)
    (s : Session) :
    (startPacks ps s t').answer = (startPacks ps s t).answer ∧
      (startPacks ps s t').state = (startPacks ps s t).state ∧
      ∃ cs, Trail.Made cs t (startPacks ps s t).trail ∧
        Trail.Made cs t' (startPacks ps s t').trail := by
  induction ps generalizing s t t' with
  | nil => exact ⟨rfl, rfl, [], .refl t, .refl t'⟩
  | cons p ps ih =>
      have hsame : p.onStart t'.calls = p.onStart t.calls :=
        ((h p List.mem_cons_self).onStart.now).symm
      simp only [startPacks, Trail.calls_log, hsame]
      cases hperformed : s.toSessionView.performAll (p.onStart t.calls) with
      | mk v failed =>
          cases failed with
          | some f => exact ⟨rfl, rfl, [.startPack p.label], rfl, rfl⟩
          | none =>
              have hmade : ∀ u : Trail, Trail.Made p.startCalls u
                  ((startTrail p u).call (.startedPack p.label)) := fun _ => rfl
              have hrest : ∀ q ∈ ps, q.Alike maskedCalls
                  ((startTrail p t).call (.startedPack p.label)).calls
                  ((startTrail p t').call (.startedPack p.label)).calls := fun q hq =>
                (h q (List.mem_cons_of_mem p hq)).inStep (.of_made (hmade t) (hmade t'))
              obtain ⟨hanswer, hstate, cs, hcs, hcs'⟩ :=
                ih hrest { s.withView v with started := s.started ++ [p] }
              exact ⟨hanswer, hstate, _, (hmade t).trans hcs, (hmade t').trans hcs'⟩

/-- Packs show the same contexts at journals that they cannot tell apart. -/
theorem askContexts_alike {ps : List Pack}
    (h : ∀ p ∈ ps, p.Alike maskedCalls t.calls t'.calls) :
    (askContexts ps t').answer = (askContexts ps t).answer ∧
      (askContexts ps t').state = (askContexts ps t).state ∧
      ∃ cs, Trail.Made cs t (askContexts ps t).trail ∧
        Trail.Made cs t' (askContexts ps t').trail := by
  induction ps generalizing t t' with
  | nil => exact ⟨rfl, rfl, [], .refl t, .refl t'⟩
  | cons p ps ih =>
      have hsame : p.context t'.calls = p.context t.calls :=
        ((h p List.mem_cons_self).context.now).symm
      have hmade := fun u : Trail => Trail.made_call u (.askContext p.label)
      rw [askContexts, askContexts, hsame]
      cases p.context t.calls with
      | error f => exact ⟨rfl, rfl, _, hmade t, hmade t'⟩
      | ok shown =>
          have hrest : ∀ q ∈ ps, q.Alike maskedCalls (t.call (.askContext p.label)).calls
              (t'.call (.askContext p.label)).calls := fun q hq =>
            (h q (List.mem_cons_of_mem p hq)).inStep (.of_made (hmade t) (hmade t'))
          obtain ⟨hanswer, hstate, cs, hcs, hcs'⟩ := ih hrest
          cases shown with
          | none => exact ⟨hanswer, hstate, _, (hmade t).trans hcs, (hmade t').trans hcs'⟩
          | some c =>
              exact ⟨hanswer, congrArg (c :: ·) hstate, _, (hmade t).trans hcs,
                (hmade t').trans hcs'⟩

/-- Stop hooks do the same at journals that the packs cannot tell apart. -/
theorem stopPacks_alike {ps : List Pack}
    (h : ∀ p ∈ ps, p.Alike maskedCalls t.calls t'.calls) :
    (stopPacks ps t').1 = (stopPacks ps t).1 ∧
      ∃ cs, Trail.Made cs t (stopPacks ps t).2 ∧ Trail.Made cs t' (stopPacks ps t').2 := by
  induction ps generalizing t t' with
  | nil => exact ⟨rfl, [], .refl t, .refl t'⟩
  | cons p ps ih =>
      have hsame : p.onStop t'.calls = p.onStop t.calls :=
        ((h p List.mem_cons_self).onStop.now).symm
      let stopped := fun u : Trail =>
        (u.log (.debug logger ("Terminating script pack [magenta]" ++ p.name ++ "[/]"))).call
          (.stopPack p.label)
      have hmade : ∀ u, Trail.Made [.stopPack p.label] u (stopped u) := fun _ => rfl
      simp only [stopPacks, Trail.calls_log, hsame]
      cases p.onStop t.calls with
      | some f => exact ⟨rfl, _, hmade t, hmade t'⟩
      | none =>
          have hrest : ∀ q ∈ ps, q.Alike maskedCalls (stopped t).calls (stopped t').calls :=
            fun q hq =>
              (h q (List.mem_cons_of_mem p hq)).inStep (.of_made (hmade t) (hmade t'))
          obtain ⟨hanswer, cs, hcs, hcs'⟩ := ih hrest
          exact ⟨hanswer, _, (hmade t).trans hcs, (hmade t').trans hcs'⟩

/-! ## Starting and ending a session -/

/-- A session starts in the same way at journals that its packs cannot tell apart. -/
theorem start_alike {s : Session} (h : ∀ p ∈ s.packs, p.Alike maskedCalls t.calls t'.calls) :
    (s.start t').answer = (s.start t).answer ∧ (s.start t').state = (s.start t).state ∧
      ∃ cs, Trail.Made cs t (s.start t).trail ∧ Trail.Made cs t' (s.start t').trail := by
  obtain ⟨hanswer, hstate, cs, hcs, hcs'⟩ := startPacks_alike h s
  have hasked : ∀ p ∈ s.packs, p.Alike maskedCalls (startPacks s.packs s t).trail.calls
      (startPacks s.packs s t').trail.calls := fun p hp =>
    (h p hp).inStep (.of_made hcs hcs')
  obtain ⟨hanswer', hstate', ds, hds, hds'⟩ := askContexts_alike hasked
  unfold start
  split
  · simp only [hanswer, hstate]
    cases (startPacks s.packs s t).answer with
    | error f => exact ⟨rfl, rfl, cs, hcs, hcs'⟩
    | ok _ =>
        simp only [hanswer', hstate']
        cases (askContexts s.packs (startPacks s.packs s t).trail).answer with
        | error f => exact ⟨rfl, rfl, _, hcs.trans hds, hcs'.trans hds'⟩
        | ok _ => exact ⟨rfl, rfl, _, hcs.trans hds, hcs'.trans hds'⟩
  · exact ⟨rfl, rfl, [], .refl t, .refl t'⟩

/-- A session ends in the same way at journals that its packs cannot tell apart. -/
theorem stop_alike {s : Session} (h : ∀ p ∈ s.started, p.Alike maskedCalls t.calls t'.calls) :
    (s.stop t').answer = (s.stop t).answer ∧ (s.stop t').state = (s.stop t).state ∧
      ∃ cs, Trail.Made cs t (s.stop t).trail ∧ Trail.Made cs t' (s.stop t').trail := by
  have hreverse : ∀ p ∈ s.started.reverse, p.Alike maskedCalls t.calls t'.calls := fun p hp =>
    h p (List.mem_reverse.mp hp)
  obtain ⟨hanswer, cs, hcs, hcs'⟩ := stopPacks_alike hreverse
  unfold stop
  split
  · exact ⟨rfl, rfl, [], .refl t, .refl t'⟩
  · exact ⟨hanswer, rfl, cs, hcs, hcs'⟩

/-! ## The shared state -/

/-- The session with another shared state. -/
def withState (s : Session) (state : Sequence.Entries Datum) : Session := { s with state := state }

/-- Ending a session does not look at the shared state. -/
theorem stop_withState (s : Session) (state : Sequence.Entries Datum) (t : Trail) :
    (s.withState state).stop t = (s.stop t).lift (·.withState state) := by
  by_cases hphase : s.phase = .ended
  · have hphase' : (s.withState state).phase = .ended := hphase
    rw [stop_of_ended hphase, stop_of_ended hphase']
    rfl
  · unfold stop
    split
    · next hended => exact absurd hended hphase
    · rfl

end Session

end ScriptHost
