import ScriptHost.Proofs.Executor.Execution

/-!
# The effects of operations

What one operation does to the session, to the journal and to the rest of the executor: a prepared
execution on the one hand, and all other operations on the other.

## Main results

* `effect_of_not_prepared` — what an operation that is not a prepared execution does to the session.
* `state_of_not_prepared`, `state_of_prepared` — the executor that an operation leaves.
* `received_of_not_prepared`, `received_of_prepared` — what the engine receives.
-/

namespace ScriptHost

open Sequence (Supplied)

namespace Executor

/-! ## Effects on the session -/

/-- Whether an operation arms the bundle, so that it is due again: a session is founded, or a
session is reset. -/
def Arms (e : Executor) (t : Trail) : Operation → Prop
  | .start paths _ _ => ∃ g, e.founding t.calls paths = .ok g
  | .reset => ∃ s, e.session = some s ∧ s.phase ≠ .ended
  | _ => False

instance (e : Executor) (t : Trail) (op : Operation) : Decidable (e.Arms t op) :=
  match op with
  | .start paths _ _ =>
    match h : e.founding t.calls paths with
    | .ok g => isTrue ⟨g, h⟩
    | .error _ => isFalse fun ⟨_, hg⟩ => nomatch h.symm.trans hg
  | .reset =>
    match h : e.session with
    | none => isFalse fun ⟨_, hs, _⟩ => nomatch h.symm.trans hs
    | some s =>
      if hphase : s.phase = .ended then
        isFalse fun ⟨_, hs, hne⟩ => hne (Option.some.inj (h.symm.trans hs) ▸ hphase)
      else isTrue ⟨s, h, hphase⟩
  | .change _ => isFalse id
  | .stop => isFalse id
  | .execute _ _ => isFalse id
  | .executeText _ _ => isFalse id
  | .surround _ => isFalse id

/-- Whether an operation ends a session. -/
def Ends (e : Executor) : Operation → Prop
  | .stop => ∃ s, e.session = some s ∧ s.phase ≠ .ended
  | _ => False

/-- What an operation that is not a prepared execution does to the session and to the journal. -/
inductive Effect (e : Executor) (t : Trail) (e' : Executor) (t' : Trail) : Operation → Prop where
  /-- The session is left alone, and no hook is called. -/
  | quiet {op : Operation} {cs : List Call} (idle : ¬ e.Arms t op ∧ ¬ e.Ends op)
      (session : e'.session = e.session) (made : Trail.Made cs t t')
      (sources : cs.all Call.isSource = true) : Effect e t e' t' op
  /-- A session is founded. -/
  | founded {paths : Supplied String} {packs : List Pack} {arguments : List String}
      {g : Executor} {t₁ : Trail} (founding : e.founding t.calls paths = .ok g)
      (made : Trail.Made [] t t₁)
      (session : e'.session = some ((Session.new packs arguments).start t₁).state)
      (trail : t' = ((Session.new packs arguments).start t₁).trail) :
      Effect e t e' t' (.start paths packs arguments)
  /-- The session is reset. -/
  | cleared {s : Session} (old : e.session = some s) (phase : s.phase ≠ .ended)
      (session : e'.session = some s.cleared) (trail : t' = t) : Effect e t e' t' .reset
  /-- The session ends. -/
  | ended {s : Session} {t₁ : Trail} (old : e.session = some s) (phase : s.phase ≠ .ended)
      (made : Trail.Made [] t t₁) (session : e'.session = some (s.stop t₁).state)
      (trail : t' = (s.stop t₁).trail) : Effect e t e' t' .stop

/-- An operation that is not a prepared execution has one of these effects, and changes nothing
about the sources but the file system and what the pre-processor keeps of a stray. -/
theorem effect_of_not_prepared {e : Executor} {t : Trail} {op : Operation}
    (h : e.prepare t op = none) :
    Effect e t (e.perform t op).state (e.perform t op).trail op ∧
      ∃ fs, (e.perform t op).state.toSources =
        { e.toSources with fileSystem := fs, pool := e.strayPool t op } := by
  cases op with
  | change edit =>
      obtain ⟨hsession, hsources, -, -, hmade⟩ := e.apply_frame t edit
      exact ⟨.quiet ⟨id, id⟩ hsession hmade rfl, e.fileSystem, hsources⟩
  | start paths packs arguments =>
      cases hfounding : e.founding t.calls paths with
      | error f =>
          obtain ⟨-, hsession, hsources, hmade⟩ :=
            start_of_founding_error hfounding packs arguments
          refine ⟨.quiet ⟨?_, id⟩ hsession hmade rfl, e.fileSystem, hsources⟩
          rintro ⟨g, hg⟩
          rw [hfounding] at hg
          cases hg
      | ok g =>
          obtain ⟨t₁, hmade, heq⟩ := start_of_founding hfounding packs arguments
          simp only [perform, heq]
          exact ⟨.founded hfounding hmade rfl rfl, e.fileSystem, (founding_frame hfounding).2.1⟩
  | reset =>
      simp only [perform]
      rcases e.reset_cases t with ⟨hnone, heq⟩ | ⟨s, hs, hphase, heq⟩ | ⟨s, hs, hphase, heq⟩
      · rw [heq]
        refine ⟨.quiet ⟨?_, id⟩ rfl (.refl t) rfl, e.fileSystem, rfl⟩
        rintro ⟨s, hs, -⟩
        rw [hnone] at hs
        cases hs
      · rw [heq]
        refine ⟨.quiet ⟨?_, id⟩ rfl (.refl t) rfl, e.fileSystem, rfl⟩
        rintro ⟨s', hs', hne⟩
        rw [hs] at hs'
        cases hs'
        exact hne hphase
      · rw [heq]
        exact ⟨.cleared hs hphase rfl rfl, e.fileSystem, rfl⟩
  | stop =>
      simp only [perform]
      rcases e.stop_cases t with ⟨hnone, heq⟩ | ⟨s, t₁, hs, hmade, heq⟩
      · rw [heq]
        refine ⟨.quiet ⟨id, ?_⟩ rfl (.refl t) rfl, e.fileSystem, rfl⟩
        rintro ⟨s, hs, -⟩
        rw [hnone] at hs
        cases hs
      · rw [heq]
        refine ⟨?_, e.fileSystem, rfl⟩
        by_cases hphase : s.phase = .ended
        · rw [Session.stop_of_ended hphase t₁]
          refine .quiet ⟨id, ?_⟩ hs.symm hmade rfl
          rintro ⟨s', hs', hne⟩
          rw [hs] at hs'
          cases hs'
          exact hne hphase
        · exact .ended hs hphase hmade rfl rfl
  | execute script arguments =>
      obtain ⟨-, hstate, cs, hmade, hsource⟩ := execution_of_not_prepared rfl h
      exact ⟨.quiet ⟨id, id⟩ (by rw [hstate]) hmade hsource, e.fileSystem, by rw [hstate]⟩
  | executeText text arguments =>
      obtain ⟨-, hstate, cs, hmade, hsource⟩ := execution_of_not_prepared rfl h
      exact ⟨.quiet ⟨id, id⟩ (by rw [hstate]) hmade hsource, e.fileSystem, by rw [hstate]⟩
  | surround fileSystem => exact ⟨.quiet ⟨id, id⟩ rfl (.refl t) rfl, fileSystem, rfl⟩

theorem idle_of_prepared {e : Executor} {t : Trail} {op : Operation} {p : Prepared}
    (h : e.prepare t op = some p) : ¬ e.Arms t op ∧ ¬ e.Ends op := by
  rcases (prepare_cases h).2 with ⟨script, path, rfl, -⟩ | ⟨text, rfl, -⟩
  · exact ⟨id, id⟩
  · exact ⟨id, id⟩

/-! ## What the engine receives -/

/-- Only a prepared execution submits anything. -/
theorem received_of_not_prepared {e : Executor} {t : Trail} {op : Operation}
    (h : e.prepare t op = none) :
    ∃ cs, Trail.Made cs t (e.perform t op).trail ∧ received cs = [] := by
  obtain ⟨heffect, -⟩ := effect_of_not_prepared h
  cases heffect with
  | quiet idle session made sources => exact ⟨_, made, received_of_sources sources⟩
  | @founded paths packs arguments g t₁ founding made session trail =>
      obtain ⟨cs, hmade, hhooks⟩ := (Session.new packs arguments).start_hooks t₁
      rw [trail]
      exact ⟨[] ++ cs, made.trans hmade, received_of_hooks hhooks⟩
  | cleared old phase session trail =>
      rw [trail]
      exact ⟨[], .refl t, rfl⟩
  | @ended s t₁ old phase made session trail =>
      obtain ⟨cs, hmade, hhooks⟩ := s.stop_hooks t₁
      rw [trail]
      exact ⟨[] ++ cs, made.trans hmade, received_of_hooks hhooks⟩

/-- What a prepared execution submits: nothing if looking for the bundle fails, and else the
composed script, once. -/
theorem received_of_prepared {e : Executor} {t : Trail} {op : Operation} {p : Prepared}
    (h : e.prepare t op = some p) :
    ∃ cs, Trail.Made cs t (e.perform t op).trail ∧
      received cs =
        match e.compose p with
        | .error _ => []
        | .ok c => [c.submission p.arguments] := by
  obtain ⟨t', ⟨cs, hmade, hsource⟩, heq⟩ := perform_of_prepared h
  have hcs := received_of_sources hsource
  rw [heq]
  cases e.compose p with
  | error f => exact ⟨cs, hmade, hcs⟩
  | ok c =>
      have hsubmit : Trail.Made [.execute _] t'
          (c.executor.submit t' c.script p.arguments c.session).trail := rfl
      refine ⟨_, hmade.trans hsubmit, ?_⟩
      rw [received_append, hcs]
      rfl

/-! ## The executor that is left -/

/-- The file system that an operation brings. -/
def Operation.brings? : Operation → Option FileSystem
  | .surround fileSystem => some fileSystem
  | _ => none

/-- An operation that is not a prepared execution changes the environment, the folders on the desk
of the engine, the session, the file system, and what the pre-processor keeps of a stray at most. -/
theorem state_of_not_prepared {e : Executor} {t : Trail} {op : Operation}
    (h : e.prepare t op = none) :
    ∃ references namespaces desk session,
      (e.perform t op).state =
        { e with
          fileSystem := op.brings?.getD e.fileSystem
          pool := e.strayPool t op
          references := references, namespaces := namespaces, desk := desk
          session := session } ∧
      desk.fileName = e.desk.fileName := by
  cases op with
  | change edit =>
      rw [perform, Step.map]
      rcases e.apply_cases t edit with ⟨name, -, heq⟩ | ⟨-, t', -, heq⟩
      · rw [heq]
        exact ⟨_, _, _, _, rfl, rfl⟩
      · obtain ⟨references, namespaces, heffect⟩ := effect_frame e edit
        rw [heq, heffect]
        exact ⟨_, _, _, _, rfl, rfl⟩
  | start paths packs arguments =>
      obtain ⟨references, desk, session, heq, -, hname⟩ := e.start_state t paths packs arguments
      exact ⟨_, _, _, _, heq, hname⟩
  | reset =>
      rw [perform, Step.map]
      rcases e.reset_cases t with ⟨-, heq⟩ | ⟨s, -, -, heq⟩ | ⟨s, -, -, heq⟩ <;>
      · rw [heq]
        exact ⟨_, _, _, _, rfl, rfl⟩
  | stop =>
      rw [perform, Step.map]
      rcases e.stop_cases t with ⟨-, heq⟩ | ⟨s, t', -, -, heq⟩ <;>
      · rw [heq]
        exact ⟨_, _, _, _, rfl, rfl⟩
  | execute script arguments =>
      rw [(execution_of_not_prepared rfl h).2.1]
      exact ⟨_, _, _, _, rfl, rfl⟩
  | executeText text arguments =>
      rw [(execution_of_not_prepared rfl h).2.1]
      exact ⟨_, _, _, _, rfl, rfl⟩
  | surround fileSystem => exact ⟨_, _, _, _, rfl, rfl⟩

/-- A prepared execution tells the engine the name of its script, merges references and marks the
session at most. -/
theorem state_of_prepared {e : Executor} {t : Trail} {op : Operation} {p : Prepared}
    (h : e.prepare t op = some p) :
    (e.perform t op).state =
      match e.compose p with
      | .error _ => { e.ready p with session := some p.session }
      | .ok c => c.merged := by
  obtain ⟨t', -, heq⟩ := perform_of_search h
  rw [heq]
  cases e.compose p with
  | error f => rfl
  | ok c => rfl

theorem brings_of_prepared {e : Executor} {t : Trail} {op : Operation} {p : Prepared}
    (h : e.prepare t op = some p) : op.brings? = none := by
  rcases (prepare_cases h).2 with ⟨script, path, rfl, -⟩ | ⟨text, rfl, -⟩
  · rfl
  · rfl

/-- No operation exchanges a collaborator but the one that brings another file system. -/
theorem perform_collaborators (e : Executor) (t : Trail) (op : Operation) :
    (e.perform t op).state.preProcessor = e.preProcessor ∧
      (e.perform t op).state.libraryFile = e.libraryFile ∧
      (e.perform t op).state.fileSystem = op.brings?.getD e.fileSystem ∧
      (e.perform t op).state.engine = e.engine := by
  cases hp : e.prepare t op with
  | some p =>
      rw [state_of_prepared hp, brings_of_prepared hp]
      cases hc : e.compose p with
      | error f => exact ⟨rfl, rfl, rfl, rfl⟩
      | ok c =>
          obtain ⟨hpp, hfile, hfs, hengine, -⟩ := compose_frame hc
          exact ⟨hpp, hfile, hfs, hengine⟩
  | none =>
      obtain ⟨_, _, _, _, heq, -⟩ := state_of_not_prepared hp
      rw [heq]
      exact ⟨rfl, rfl, rfl, rfl⟩

/-- An operation leaves the file name on the desk of the engine as it is, unless it is an execution
whose script has a name and is pre-processed. -/
theorem fileName_perform (e : Executor) (t : Trail) (op : Operation) :
    (e.perform t op).state.desk.fileName =
      ((e.prepare t op).bind Prepared.fileName).or e.desk.fileName := by
  cases hp : e.prepare t op with
  | some p =>
      rw [state_of_prepared hp]
      cases hc : e.compose p with
      | error f => rfl
      | ok c =>
          obtain ⟨pool, hexecutor, -⟩ := compose_executor hc
          simp only [Composed.merged, hexecutor]
          rfl
  | none =>
      obtain ⟨_, _, _, _, heq, hname⟩ := state_of_not_prepared hp
      rw [heq]
      exact hname

end Executor

end ScriptHost
