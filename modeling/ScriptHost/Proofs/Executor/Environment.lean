import ScriptHost.Proofs.Executor.Effect

/-!
# The environment of executions

The references and the persistent namespaces outlive sessions.  They change by the operations that
are made for it and by a reset; references are added besides when a session is started with paths,
and when a script that declares some is executed.

## Main results

* `environment_cases` — all that an operation can do to the environment.
* `perform_paths`, `perform_names` — what operations leave of paths and of namespaces.
-/

namespace ScriptHost

namespace Executor

/-- What an operation does to the environment: a change of it has its effect, a reset that is
answered restores the defaults, a start adds the paths it is given, a composed execution adds what
its script declares, and anything else leaves the environment alone. -/
theorem environment_cases (e : Executor) (t : Trail) (op : Operation) :
    (∃ edit, op = .change edit ∧ edit.lacks? = none ∧
      (e.perform t op).state = edit.effect e) ∨
    (op = .reset ∧ (e.perform t op).answer = .ok none ∧
      (e.perform t op).state.references = e.references.reset ∧
      (e.perform t op).state.namespaces = e.namespaces.reset) ∨
    ((e.perform t op).state.namespaces = e.namespaces ∧
      ((e.perform t op).state.references = e.references ∨
        (∃ items, (e.perform t op).state.references = e.references.addPaths items) ∨
        ∃ p c, e.prepare t op = some p ∧ e.compose p = .ok c ∧
          (e.perform t op).state.references = e.references.merge c.script.references)) := by
  cases hp : e.prepare t op with
  | some p =>
      refine .inr (.inr ?_)
      rw [state_of_prepared hp]
      cases hc : e.compose p with
      | error f => exact ⟨rfl, .inl rfl⟩
      | ok c =>
          obtain ⟨pool, hexecutor, -⟩ := compose_executor hc
          simp only [Composed.merged, hexecutor]
          exact ⟨rfl, .inr (.inr ⟨p, c, rfl, hc, rfl⟩)⟩
  | none =>
      cases op with
      | change edit =>
          rw [perform, Step.map]
          rcases e.apply_cases t edit with ⟨name, -, heq⟩ | ⟨hpresent, t', -, heq⟩
          · rw [heq]
            exact .inr (.inr ⟨rfl, .inl rfl⟩)
          · rw [heq]
            exact .inl ⟨edit, rfl, hpresent, rfl⟩
      | start paths packs arguments =>
          obtain ⟨references, desk, session, heq, hreferences, -⟩ :=
            e.start_state t paths packs arguments
          have hstate : (e.perform t (.start paths packs arguments)).state =
              { e with references := references, desk := desk, session := session } := heq
          rw [hstate]
          rcases hreferences with rfl | ⟨items, rfl⟩
          · exact .inr (.inr ⟨rfl, .inl rfl⟩)
          · exact .inr (.inr ⟨rfl, .inr (.inl ⟨items, rfl⟩)⟩)
      | reset =>
          rw [perform, Step.map]
          rcases e.reset_cases t with ⟨-, heq⟩ | ⟨s, -, -, heq⟩ | ⟨s, -, -, heq⟩
          · rw [heq]
            exact .inr (.inl ⟨rfl, rfl, rfl, rfl⟩)
          · rw [heq]
            exact .inr (.inr ⟨rfl, .inl rfl⟩)
          · rw [heq]
            exact .inr (.inl ⟨rfl, rfl, rfl, rfl⟩)
      | stop =>
          rw [perform, Step.map]
          rcases e.stop_cases t with ⟨-, heq⟩ | ⟨s, t', -, -, heq⟩
          · rw [heq]
            exact .inr (.inr ⟨rfl, .inl rfl⟩)
          · rw [heq]
            exact .inr (.inr ⟨rfl, .inl rfl⟩)
      | execute script arguments =>
          rw [(execution_of_not_prepared rfl hp).2.1]
          exact .inr (.inr ⟨rfl, .inl rfl⟩)
      | executeText text arguments =>
          rw [(execution_of_not_prepared rfl hp).2.1]
          exact .inr (.inr ⟨rfl, .inl rfl⟩)
      | surround fileSystem => exact .inr (.inr ⟨rfl, .inl rfl⟩)

/-- Whether an operation may take paths away from the references. -/
def Operation.dropsPaths : Operation → Bool
  | .change (.removePaths _) | .reset => true
  | _ => false

/-- Whether an operation may change the persistent namespaces. -/
def Operation.changesNames : Operation → Bool
  | .change (.importNamespaces _) | .change (.removeNamespaces _) | .reset => true
  | _ => false

/-- An operation that removes no paths leaves those that are there in front, in their order. -/
theorem perform_paths (e : Executor) (t : Trail) {op : Operation} (h : op.dropsPaths = false) :
    e.references.paths.toList <+: (e.perform t op).state.references.paths.toList := by
  rcases e.environment_cases t op with ⟨edit, rfl, -, heq⟩ | ⟨rfl, -⟩ | ⟨-, hreferences⟩
  · rw [heq]
    cases edit with
    | addPaths paths => exact e.references.paths.prefix_insertAll _
    | removePaths paths => cases h
    | _ => exact List.prefix_refl _
  · cases h
  · rcases hreferences with heq | ⟨items, heq⟩ | ⟨p, c, -, -, heq⟩
    · exact heq ▸ List.prefix_refl _
    · rw [heq]
      exact e.references.paths.prefix_insertAll _
    · rw [heq]
      exact e.references.paths.prefix_insertAll _

/-- An operation that does not change the persistent namespaces leaves them as they are. -/
theorem perform_names (e : Executor) (t : Trail) {op : Operation} (h : op.changesNames = false) :
    (e.perform t op).state.namespaces = e.namespaces := by
  rcases e.environment_cases t op with ⟨edit, rfl, -, heq⟩ | ⟨rfl, -⟩ | ⟨hnamespaces, -⟩
  · rw [heq]
    cases edit with
    | importNamespaces names => cases h
    | removeNamespaces names => cases h
    | _ => rfl
  · cases h
  · exact hnamespaces

end Executor

end ScriptHost
