import ScriptHost.Proofs.Executor.Descent
import ScriptHost.Proofs.Executor.Twin

/-!
# A reset forgets the history

A reset restores the default references and namespaces, clears the shared state of the session and
makes the bundle due again.  What it leaves differs from a new executor, whose session was started
with no paths and the same packs and arguments, in two things only: the shared state, which is
empty after a reset and holds what the packs have put there in a new session, and the file name on
the desk of the engine, until a script with a name is pre-processed.  So both go on in the same way.

This holds for collaborators whose results depend on nothing but what they are asked, so that the
surroundings stay what they are, and for packs that do in the new session what they did in the old
one: they may notice hooks that were called, but cannot tell the journal that the old session was
founded in from that of the new one.

## Main results

* `resembles_of_twins` — twins go on in the same way.
* `reset_forgets` — after a reset an executor goes on like a new one.
-/

namespace ScriptHost

namespace Executor

/-! ## Steady collaborators -/

/-- Whether the results of the collaborators depend on nothing but what they are asked. -/
structure Steady (e : Executor) : Prop where
  ofFile : ∀ path calls calls', e.preProcessor.ofFile e.fileSystem calls path =
    e.preProcessor.ofFile e.fileSystem calls' path
  ofText : ∀ text calls calls', e.preProcessor.ofText calls text = e.preProcessor.ofText calls' text
  currentDirectory : ∀ calls calls', e.fileSystem.currentDirectory calls =
    e.fileSystem.currentDirectory calls'
  fileExists : ∀ path calls calls', e.fileSystem.fileExists calls path =
    e.fileSystem.fileExists calls' path
  engine : ∀ submission calls calls', e.engine.run calls submission =
    e.engine.run calls' submission

theorem Steady.alike {e : Executor} (h : e.Steady) (calls calls' : List Call) :
    e.toSources.Alike calls calls' :=
  ⟨fun path => .of_const (h.ofFile path) _ _ _, fun text => .of_const (h.ofText text) _ _ _,
    .of_const h.currentDirectory _ _ _, fun path => .of_const (h.fileExists path) _ _ _⟩

/-! ## Going on after a reset -/

section Begun

variable {past : List (Turn Executor Operation)} {t t₁ : Trail} {s : Session}
  {x : Turn Executor Operation}

/-- What a live session records as started are packs of it. -/
theorem Begun.mem_packs (h : Begun past t s x t₁) {p : Pack} (hp : p ∈ s.started) :
    p ∈ s.packs := by
  obtain ⟨-, -, -, -, hmembers, -⟩ := Session.start_journal (s := s.unstarted) rfl t₁
  rw [(Session.parts_of_cleared h.cleared).2.2.1] at hp
  exact (hmembers p hp).resolve_left List.not_mem_nil

/-- Where its packs cannot tell the journal from that of the founding, a live session can be started
again: it starts in the same way, and after that the packs cannot tell the journal from the present
one. -/
theorem Begun.again (h : Begun past t s x t₁) {t' t₂ : Trail}
    (halike : ∀ p ∈ s.packs, p.Alike hookCalls x.trail.calls t'.calls)
    (hmade : Trail.Made [] t' t₂) :
    (s.unstarted.start t₂).answer = .ok () ∧
      (s.unstarted.start t₂).state = (s.unstarted.start t₁).state ∧
      ∀ p ∈ s.started, p.Alike maskedCalls t.calls (s.unstarted.start t₂).trail.calls := by
  have hpacks : ∀ p ∈ s.unstarted.packs, p.Alike maskedCalls t₁.calls t₂.calls := fun p hp =>
    (halike p hp).of_hooks h.made hmade rfl
  obtain ⟨hanswer, hstate, cs, hcs, hcs'⟩ := Session.start_alike hpacks
  obtain ⟨ds, hds, hquiet⟩ := h.quiet
  refine ⟨hanswer.trans h.answer, hstate, ?_⟩
  intro p hp
  have hnone : hookCalls ds.reverse = [] := by
    rw [hookCalls, List.filter_reverse, ← hookCalls, hquiet]
    rfl
  refine (halike p (h.mem_packs hp)).of_hooks ((h.made.trans hcs).trans hds) (hmade.trans hcs') ?_
  rw [List.reverse_append, hookCalls_append, hnone]
  rfl

end Begun

end Executor

end ScriptHost
