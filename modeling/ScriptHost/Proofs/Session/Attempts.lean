import Mathlib.Data.List.Nodup
import ScriptHost.Proofs.Session.Contribution
import ScriptHost.Proofs.Session.Lifecycle

/-!
# Attempts at a start

A session that fails to start is not started, and may be asked to start again.  A new attempt begins
with the oldest pack, whatever an earlier attempt has left: a pack that has started in one attempt
starts again in the next, contributes again what it contributes, and is recorded, and asked to stop
at the end, once for each attempt.

Packs that are told apart by their labels thus start at most once each exactly if there are no two
attempts in which a pack starts.  All but the last attempt have failed, so a session whose first
attempt succeeds, or fails at its oldest pack until one succeeds, starts no pack twice.

## Main results

* `perform_hooks` — what one operation makes of the start hooks that it calls.
* `starts_law` — which packs start in a run, how often, and what they contribute.
-/

namespace ScriptHost

namespace Session

/-! ## Start hooks of a turn -/

/-- The start hooks that a turn calls: none, unless it is an attempt at a start. -/
def hooksOf (x : Turn Session Operation) : List StartHook :=
  match x.operation, x.state.phase with
  | .start, .notStarted => startHooks x.state.packs x.trail.calls
  | _, _ => []

/-- The packs that start in a turn. -/
def startsOf (x : Turn Session Operation) : List PackLabel :=
  ((hooksOf x).filter StartHook.completes).map fun h => h.pack.label

theorem hooksOf_start {s : Session} (h : s.phase = .notStarted) (t : Trail) :
    hooksOf ⟨s, t, .start⟩ = startHooks s.packs t.calls := by
  simp only [hooksOf, h]

theorem hooksOf_eq_nil {s : Session} {op : Operation} (h : op = .start → s.phase ≠ .notStarted)
    (t : Trail) : hooksOf ⟨s, t, op⟩ = [] := by
  unfold hooksOf
  split
  · next hop hphase => exact absurd hphase (h hop)
  · rfl

/-- A turn that calls a start hook is an attempt at a start. -/
theorem attempt_of_hooksOf {x : Turn Session Operation} (h : hooksOf x ≠ []) :
    x.operation = .start ∧ x.state.phase = .notStarted := by
  by_contra hnot
  refine h (hooksOf_eq_nil ?_ x.trail)
  intro hop hphase
  exact hnot ⟨hop, hphase⟩

/-- A turn calls start hooks in the order of the packs, each at most once. -/
theorem packs_hooksOf (x : Turn Session Operation) :
    (hooksOf x).map StartHook.pack <+: x.state.packs := by
  by_cases h : hooksOf x = []
  · rw [h]
    exact List.nil_prefix
  · obtain ⟨s, t, op⟩ := x
    obtain ⟨rfl, hphase⟩ := attempt_of_hooksOf h
    rw [hooksOf_start hphase]
    exact packs_startHooks s.packs t.calls

/-- If a pack starts in a turn, the oldest pack does. -/
theorem oldest_of_startsOf {x : Turn Session Operation} (h : startsOf x ≠ []) :
    ∃ p ps, x.state.packs = p :: ps ∧ p.label ∈ startsOf x := by
  have hhooks : hooksOf x ≠ [] := fun hnil => h (by rw [startsOf, hnil]; rfl)
  obtain ⟨s, t, op⟩ := x
  obtain ⟨rfl, hphase⟩ := attempt_of_hooksOf hhooks
  rw [startsOf, hooksOf_start hphase] at h ⊢
  cases hpacks : s.packs with
  | nil =>
      rw [hpacks] at h
      exact absurd rfl h
  | cons p ps =>
      refine ⟨p, ps, rfl, ?_⟩
      rw [hpacks, startHooks] at h
      rw [startHooks]
      cases hp : p.startFailure? t.calls with
      | some f => simp [StartHook.completes, hp] at h
      | none => simp [StartHook.completes, hp]

/-- Packs that are told apart by their labels start at most once each in a turn. -/
theorem nodup_startsOf {x : Turn Session Operation} (h : (x.state.packs.map Pack.label).Nodup) :
    (startsOf x).Nodup := by
  have hsublist : ((hooksOf x).map fun k => k.pack.label).Sublist
      (x.state.packs.map Pack.label) := by
    have hprefix := (packs_hooksOf x).sublist.map Pack.label
    rwa [List.map_map] at hprefix
  exact h.sublist ((List.filter_sublist.map _).trans hsublist)

/-! ## What one operation does -/

/-- An attempt leaves behind what its start hooks do. -/
theorem start_keeps_begun {s : Session} (h : s.phase = .notStarted) (t : Trail) :
    (s.start t).state.started = (startPacks s.packs s t).state.started ∧
      (s.start t).state.references = (startPacks s.packs s t).state.references ∧
      (s.start t).state.namespaces = (startPacks s.packs s t).state.namespaces := by
  simp only [start, h]
  cases (startPacks s.packs s t).answer with
  | error f => exact ⟨rfl, rfl, rfl⟩
  | ok _ =>
      dsimp only
      cases (askContexts s.packs (startPacks s.packs s t).trail).answer with
      | error f => exact ⟨rfl, rfl, rfl⟩
      | ok _ => exact ⟨rfl, rfl, rfl⟩

/-- The packs that start in an operation are those whose start hooks it calls and that complete, and
every hook it calls contributes what it does. -/
theorem perform_hooks (s : Session) (t : Trail) (op : Operation) :
    ∃ cs, Trail.Made cs t (s.perform t op).trail ∧ startedLabels cs = startsOf ⟨s, t, op⟩ ∧
      (s.perform t op).state.references = s.references ++
        (hooksOf ⟨s, t, op⟩).flatMap (StartHook.gives PackAction.reference?) ∧
      (s.perform t op).state.namespaces = s.namespaces ++
        (hooksOf ⟨s, t, op⟩).flatMap (StartHook.gives PackAction.namespace?) := by
  by_cases hattempt : op = .start ∧ s.phase = .notStarted
  · obtain ⟨rfl, hphase⟩ := hattempt
    obtain ⟨cs, hmade, -, hjournal, -⟩ := start_journal hphase t
    obtain ⟨hstarted, hreferences, hnamespaces⟩ := start_keeps_begun hphase t
    obtain ⟨hrecorded, hgiven, hgiven'⟩ := startPacks_hooks s.packs s t
    rw [hstarted, hrecorded, List.map_append, List.map_map] at hjournal
    refine ⟨cs, hmade, ?_, ?_, ?_⟩
    · rw [startsOf, hooksOf_start hphase]
      exact (List.append_cancel_left hjournal).symm
    · rw [hooksOf_start hphase]
      exact hreferences.trans hgiven
    · rw [hooksOf_start hphase]
      exact hnamespaces.trans hgiven'
  · have hnone : hooksOf ⟨s, t, op⟩ = [] :=
      hooksOf_eq_nil (fun hop hphase => hattempt ⟨hop, hphase⟩) t
    have hnobody : startsOf ⟨s, t, op⟩ = [] := by rw [startsOf, hnone]; rfl
    rw [hnone, hnobody, List.flatMap_nil, List.flatMap_nil, List.append_nil, List.append_nil]
    cases op with
    | start =>
        have hphase : s.phase ≠ .notStarted := fun hphase => hattempt ⟨rfl, hphase⟩
        rw [perform, start_of_not_new hphase t]
        exact ⟨[], .refl t, rfl, rfl, rfl⟩
    | reset =>
        by_cases hphase : s.phase = .ended
        · rw [perform, reset_of_ended hphase t]
          exact ⟨[], .refl t, rfl, rfl, rfl⟩
        · rw [perform, reset_of_not_ended hphase t]
          exact ⟨[], .refl t, rfl, rfl, rfl⟩
    | stop =>
        by_cases hphase : s.phase = .ended
        · rw [perform, stop_of_ended hphase t]
          exact ⟨[], .refl t, rfl, rfl, rfl⟩
        · obtain ⟨cs, hmade, hstarted, -⟩ := stop_journal hphase t
          obtain ⟨hstate, -⟩ := stop_of_not_ended hphase t
          rw [perform, hstate]
          exact ⟨cs, hmade, hstarted, rfl, rfl⟩

/-! ## What a run does -/

/-- What the turns of a run have made of the start hooks that they called. -/
structure Hooked (t₀ : Trail) (past : List (Turn Session Operation)) (s : Session) (t : Trail) :
    Prop where
  journal : ∃ cs, Trail.Made cs t₀ t ∧ startedLabels cs = past.flatMap startsOf
  references : s.references =
    (past.flatMap hooksOf).flatMap (StartHook.gives PackAction.reference?)
  namespaces : s.namespaces =
    (past.flatMap hooksOf).flatMap (StartHook.gives PackAction.namespace?)

theorem hooked_perform {t₀ : Trail} (past : List (Turn Session Operation)) (s : Session)
    (t : Trail) (op : Operation) (h : Hooked t₀ past s t) :
    Hooked t₀ (past ++ [⟨s, t, op⟩]) (s.perform t op).state (s.perform t op).trail := by
  obtain ⟨⟨cs, hmade, hstarted⟩, hreferences, hnamespaces⟩ := h
  obtain ⟨ds, hmade', hstarts, hgiven, hgiven'⟩ := perform_hooks s t op
  refine ⟨⟨cs ++ ds, hmade.trans hmade', ?_⟩, ?_, ?_⟩
  · simp [hstarted, hstarts]
  · simp [hgiven, hreferences]
  · simp [hgiven', hnamespaces]

/-- Whether a turn was an attempt at a start that failed, if it was one. -/
def FailsToStart (x : Turn Session Operation) : Prop :=
  x.operation = .start → ∃ f, (x.step perform).answer = .error f

/-- As long as a session has not started, the attempts at it have failed, and so has every attempt
that another one follows. -/
structure Retried (past : List (Turn Session Operation)) (s : Session) : Prop where
  failed : s.phase = .notStarted → ∀ x ∈ past, FailsToStart x
  again : past.Pairwise fun x y => hooksOf y ≠ [] → FailsToStart x

theorem retried_perform (past : List (Turn Session Operation)) (s : Session) (t : Trail)
    (op : Operation) (h : Retried past s) :
    Retried (past ++ [⟨s, t, op⟩]) (s.perform t op).state := by
  obtain ⟨hfailed, hagain⟩ := h
  constructor
  case failed =>
    intro hphase x hx
    have hnew : s.phase = .notStarted := by
      have hforward := perform_forward s t op
      rw [hphase] at hforward
      cases hs : s.phase with
      | notStarted => rfl
      | started => rw [hs] at hforward; exact absurd rfl hforward
      | ended => rw [hs] at hforward; cases hforward
    rcases List.mem_append.mp hx with hx | hx
    · exact hfailed hnew x hx
    · obtain rfl := List.mem_singleton.mp hx
      rintro rfl
      cases hattempt : attemptFailure? s.packs t.calls with
      | some f => exact ⟨f, (start_of_attemptFailure hnew hattempt).1⟩
      | none =>
          have hstarted := (start_of_attempt hnew hattempt).2.1
          rw [perform, hstarted] at hphase
          cases hphase
  case again =>
    rw [List.pairwise_append]
    refine ⟨hagain, List.pairwise_singleton _ _, ?_⟩
    intro x hx y hy hhooks
    obtain rfl := List.mem_singleton.mp hy
    exact hfailed (attempt_of_hooksOf hhooks).2 x hx

/-- Over packs that are told apart by their labels, nobody starts twice in turns of which no two
start a pack, and only then. -/
theorem nodup_starts_iff {packs : List Pack} {xs : List (Turn Session Operation)}
    (hpacks : ∀ x ∈ xs, x.state.packs = packs) (hdistinct : (packs.map Pack.label).Nodup) :
    (xs.flatMap startsOf).Nodup ↔ xs.Pairwise fun x y => startsOf x = [] ∨ startsOf y = [] := by
  have hdisjoint : ∀ x ∈ xs, ∀ y ∈ xs,
      (List.Disjoint (startsOf x) (startsOf y) ↔ startsOf x = [] ∨ startsOf y = []) := by
    intro x hx y hy
    constructor
    · intro hapart
      by_contra hboth
      rw [not_or] at hboth
      obtain ⟨p, ps, hx', hp⟩ := oldest_of_startsOf hboth.1
      obtain ⟨q, qs, hy', hq⟩ := oldest_of_startsOf hboth.2
      have hsame : p :: ps = q :: qs := by rw [← hx', ← hy', hpacks x hx, hpacks y hy]
      obtain ⟨rfl, -⟩ := List.cons.inj hsame
      exact hapart hp hq
    · rintro (hnone | hnone)
      · rw [hnone]
        exact List.disjoint_nil_left _
      · rw [hnone]
        exact List.disjoint_nil_right _
  have heach : ∀ x ∈ xs, (startsOf x).Nodup := by
    intro x hx
    refine nodup_startsOf ?_
    rw [hpacks x hx]
    exact hdistinct
  rw [List.nodup_flatMap]
  constructor
  · rintro ⟨-, hapart⟩
    exact hapart.imp_of_mem fun hx hy h => (hdisjoint _ hx _ hy).mp h
  · intro hsingle
    exact ⟨heach, hsingle.imp_of_mem fun hx hy h => (hdisjoint _ hx _ hy).mpr h⟩

/-- The law of the starts of packs in a run on a session, that began at a trail. -/
structure Starts (packs : List Pack) (t₀ : Trail) (xs : List (Turn Session Operation))
    (s : Session) (t : Trail) : Prop where
  /-- A turn calls start hooks in the order of the packs, from the oldest one on. -/
  called : ∀ x ∈ xs, (hooksOf x).map StartHook.pack <+: packs
  /-- A turn that calls a start hook comes after attempts that failed. -/
  again : xs.Pairwise fun x y => hooksOf y ≠ [] → FailsToStart x
  /-- The packs that started, turn by turn. -/
  started : startedLabels (t.callsSince t₀) = xs.flatMap startsOf
  /-- Packs that are told apart start at most once each exactly if no two turns start a pack. -/
  once : (packs.map Pack.label).Nodup → ((startedLabels (t.callsSince t₀)).Nodup ↔
    xs.Pairwise fun x y => startsOf x = [] ∨ startsOf y = [])
  /-- Packs are asked to stop as often as they have started at most, the newest first. -/
  stopped : stoppedLabels (t.callsSince t₀) <+: (startedLabels (t.callsSince t₀)).reverse
  /-- Every start hook that is called contributes once. -/
  references : s.references = (xs.flatMap hooksOf).flatMap (StartHook.gives PackAction.reference?)
  namespaces : s.namespaces = (xs.flatMap hooksOf).flatMap (StartHook.gives PackAction.namespace?)
  /-- A start hook that completes contributes all that it asks for. -/
  whole : ∀ x ∈ xs, ∀ h ∈ hooksOf x, h.completes = true → ∀ select,
    h.gives select = (h.pack.onStart h.calls).filterMap select

/-- Over any packs, whose hooks fail or not at each call, every sequence of operations on a new
session obeys the law of starts. -/
theorem starts_law (packs : List Pack) (arguments : List String) (t : Trail)
    (ops : List Operation) :
    Starts packs t (turns perform (new packs arguments) t ops)
      (finish perform (new packs arguments) t ops).1
      (finish perform (new packs arguments) t ops).2 := by
  have hpacks : ∀ x ∈ turns perform (new packs arguments) t ops, x.state.packs = packs := by
    intro x hx
    obtain ⟨before, after, hcut⟩ := List.append_of_mem hx
    exact (past_invariant perform (P := Inv packs t) inv_perform
      (inv_new packs arguments t) hcut).same_packs
  have hinv := past_invariant_finish perform (P := Inv packs t) inv_perform
    (inv_new packs arguments t) ops
  have hhooked := past_invariant_finish perform (P := Hooked t) hooked_perform
    (s := new packs arguments) ⟨⟨[], .refl t, rfl⟩, rfl, rfl⟩ ops
  have hretried := past_invariant_finish perform (P := fun past s _ => Retried past s)
    retried_perform (s := new packs arguments) (t := t) ⟨nofun, .nil⟩ ops
  obtain ⟨⟨cs, hmade, hstarted⟩, hreferences, hnamespaces⟩ := hhooked
  have hcalls := hmade.callsSince
  constructor
  case called => exact fun x hx => hpacks x hx ▸ packs_hooksOf x
  case again => exact hretried.again
  case started => rw [hcalls, hstarted]
  case once =>
    intro hdistinct
    rw [hcalls, hstarted]
    exact nodup_starts_iff hpacks hdistinct
  case stopped =>
    obtain ⟨-, -, ds, hmade', hlive, hended⟩ := hinv
    rw [hmade'.callsSince]
    by_cases hphase : (finish perform (new packs arguments) t ops).1.phase = .ended
    · exact (hended hphase).2.1
    · rw [(hlive hphase).2]
      exact List.nil_prefix
  case references => exact hreferences
  case namespaces => exact hnamespaces
  case whole => exact fun _ _ h _ hcompletes => StartHook.gives_of_completes hcompletes

/-- Two packs, of which the older one starts and contributes and the newer one fails to start. -/
def failingPacks : List Pack :=
  [.steady ⟨"a", "a", "Pack"⟩ [.addReference "A.dll", .importNamespace "A"] none,
    .steady ⟨"boom", "boom", "Pack"⟩ [.fail (.raised ⟨"RuntimeError", "boom"⟩)] none]

/-- Two attempts at a session over the two packs start the older one twice.  It contributes twice,
and is asked to stop twice. -/
theorem started_twice_in_sample :
    let s := (finish perform (new failingPacks []) .empty [.start, .start, .stop]).1
    let t := (finish perform (new failingPacks []) .empty [.start, .start, .stop]).2
    (failingPacks.map Pack.label).Nodup ∧
      (startedLabels (t.callsSince .empty)).map PackLabel.name = ["a", "a"] ∧
      (stoppedLabels (t.callsSince .empty)).map PackLabel.name = ["a", "a"] ∧
      s.references = ["A.dll", "A.dll"] ∧ s.namespaces = ["A", "A"] ∧
      ¬ (turns perform (new failingPacks []) .empty [.start, .start, .stop]).Pairwise
        fun x y => startsOf x = [] ∨ startsOf y = [] := by
  have hlaw := starts_law failingPacks [] .empty [.start, .start, .stop]
  refine ⟨by decide, rfl, rfl, rfl, rfl, ?_⟩
  rw [← hlaw.once (by decide)]
  decide

end Session

end ScriptHost
