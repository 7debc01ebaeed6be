import Mathlib.Data.List.TakeWhile
import ScriptHost.Proofs.Session.Hooks

/-!
# What packs contribute

The references and the namespaces that the packs of a session contribute, as functions of the packs
and of the calls made before: those that its start hook asks for, pack by pack in the order of the
session, each as often as it is asked for.  A start hook that fails has contributed what it asked
for before it did.

## Main results

* `performAll_done` — what the actions of one pack contribute.
* `startPacks_hooks` — what the start hooks of a row contribute, up to the first that fails.
* `start_contributes` — a session that starts shows the contributions of all its packs.
-/

namespace ScriptHost

/-- The reference that an action contributes, if it contributes one. -/
def PackAction.reference? : PackAction → Option String
  | .addReference reference => reference
  | _ => none

/-- The namespace that an action contributes, if it contributes one. -/
def PackAction.namespace? : PackAction → Option String
  | .importNamespace name => name
  | _ => none

namespace SessionView

/-- An action that is done contributes what it names, behind what is there. -/
theorem perform_contributes {v w : SessionView} {a : PackAction} (h : v.perform a = .ok w) :
    w.references = v.references ++ a.reference?.toList ∧
      w.namespaces = v.namespaces ++ a.namespace?.toList := by
  cases a with
  | addReference r =>
      cases r with
      | none => cases h
      | some r =>
          cases h
          exact ⟨rfl, (List.append_nil _).symm⟩
  | importNamespace n =>
      cases n with
      | none => cases h
      | some n =>
          cases h
          exact ⟨(List.append_nil _).symm, rfl⟩
  | put key value =>
      cases h
      exact ⟨(List.append_nil _).symm, (List.append_nil _).symm⟩
  | putArguments key =>
      cases h
      exact ⟨(List.append_nil _).symm, (List.append_nil _).symm⟩
  | fail f => cases h

/-- The actions of a list that are done: those before the first that fails. -/
def done (as : List PackAction) : List PackAction := as.takeWhile fun a => a.failure?.isNone

/-- If no action fails, all are done. -/
theorem done_eq_self {as : List PackAction} (h : as.findSome? PackAction.failure? = none) :
    done as = as := by
  rw [done, List.takeWhile_eq_self_iff]
  intro a ha
  rw [List.findSome?_eq_none_iff.mp h a ha]
  rfl

/-- Actions contribute what those of them that are done name, in their order. -/
theorem performAll_done (v : SessionView) (as : List PackAction) :
    (v.performAll as).1.references =
        v.references ++ (done as).filterMap PackAction.reference? ∧
      (v.performAll as).1.namespaces =
        v.namespaces ++ (done as).filterMap PackAction.namespace? := by
  induction as generalizing v with
  | nil => exact ⟨(List.append_nil _).symm, (List.append_nil _).symm⟩
  | cons a as ih =>
      cases ha : a.failure? with
      | some f =>
          have hdone : done (a :: as) = [] := by simp [done, ha]
          rw [performAll, perform_of_failure ha, hdone]
          exact ⟨(List.append_nil _).symm, (List.append_nil _).symm⟩
      | none =>
          have hdone : done (a :: as) = a :: done as := by simp [done, ha]
          obtain ⟨u, hu, -⟩ := perform_of_no_failure (v := v) ha
          obtain ⟨hreferences, hnamespaces⟩ := perform_contributes hu
          obtain ⟨hrest, hrest'⟩ := ih u
          rw [performAll, hu, hdone]
          simp only [hrest, hrest', hreferences, hnamespaces, List.append_assoc,
            List.filterMap_cons]
          constructor
          · cases a.reference? <;> rfl
          · cases a.namespace? <;> rfl

end SessionView

/-! ## Start hooks -/

/-- A start hook that is called, with the calls that were made before it. -/
structure StartHook where
  pack : Pack
  calls : List Call

namespace StartHook

/-- Whether a start hook completes. -/
def completes (h : StartHook) : Bool := (h.pack.startFailure? h.calls).isNone

/-- What a start hook contributes, of the kind that is selected. -/
def gives (select : PackAction → Option String) (h : StartHook) : List String :=
  (SessionView.done (h.pack.onStart h.calls)).filterMap select

/-- A start hook that completes contributes all that it asks for, each as often as it does. -/
theorem gives_of_completes {h : StartHook} (hcompletes : h.completes = true)
    (select : PackAction → Option String) :
    h.gives select = (h.pack.onStart h.calls).filterMap select := by
  rw [gives, SessionView.done_eq_self (Option.isNone_iff_eq_none.mp hcompletes)]

end StartHook

namespace Session

/-- The start hooks that are called when packs are started in order: up to the first that fails. -/
def startHooks : List Pack → List Call → List StartHook
  | [], _ => []
  | p :: ps, calls =>
    ⟨p, calls⟩ :: match p.startFailure? calls with
      | some _ => []
      | none => startHooks ps (p.startCalls.reverse ++ calls)

/-- Start hooks are called in the order of the packs, each at most once. -/
theorem packs_startHooks (ps : List Pack) (calls : List Call) :
    (startHooks ps calls).map StartHook.pack <+: ps := by
  induction ps generalizing calls with
  | nil => exact List.prefix_refl _
  | cons p ps ih =>
      rw [startHooks, List.map_cons]
      refine List.cons_prefix_cons.mpr ⟨rfl, ?_⟩
      cases p.startFailure? calls with
      | some f => exact List.nil_prefix
      | none => exact ih _

/-- The packs whose start hooks complete are recorded, and every start hook that is called
contributes what it does. -/
theorem startPacks_hooks (ps : List Pack) (s : Session) (t : Trail) :
    (startPacks ps s t).state.started = s.started ++
        ((startHooks ps t.calls).filter StartHook.completes).map StartHook.pack ∧
      (startPacks ps s t).state.references = s.references ++
        (startHooks ps t.calls).flatMap (StartHook.gives PackAction.reference?) ∧
      (startPacks ps s t).state.namespaces = s.namespaces ++
        (startHooks ps t.calls).flatMap (StartHook.gives PackAction.namespace?) := by
  induction ps generalizing s t with
  | nil =>
      exact ⟨(List.append_nil _).symm, (List.append_nil _).symm, (List.append_nil _).symm⟩
  | cons p ps ih =>
      obtain ⟨w, hw, -⟩ := s.toSessionView.performAll_spec (p.onStart t.calls)
      have hdone := s.toSessionView.performAll_done (p.onStart t.calls)
      rw [hw] at hdone
      cases hp : p.startFailure? t.calls with
      | some f =>
          have hstops : StartHook.completes ⟨p, t.calls⟩ = false := by
            simp [StartHook.completes, hp]
          rw [Pack.startFailure?] at hp
          rw [hp] at hw
          simp only [startPacks, Trail.calls_log, hw, startHooks, Pack.startFailure?, hp]
          simpa [Step.error, withView, StartHook.gives, hstops] using hdone
      | none =>
          have hcompletes : StartHook.completes ⟨p, t.calls⟩ = true := by
            simp [StartHook.completes, hp]
          obtain ⟨hstarted, hreferences, hnamespaces⟩ :=
            ih { s.withView w with started := s.started ++ [p] }
              ((startTrail p t).call (.startedPack p.label))
          rw [Pack.startFailure?] at hp
          rw [hp] at hw
          simp only [startPacks, Trail.calls_log, hw, startHooks, Pack.startFailure?, hp,
            List.filter_cons, hcompletes, if_true, List.map_cons, List.flatMap_cons]
          refine ⟨hstarted.trans ?_, hreferences.trans ?_, hnamespaces.trans ?_⟩
          · exact List.append_assoc _ _ _
          · exact (congrArg (· ++ _) hdone.1).trans (List.append_assoc _ _ _)
          · exact (congrArg (· ++ _) hdone.2).trans (List.append_assoc _ _ _)

/-! ## Packs that all start -/

/-- What the packs of a list contribute when they are started in order, of the kind that is
selected: every hook sees the calls that were made before it. -/
def contributed (select : PackAction → Option String) : List Pack → List Call → List String
  | [], _ => []
  | p :: ps, calls =>
    (p.onStart calls).filterMap select ++ contributed select ps (p.startCalls.reverse ++ calls)

/-- The references that packs contribute to a session in which nothing was called before. -/
def packReferences (ps : List Pack) : List String := contributed PackAction.reference? ps []

/-- The namespaces that packs contribute to a session in which nothing was called before. -/
def packNamespaces (ps : List Pack) : List String := contributed PackAction.namespace? ps []

/-- If all packs start, all their start hooks are called. -/
theorem flatMap_gives_of_no_failure (select : PackAction → Option String) {ps : List Pack}
    {calls : List Call} (h : startFailure? ps calls = none) :
    (startHooks ps calls).flatMap (StartHook.gives select) = contributed select ps calls := by
  induction ps generalizing calls with
  | nil => rfl
  | cons p ps ih =>
      obtain ⟨hp, hps⟩ := startFailure?_cons_eq_none h
      have hcompletes : StartHook.completes ⟨p, calls⟩ = true := by
        simp [StartHook.completes, hp]
      rw [startHooks, hp, List.flatMap_cons, StartHook.gives_of_completes hcompletes, contributed]
      exact congrArg _ (ih hps)

/-- Packs that all start contribute in their order. -/
theorem startPacks_contributes {ps : List Pack} {t : Trail} (h : startFailure? ps t.calls = none)
    (s : Session) :
    (startPacks ps s t).state.references =
        s.references ++ contributed PackAction.reference? ps t.calls ∧
      (startPacks ps s t).state.namespaces =
        s.namespaces ++ contributed PackAction.namespace? ps t.calls := by
  rw [← flatMap_gives_of_no_failure _ h, ← flatMap_gives_of_no_failure _ h]
  exact (startPacks_hooks ps s t).2

/-- A session that starts shows the contributions of its packs, in the order of the packs. -/
theorem start_contributes {s : Session} {t : Trail} (hphase : s.phase = .notStarted)
    (h : attemptFailure? s.packs t.calls = none) :
    (s.start t).state.references =
        s.references ++ contributed PackAction.reference? s.packs t.calls ∧
      (s.start t).state.namespaces =
        s.namespaces ++ contributed PackAction.namespace? s.packs t.calls := by
  obtain ⟨hstart, hcontext⟩ := attemptFailure?_eq_none h
  obtain ⟨hbegun, -, hmade⟩ := startPacks_of_no_failure hstart s
  have hcontributes := startPacks_contributes hstart s
  rw [← hmade] at hcontext
  obtain ⟨hasked, -⟩ := askContexts_of_no_failure hcontext
  simp only [start, hphase, hbegun, hasked]
  exact hcontributes

end Session

end ScriptHost
