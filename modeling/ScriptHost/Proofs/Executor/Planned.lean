import Mathlib.Data.List.Nodup
import ScriptHost.Loose
import ScriptHost.Proofs.Command.Display
import ScriptHost.Proofs.Executor.Confinement
import ScriptHost.Proofs.Sequence.Occurrences
import ScriptHost.Proofs.Session.Contribution

/-!
# The namespaces that a plan lists

The engine that plans writes down the namespaces of the execution and those that the packs of the
session contributed.  A plan is shown with the first, and behind them with those of the second that
are not among the first.  Nothing is missing and the order is that of the first occurrences, but
only the first are without repetitions of themselves: a name that packs contribute twice, and that
is not open anyway, is listed twice and counted twice.  So every name is listed once exactly if the
packs contribute none twice, those that are open apart.

## Main results

* `Plan.listing_of_nodup` — how a plan lists its namespaces.
* `packNamespaces_of_grounded` — what a plan says of the packs is what these contributed.
* `plan_law` — the law of the plans of a whole run.
-/

namespace ScriptHost

open Sequence (distinct)

/-! ## Distinct names of a list -/

namespace Sequence

variable {κ : Type} [DecidableEq κ] {xs : List κ}

theorem distinct_sublist (xs : List κ) : (distinct xs).Sublist xs := by
  rw [distinct, distinctBy_eq_firsts]
  exact picked_sublist _ xs

/-- A list has as many items as distinct ones exactly if it has none twice. -/
theorem length_distinct_iff : xs.length = (distinct xs).length ↔ xs.Nodup := by
  constructor
  · intro h
    have hsame : distinct xs = xs := (distinct_sublist xs).eq_of_length h.symm
    rw [← hsame]
    exact distinct_nodup xs
  · intro h
    have hperm : (distinct xs).Perm xs := (List.perm_ext_iff_of_nodup (distinct_nodup xs) h).mpr
      fun _ => mem_distinct
    exact hperm.length_eq.symm

theorem distinct_eq_self_iff : distinct xs = xs ↔ xs.Nodup := by
  rw [← length_distinct_iff]
  constructor
  · intro h
    rw [h]
  · exact fun h => (distinct_sublist xs).eq_of_length h.symm

end Sequence

/-! ## How a plan lists its namespaces -/

namespace Plan

variable {p : Plan} {n : String}

theorem mem_allNamespaces : n ∈ p.allNamespaces ↔ n ∈ p.namespaces ∨ n ∈ p.packNamespaces := by
  rw [allNamespaces, List.mem_append, List.mem_filter]
  by_cases h : n ∈ p.namespaces
  · simp [h]
  · simp [h]

/-- Leaving out what is listed already changes nothing about the first occurrences. -/
theorem distinct_allNamespaces (p : Plan) :
    distinct p.allNamespaces = distinct (p.namespaces ++ p.packNamespaces) := by
  have hfilter : (p.packNamespaces.filter fun n => !p.namespaces.contains n) =
      p.packNamespaces.filter fun n => n ∉ p.namespaces :=
    List.filter_congr fun n _ => by simp
  -- Both sides come to the distinct names of the execution with the filtered ones behind them; on
  -- the left the filter is then there twice.
  rw [allNamespaces, hfilter, Sequence.distinct_append, List.filter_filter,
    Sequence.distinct_append]
  simp only [Bool.and_self]

/-- A name is listed once if it is one of the execution, and else as often as packs contribute
it. -/
theorem count_allNamespaces (h : p.namespaces.Nodup) (n : String) :
    p.allNamespaces.count n =
      if n ∈ p.namespaces then 1 else p.packNamespaces.count n := by
  rw [allNamespaces, List.count_append]
  by_cases hn : n ∈ p.namespaces
  · have hout : n ∉ p.packNamespaces.filter fun m => !p.namespaces.contains m := by
      simp [List.mem_filter, hn]
    rw [if_pos hn, List.count_eq_one_of_mem h hn, List.count_eq_zero.mpr hout]
  · rw [if_neg hn, List.count_eq_zero.mpr hn, Nat.zero_add]
    exact List.count_filter (by simpa using hn)

/-- Whether packs contribute no namespace twice, those of the execution apart. -/
def ContributedOnce (p : Plan) : Prop :=
  ∀ n, n ∉ p.namespaces → p.packNamespaces.count n ≤ 1

theorem nodup_allNamespaces_iff (h : p.namespaces.Nodup) :
    p.allNamespaces.Nodup ↔ p.ContributedOnce := by
  rw [List.nodup_iff_count_le_one]
  refine forall_congr' fun n => ?_
  rw [count_allNamespaces h]
  by_cases hn : n ∈ p.namespaces
  · simp [hn]
  · simp [hn]

/-- How a plan lists its namespaces. -/
structure Listing (p : Plan) : Prop where
  /-- The panel holds their number, and then one row for each, with its text. -/
  panel : ∀ block, p.panel = .ok block → ∃ front back,
    block = .panel "Execution plan" (front ++
      ("Namespaces (" ++ Number.natText p.allNamespaces.length ++ "):") ::
        p.allNamespaces.map (fun n => "  " ++ Console.asText n) ++ back)
  /-- Those of the execution are without repetitions. -/
  effective : p.namespaces.Nodup
  /-- Listed are those of the execution and those of the packs, and no others, -/
  members : ∀ n, n ∈ p.allNamespaces ↔ n ∈ p.namespaces ∨ n ∈ p.packNamespaces
  /-- in the order of their first occurrences. -/
  order : distinct p.allNamespaces = distinct (p.namespaces ++ p.packNamespaces)
  /-- Those of the execution are listed once, and others as often as packs contribute them. -/
  count : ∀ n, p.allNamespaces.count n =
    if n ∈ p.namespaces then 1 else p.packNamespaces.count n
  /-- So all of them are listed once exactly if packs contribute no other twice; -/
  once : p.allNamespaces.Nodup ↔ p.ContributedOnce
  /-- the list is then that of the first occurrences, and only then, -/
  firsts : p.allNamespaces = distinct (p.namespaces ++ p.packNamespaces) ↔ p.ContributedOnce
  /-- and their number that of the distinct names, and only then. -/
  number : p.allNamespaces.length = (distinct (p.namespaces ++ p.packNamespaces)).length ↔
    p.ContributedOnce

/-- A plan of an execution that opens no namespace twice lists them in this way. -/
theorem listing_of_nodup (h : p.namespaces.Nodup) : p.Listing := by
  constructor
  case panel =>
    intro block hblock
    rw [panel_eq] at hblock
    cases hplaced : p.placed.mapM Console.Placed.display with
    | error f =>
        rw [hplaced] at hblock
        cases hblock
    | ok rows =>
        rw [hplaced] at hblock
        cases hblock
        refine ⟨rows ++ Console.listed "References" p.allReferences,
          "" :: Console.codeRows p.code, ?_⟩
        rw [Plan.rows]
        simp only [Console.listed, List.append_assoc, List.cons_append]
        rfl
  case effective => exact h
  case members => exact fun n => mem_allNamespaces
  case order => exact p.distinct_allNamespaces
  case count => exact count_allNamespaces h
  case once => exact nodup_allNamespaces_iff h
  case firsts =>
    rw [← distinct_allNamespaces, eq_comm, Sequence.distinct_eq_self_iff]
    exact nodup_allNamespaces_iff h
  case number =>
    rw [← distinct_allNamespaces, Sequence.length_distinct_iff]
    exact nodup_allNamespaces_iff h

end Plan

/-! ## What is planned in a run -/

theorem submissions_eq (calls : List Call) : submissions calls = (received calls).reverse := by
  rw [submissions, received]
  refine congrArg List.reverse (List.filterMap_congr fun c _ => ?_)
  cases c with
  | execute s => rfl
  | _ => rfl

/-- The engine plans what it receives, behind what it has planned before. -/
theorem plans_of_made {cs : List Call} {t t' : Trail} (h : Trail.Made cs t t') :
    plans t'.calls = plans t.calls ++ (received cs).map Submission.plan := by
  have hcalls : t'.calls = cs.reverse ++ t.calls := h
  have hreverse : received cs.reverse = (received cs).reverse := List.filterMap_reverse
  rw [plans, plans, submissions_eq, submissions_eq, hcalls, received_append, hreverse,
    List.reverse_append, List.reverse_reverse, List.map_append]

namespace Executor

theorem engine_of_turn {e : Executor} {t : Trail} {ops : List Operation}
    {a b : List (Turn Executor Operation)} {x : Turn Executor Operation}
    (h : turns perform e t ops = a ++ x :: b) : x.state.engine = e.engine :=
  past_invariant perform (P := fun _ s _ => s.engine = e.engine)
    (fun _ s t op ih => (perform_collaborators s t op).2.2.2.trans ih) rfl h

/-- A turn plans what it submits. -/
theorem plans_perform (e : Executor) (t : Trail) (op : Operation) :
    plans (e.perform t op).trail.calls =
      plans t.calls ++ (submitted ⟨e, t, op⟩).map Submission.plan := by
  have hmade : ∃ cs, Trail.Made cs t (e.perform t op).trail := by
    cases hp : e.prepare t op with
    | none =>
        obtain ⟨cs, hmade, -⟩ := received_of_not_prepared hp
        exact ⟨cs, hmade⟩
    | some p =>
        obtain ⟨cs, hmade, -⟩ := received_of_prepared hp
        exact ⟨cs, hmade⟩
  obtain ⟨cs, hmade⟩ := hmade
  rw [plans_of_made hmade, submitted_of_made hmade]

/-- A run plans what its turns submit. -/
theorem plans_finish (e : Executor) (t : Trail) (ops : List Operation) :
    plans (finish perform e t ops).2.calls =
      plans t.calls ++ ((turns perform e t ops).flatMap submitted).map Submission.plan := by
  have hstep : ∀ (past : List (Turn Executor Operation)) (s : Executor) (u : Trail)
      (op : Operation),
      plans u.calls = plans t.calls ++ (past.flatMap submitted).map Submission.plan →
      plans (s.perform u op).trail.calls =
        plans t.calls ++ ((past ++ [(⟨s, u, op⟩ : Turn Executor Operation)]).flatMap
          submitted).map Submission.plan := by
    intro past s u op ih
    rw [plans_perform, ih, List.flatMap_append, List.map_append, List.append_assoc,
      List.flatMap_singleton]
  exact past_invariant_finish perform (P := fun past _ u =>
    plans u.calls = plans t.calls ++ (past.flatMap submitted).map Submission.plan)
    hstep (by simp) ops

/-- No namespace is opened twice in one execution. -/
theorem namespaces_of_submitted {y : Turn Executor Operation} {sub : Submission}
    (h : sub ∈ submitted y) : sub.namespaces.Nodup := by
  obtain ⟨p, c, -, -, -, rfl⟩ := composed_of_submitted h
  exact NamespaceSet.union_nodup _ _

/-- The namespaces that a live session has of its packs are those that they contributed when the
session was founded, pack by pack. -/
theorem packNamespaces_of_grounded {past : List (Turn Executor Operation)} {e : Executor}
    {t : Trail} {s : Session} {x : Turn Executor Operation} (h : Grounded past e t s x) :
    s.namespaces =
      Session.contributed PackAction.namespace? s.packs x.trail.calls := by
  obtain ⟨t₁, -, hmade, hanswer, hcleared, -⟩ := h.begun
  have hcalls : t₁.calls = x.trail.calls := hmade
  have hsame := congrArg (fun u : Session => u.namespaces) hcleared
  have hkept : s.namespaces = (s.unstarted.start t₁).state.namespaces := hsame
  cases hattempt : Session.attemptFailure? s.packs t₁.calls with
  | some f =>
      rw [(Session.start_of_attemptFailure (s := s.unstarted) rfl hattempt).1] at hanswer
      cases hanswer
  | none =>
      have hstart := (Session.start_contributes (s := s.unstarted) rfl hattempt).2
      rw [hkept, hstart, hcalls]
      exact List.nil_append _

/-- The law of the plans of a run of an executor whose engine plans. -/
structure PlanLaw (before : Trail) (run : List (Turn Executor Operation)) (after : Trail) :
    Prop where
  /-- The plans on record are those of everything that was submitted, in order. -/
  recorded : plans after.calls =
    plans before.calls ++ (run.flatMap submitted).map Submission.plan
  /-- Each of them is the answer of its turn, -/
  answered : ∀ y ∈ run, ∀ sub ∈ submitted y,
    (y.step perform).answer = .ok (some (.returning (.plan sub.plan)))
  /-- also if the engine checks that everything it is handed is text, as long as it is, -/
  checked : ∀ y ∈ run, ∀ sub ∈ submitted y, ∀ calls, Engine.dryRun.isTaken sub = true →
    Engine.dryRun.checked.run calls sub = .ok (.returning (.plan sub.plan))
  /-- and lists its namespaces in one way. -/
  listed : ∀ y ∈ run, ∀ sub ∈ submitted y, sub.plan.Listing
  /-- What it says of the packs is what these contributed when the session was founded, each as
  often as it asked for. -/
  contributed : ∀ past y rest, run = past ++ y :: rest → ∀ sub ∈ submitted y, ∃ x s paths,
    lastFounding past = some x ∧ x.operation = .start paths s.packs s.arguments ∧
      y.state.session = some s ∧
      sub.plan.packNamespaces =
        Session.contributed PackAction.namespace? s.packs x.trail.calls

/-- Over any packs and scripts, every run of a new executor whose engine plans obeys the law. -/
theorem plan_law {fs : Option FileSystem} {pp : PreProcessor} {file : String}
    {references namespaces : List String} {e : Executor}
    (hnew : new fs pp .dryRun file references namespaces = .ok e) (t : Trail)
    (ops : List Operation) :
    PlanLaw t (turns perform e t ops) (finish perform e t ops).2 := by
  constructor
  case recorded => exact plans_finish e t ops
  case answered =>
    intro y hy sub hsub
    obtain ⟨past, rest, hrun⟩ := List.append_of_mem hy
    obtain ⟨folder, -, he⟩ := new_eq hnew
    have hengine : y.state.engine = .dryRun := by
      rw [engine_of_turn hrun, he]
    obtain ⟨p, c, hp, hc, -, rfl⟩ := composed_of_submitted hsub
    have hanswer : (y.step perform).answer = _ := (perform_of_composed hp hc).1
    rw [hanswer, hengine]
    rfl
  case checked => exact fun _ _ _ _ _ => Engine.dryRun_checked
  case listed =>
    intro y _ sub hsub
    exact Plan.listing_of_nodup (namespaces_of_submitted hsub)
  case contributed =>
    intro past y rest hrun sub hsub
    obtain ⟨p, c, hp, hc, -, rfl⟩ := composed_of_submitted hsub
    obtain ⟨hsession, hphase⟩ := liveSession_eq_ok_iff.mp (prepare_cases hp).1
    have hsettled : Settled past y.state y.trail :=
      past_invariant perform (P := Settled) grounded_perform
        (settled_new (new_eq_ok hnew).1 t) hrun
    obtain ⟨x, hx⟩ := hsettled p.session hsession hphase
    obtain ⟨t₁, hbegun⟩ := hx.begun
    obtain ⟨paths, hoperation⟩ := hx.operation
    obtain ⟨-, -, -, -, -, hmarked⟩ := compose_frame hc
    have hplanned : (c.submission p.arguments).plan.packNamespaces = p.session.namespaces := by
      change c.session.namespaces = _
      rw [hmarked]
      rfl
    refine ⟨x, p.session, paths, hbegun.founding, hoperation, hsession, ?_⟩
    rw [hplanned]
    exact packNamespaces_of_grounded hx

/-- A pack that opens a namespace of its own and one that is open anyway. -/
def web (name : String) : Pack :=
  .steady ⟨name, name, "Pack"⟩
    [.importNamespace (some "Web.Api"), .importNamespace (some "System")] none

/-- A new executor whose engine plans, with one open namespace. -/
def webSample : Executor := { sample with namespaces := .ofDefaults ["System"] }

/-- A script that runs in a session of two such packs. -/
def webRun : List Operation :=
  [.start (.list []) [web "one", web "two"] [], .executeText "one();" []]

/-- The plan of the script lists the namespace of the packs twice and counts three. -/
theorem listed_twice_in_sample :
    new (some (sampleTable.fileSystem "table")) .passthrough .dryRun "lib.csx" [] ["System"] =
        .ok webSample ∧
      PlanLaw .empty (turns perform webSample .empty webRun)
        (finish perform webSample .empty webRun).2 ∧
      ∃ p, plans (finish perform webSample .empty webRun).2.calls = [p] ∧
        p.allNamespaces = ["System", "Web.Api", "Web.Api"] ∧ ¬ p.ContributedOnce ∧
        ¬ p.allNamespaces.Nodup ∧
        p.allNamespaces.length ≠ (distinct (p.namespaces ++ p.packNamespaces)).length := by
  have hnew : new (some (sampleTable.fileSystem "table")) .passthrough .dryRun "lib.csx" []
      ["System"] = .ok webSample := rfl
  have hlaw := plan_law hnew .empty webRun
  obtain ⟨p, hplans, hnamespaces, hpacks⟩ :
      ∃ p, plans (finish perform webSample .empty webRun).2.calls = [p] ∧
        p.namespaces = ["System"] ∧
        p.packNamespaces = ["Web.Api", "System", "Web.Api", "System"] := ⟨_, rfl, rfl, rfl⟩
  have hlisting : p.Listing := by
    have hrecorded := hlaw.recorded
    rw [hplans] at hrecorded
    have hp : p ∈ ((turns perform webSample .empty webRun).flatMap submitted).map
        Submission.plan := by
      have hempty : plans Trail.empty.calls = [] := rfl
      rw [hempty, List.nil_append] at hrecorded
      rw [← hrecorded]
      exact List.mem_singleton_self p
    obtain ⟨sub, hsub, rfl⟩ := List.mem_map.mp hp
    obtain ⟨y, hy, hsub⟩ := List.mem_flatMap.mp hsub
    exact hlaw.listed y hy sub hsub
  have htwice : ¬ p.ContributedOnce := by
    intro honce
    have hcount := honce "Web.Api" (by rw [hnamespaces]; decide)
    rw [hpacks] at hcount
    exact absurd hcount (by decide)
  refine ⟨hnew, hlaw, p, hplans, ?_, htwice, ?_, ?_⟩
  · rw [Plan.allNamespaces, hnamespaces, hpacks]
    decide
  · exact fun hnodup => htwice (hlisting.once.mp hnodup)
  · exact fun hnumber => htwice (hlisting.number.mp hnumber)

end Executor

end ScriptHost
