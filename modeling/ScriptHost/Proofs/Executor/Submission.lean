import ScriptHost.Proofs.Executor.Environment
import ScriptHost.Proofs.Executor.Injection

/-!
# What the engine receives

An execution that reaches the engine hands it one submission.  The reference paths in it are those
of the executor and, behind them, what the script declares and what the bundle declares if it is
spliced in, each new path at its first occurrence; these stay.  The namespaces are the persistent
ones and the declared ones without repetitions; what is declared is open in this execution only.
The arguments are those of the execution, whatever those of the session are.

So the reference paths only grow as long as nobody removes paths or resets the executor: neither a
failed execution nor the end of a session and the start of another takes one away or moves it.

## Main results

* `receives_of_composed` — the submission of one execution.
* `submissions_obey` — the law of a whole run.
-/

namespace ScriptHost

open Sequence (OrderedSet distinct distinctFrom)

namespace Executor

/-! ## Submissions -/

/-- What the engine receives in a turn. -/
def submitted (x : Turn Executor Operation) : List Submission :=
  received ((x.step perform).trail.callsSince x.trail)

theorem submitted_of_made {e : Executor} {t : Trail} {op : Operation} {cs : List Call}
    (h : Trail.Made cs t (e.perform t op).trail) : submitted ⟨e, t, op⟩ = received cs :=
  congrArg received h.callsSince

/-- Whether a turn answers what the engine does to a submission at the end of the journal. -/
def Answered (x : Turn Executor Operation) (submission : Submission) : Prop :=
  (x.step perform).answer =
    (x.state.engine.run (x.step perform).trail.calls.tail submission).map some

/-- A composed execution hands one submission to the engine, and answers what the engine does. -/
theorem submitted_of_composed {e : Executor} {t : Trail} {op : Operation} {p : Prepared}
    {c : Composed} (hp : e.prepare t op = some p) (hc : e.compose p = .ok c) :
    submitted ⟨e, t, op⟩ = [c.submission p.arguments] ∧
      Answered ⟨e, t, op⟩ (c.submission p.arguments) := by
  obtain ⟨cs, hmade, hcs⟩ := received_of_prepared hp
  obtain ⟨hanswer, -, htrail⟩ := perform_of_composed hp hc
  constructor
  · rw [submitted_of_made hmade, hcs, hc]
  · have htail : (e.perform t op).trail.calls.tail =
        (e.searchCalls p).reverse ++ p.trail.calls := by
      rw [htrail, List.reverse_append]
      rfl
    rw [← htail] at hanswer
    exact hanswer

/-- An execution that reaches the engine was prepared and composed, and hands over one
submission. -/
theorem composed_of_submitted {x : Turn Executor Operation} {sub : Submission}
    (h : sub ∈ submitted x) :
    ∃ p c, x.state.prepare x.trail x.operation = some p ∧ x.state.compose p = .ok c ∧
      submitted x = [c.submission p.arguments] ∧ sub = c.submission p.arguments := by
  obtain ⟨e, t, op⟩ := x
  cases hp : e.prepare t op with
  | none =>
      obtain ⟨cs, hmade, hcs⟩ := received_of_not_prepared hp
      rw [submitted_of_made hmade, hcs] at h
      cases h
  | some p =>
      cases hc : e.compose p with
      | error f =>
          obtain ⟨cs, hmade, hcs⟩ := received_of_prepared hp
          rw [submitted_of_made hmade, hcs, hc] at h
          cases h
      | ok c =>
          obtain ⟨hall, -⟩ := submitted_of_composed hp hc
          rw [hall] at h
          exact ⟨p, c, rfl, hc, hall, List.mem_singleton.mp h⟩

/-- The bundle that a prepared execution splices in, if it is due and there is one. -/
def bundle? (e : Executor) (p : Prepared) : Option Handout :=
  if p.session.injected then none
  else
    match e.lookup p with
    | .ok found => found
    | .error _ => none

/-- What a prepared execution declares: what the script does, then what the bundle does if it is
spliced in. -/
def declared (e : Executor) (p : Prepared) (list : Preprocessed → List String) : List String :=
  list p.script.content ++ (e.bundle? p).elim [] fun bundle => list bundle.content

/-- If results are new at each call, the composed script declares what script and bundle do, and the
pre-processor keeps nothing. -/
theorem declared_of_fresh {e : Executor} {t : Trail} {op : Operation} {p : Prepared} {c : Composed}
    (hfresh : e.preProcessor.Fresh) (hp : e.prepare t op = some p) (hc : e.compose p = .ok c) :
    c.script.references = e.declared p Preprocessed.references ∧
      c.script.namespaces = e.declared p Preprocessed.namespaces ∧
      c.executor.toSources = e.toSources := by
  have hscript := fresh_of_prepared hfresh hp
  have hreceive : e.toSources.receive p.script = (p.script, e.toSources) := by
    rw [Sources.receive, Pool.receive_fresh hscript]
  have hready : (e.ready p).toSources = e.toSources := congrArg Prod.snd hreceive
  unfold declared bundle?
  cases hinjected : p.session.injected with
  | true =>
      rw [compose_of_injected hinjected, hreceive] at hc
      cases hc
      simp [hready]
  | false =>
      cases hfound : e.lookup p with
      | error f =>
          rw [compose_of_lookup_error hinjected hfound] at hc
          cases hc
      | ok found =>
          cases found with
          | none =>
              rw [compose_of_no_bundle hinjected hfound, hreceive] at hc
              cases hc
              simp [hready]
          | some answer =>
              have hanswer := fresh_of_lookup hfresh hfound
              rw [compose_of_bundle hinjected hfound, hreceive] at hc
              cases hc
              simp only [Sources.receive, Sources.revise, Pool.receive_fresh hanswer, Pool.revise,
                hscript, Preprocessed.withLibrary, hready]
              exact ⟨rfl, rfl, trivial⟩

/-- The arguments of an execution. -/
def Operation.arguments : Operation → List String
  | .execute _ arguments | .executeText _ arguments => arguments
  | _ => []

theorem arguments_of_prepared {e : Executor} {t : Trail} {op : Operation} {p : Prepared}
    (h : e.prepare t op = some p) : p.arguments = op.arguments := by
  rcases (prepare_cases h).2 with ⟨script, path, rfl, -⟩ | ⟨text, rfl, -⟩
  · rfl
  · rfl

/-- What a prepared execution hands to the engine, and what it leaves in the environment. -/
structure Receives (x : Turn Executor Operation) (p : Prepared) (sub : Submission) : Prop where
  /-- Behind the paths that were there stand the first occurrences of those declared. -/
  paths : sub.paths = x.state.references.paths.toList ++
    distinctFrom id x.state.references.paths.toList
      (x.state.declared p Preprocessed.references)
  /-- The paths stay. -/
  paths_stay : (x.step perform).state.references.paths.toList = sub.paths
  modules : sub.modules = x.state.references.modules.toList
  modules_stay : (x.step perform).state.references.modules = x.state.references.modules
  namespaces : sub.namespaces =
    distinct (x.state.namespaces.names ++ x.state.declared p Preprocessed.namespaces)
  /-- What is declared is not added to the persistent namespaces. -/
  names_stay : (x.step perform).state.namespaces = x.state.namespaces
  /-- The arguments are those of the execution. -/
  arguments : sub.arguments = x.operation.arguments

theorem receives_of_composed {x : Turn Executor Operation} {p : Prepared} {c : Composed}
    (hfresh : x.state.preProcessor.Fresh) (hp : x.state.prepare x.trail x.operation = some p)
    (hc : x.state.compose p = .ok c) : Receives x p (c.submission p.arguments) := by
  obtain ⟨hreferences, hnamespaces, -⟩ := declared_of_fresh hfresh hp hc
  obtain ⟨pool, hexecutor, -⟩ := compose_executor hc
  have hstate : (x.step perform).state = c.merged := (perform_of_composed hp hc).2.1
  have hpaths : c.merged.references.paths.toList = x.state.references.paths.toList ++
      distinctFrom id x.state.references.paths.toList
        (x.state.declared p Preprocessed.references) := by
    rw [← hreferences, ← OrderedSet.toList_insertAll, Composed.merged, hexecutor]
    rfl
  constructor
  case paths => exact hpaths
  case paths_stay =>
    rw [hstate]
    rfl
  case modules =>
    rw [Composed.submission, Composed.merged, hexecutor]
    rfl
  case modules_stay =>
    rw [hstate, Composed.merged, hexecutor]
    rfl
  case namespaces =>
    rw [← hnamespaces, Composed.submission, Composed.merged, hexecutor]
    rfl
  case names_stay =>
    rw [hstate, Composed.merged, hexecutor]
    rfl
  case arguments => exact arguments_of_prepared hp

/-! ## The law of a run -/

/-- The law of everything that the engine receives in a run. -/
structure SubmissionLaw (run : List (Turn Executor Operation)) : Prop where
  /-- An execution that reaches the engine hands over one submission. -/
  each : ∀ x ∈ run, ∀ sub ∈ submitted x, ∃ p,
    x.state.prepare x.trail x.operation = some p ∧ submitted x = [sub] ∧ Receives x p sub
  /-- While nobody removes paths or resets the executor, the paths of an earlier submission stand
  in front of those of every later one, whatever happens in between. -/
  paths_grow : ∀ a x b y c, run = a ++ x :: (b ++ y :: c) →
    (∀ z ∈ b, z.operation.dropsPaths = false) →
    ∀ sub ∈ submitted x, ∀ sub' ∈ submitted y, sub.paths <+: sub'.paths
  /-- While nobody changes the persistent namespaces, a later submission has those of an earlier
  moment and what its own execution declares, and nothing that others declared in between. -/
  names_own : ∀ a x b y c, run = a ++ x :: (b ++ y :: c) →
    (∀ z ∈ x :: b, z.operation.changesNames = false) → ∀ sub ∈ submitted y, ∃ p,
      y.state.prepare y.trail y.operation = some p ∧
        sub.namespaces =
          distinct (x.state.namespaces.names ++ y.state.declared p Preprocessed.namespaces)

/-- Over a whole run of a new executor whose pre-processor makes a new result at each call, what
the engine receives obeys the law. -/
theorem submissions_obey {fs : Option FileSystem} {pp : PreProcessor} {engine : Engine}
    {file : String} {references namespaces : List String} {e : Executor}
    (hnew : new fs pp engine file references namespaces = .ok e) (hfresh : pp.Fresh)
    (t : Trail) (ops : List Operation) : SubmissionLaw (turns perform e t ops) := by
  have hreceives : ∀ {a x b}, turns perform e t ops = a ++ x :: b → ∀ sub ∈ submitted x, ∃ p,
      x.state.prepare x.trail x.operation = some p ∧ submitted x = [sub] ∧
        Receives x p sub := by
    intro a x b hx sub hsub
    obtain ⟨p, c, hp, hc, hall, rfl⟩ := composed_of_submitted hsub
    have hfresh' : x.state.preProcessor.Fresh := by
      rw [preProcessor_of_turn hx, (new_eq_ok hnew).2.2]
      exact hfresh
    exact ⟨p, hp, hall, receives_of_composed hfresh' hp hc⟩
  constructor
  case each =>
    intro x hx
    obtain ⟨a, b, hcut⟩ := List.append_of_mem hx
    exact hreceives hcut
  case paths_grow =>
    intro a x b y c hrun hkeep sub hsub sub' hsub'
    obtain ⟨_, -, -, hx⟩ := hreceives hrun sub hsub
    have hrun' : turns perform e t ops = (a ++ x :: b) ++ y :: c := by
      rw [hrun, List.append_assoc, List.cons_append]
    obtain ⟨_, -, -, hy⟩ := hreceives hrun' sub' hsub'
    obtain ⟨_, rest, -, -, -, hrest⟩ := turns_eq_append_cons perform hrun
    have hgrow : (x.step perform).state.references.paths.toList <+:
        y.state.references.paths.toList :=
      related_of_turns perform
        (R := fun g g' => g.references.paths.toList <+: g'.references.paths.toList)
        (fun _ => List.prefix_refl _) (fun h h' => h.trans h') hrest.symm
        (fun z hz => perform_paths z.state z.trail (hkeep z hz))
    rw [← hx.paths_stay, hy.paths]
    exact hgrow.trans (List.prefix_append _ _)
  case names_own =>
    intro a x b y c hrun hkeep sub hsub
    have hrun' : turns perform e t ops = (a ++ x :: b) ++ y :: c := by
      rw [hrun, List.append_assoc, List.cons_append]
    obtain ⟨p, hp, -, hy⟩ := hreceives hrun' sub hsub
    obtain ⟨_, rest, -, -, -, hrest⟩ := turns_eq_append_cons perform hrun
    have hlater : y.state.namespaces = (x.step perform).state.namespaces :=
      related_of_turns perform (R := fun g g' => g'.namespaces = g.namespaces)
        (fun _ => rfl) (fun h h' => h'.trans h) hrest.symm
        (fun z hz => perform_names z.state z.trail (hkeep z (List.mem_cons_of_mem x hz)))
    have hnames : y.state.namespaces = x.state.namespaces :=
      hlater.trans (perform_names x.state x.trail (hkeep x List.mem_cons_self))
    refine ⟨p, hp, ?_⟩
    rw [hy.namespaces, hnames]

/-- A pre-processor for scripts that declare a library and a namespace of their own name. -/
def declaring : PreProcessor where
  kind := "DeclaringPreProcessor"
  ofFile _ _ _ := .ok ⟨⟨"lib();", ["Lib.dll", "One.dll"], ["Lib"], []⟩, none⟩
  ofText _ text := .ok ⟨⟨text, [text ++ ".dll"], [text], []⟩, none⟩

/-- A new executor over the sample folder whose scripts declare something. -/
def declaringSample : Executor :=
  { sample with
    preProcessor := declaring
    references := .ofDefaults ["System"]
    namespaces := .ofDefaults ["System"] }

/-- Two executions in one session and one in the next. -/
def declaringRun : List Operation :=
  [.start (.list ["Base.dll"]) [] ["--session"], .executeText "One" ["a"],
    .executeText "Two" [], .stop, .start (.list []) [] [], .executeText "One" []]

/-- In the sample run the engine receives more and more paths, across the end of a session, and
only the namespaces of each script. -/
theorem submissions_of_sample :
    new (some (sampleTable.fileSystem "table")) declaring .dryRun "lib.csx" ["System"] ["System"] =
        .ok declaringSample ∧
      declaring.Fresh ∧
      ((turns perform declaringSample .empty declaringRun).flatMap submitted).map
          Submission.paths =
        [["System", "Base.dll", "One.dll", "Lib.dll"],
          ["System", "Base.dll", "One.dll", "Lib.dll", "Two.dll"],
          ["System", "Base.dll", "One.dll", "Lib.dll", "Two.dll"]] ∧
      ((turns perform declaringSample .empty declaringRun).flatMap submitted).map
          Submission.namespaces =
        [["System", "One", "Lib"], ["System", "Two"], ["System", "One", "Lib"]] ∧
      ((turns perform declaringSample .empty declaringRun).flatMap submitted).map
          Submission.arguments = [["a"], [], []] ∧
      SubmissionLaw (turns perform declaringSample .empty declaringRun) := by
  have hnew : new (some (sampleTable.fileSystem "table")) declaring .dryRun "lib.csx" ["System"]
      ["System"] = .ok declaringSample := rfl
  have hfresh : declaring.Fresh := by
    constructor
    · intro fs calls path h hanswer
      cases hanswer
      rfl
    · intro calls text h hanswer
      cases hanswer
      rfl
  exact ⟨hnew, hfresh, rfl, rfl, rfl, submissions_obey hnew hfresh .empty declaringRun⟩

end Executor

end ScriptHost
