import ScriptHost.Proofs.Executor.Epoch

/-!
# The bundle reaches the engine once per epoch

If the pre-processor makes a new result at each call, the code of a script and the code of the
bundle are what it has just answered.  In this reading the engine receives the bundle with the
first script of an epoch that finds out about it, and with no other script.

## Main results

* `codes_of_fresh` — the code that an execution hands to the engine.
* `bundle_once_per_epoch` — the law of a whole run.
-/

namespace ScriptHost

/-- A pre-processor that makes a new result at each call. -/
structure PreProcessor.Fresh (pp : PreProcessor) : Prop where
  ofFile : ∀ fs calls path h, pp.ofFile fs calls path = .ok h → h.keptAs = none
  ofText : ∀ calls text h, pp.ofText calls text = .ok h → h.keptAs = none

/-- The pre-processor that hands source over unchanged makes a new result at each call. -/
theorem PreProcessor.passthrough_fresh : PreProcessor.passthrough.Fresh := by
  constructor
  · intro fs calls path h hanswer
    simp only [passthrough] at hanswer
    split at hanswer
    · cases hanswer
    · cases hanswer
      rfl
  · intro calls text h hanswer
    cases hanswer
    rfl

namespace Executor

/-! ## New results -/

/-- The reading in which results have the code with which they are answered. -/
def Reading.answered : Reading where
  script _ script := script.content.code
  bundle _ _ bundle := bundle.content.code

theorem fresh_of_prepared {e : Executor} {t : Trail} {op : Operation} {p : Prepared}
    (hfresh : e.preProcessor.Fresh) (h : e.prepare t op = some p) : p.script.keptAs = none := by
  rcases (prepare_cases h).2 with ⟨script, path, -, -, hanswer, -⟩ | ⟨text, -, hanswer, -⟩
  · exact hfresh.ofFile _ _ _ _ hanswer
  · exact hfresh.ofText _ _ _ hanswer

theorem fresh_of_lookup {e : Executor} {p : Prepared} {answer : Handout}
    (hfresh : e.preProcessor.Fresh) (h : e.lookup p = .ok (some answer)) :
    answer.keptAs = none := by
  unfold lookup Sources.lookup at h
  split at h
  · cases h
  · split at h
    · cases h
    · cases h
    · split at h
      · cases h
      · next library hlibrary =>
        cases h
        exact hfresh.ofFile _ _ _ _ hlibrary

/-- With new results at each call, the engine receives the script's own code, with the bundle in
front of it if that was due and is there; if looking for it fails, the engine is not called. -/
theorem codes_of_fresh {x : Turn Executor Operation} {p : Prepared}
    (hfresh : x.state.preProcessor.Fresh)
    (h : x.state.prepare x.trail x.operation = some p)
    (past : List (Turn Executor Operation)) :
    codes x =
      if p.session.injected = true then [Reading.answered.script past p.script]
      else Reading.answered.due past x p := by
  have hscript := fresh_of_prepared hfresh h
  have hreceive : x.state.toSources.receive p.script = (p.script, x.state.toSources) := by
    rw [Sources.receive, Pool.receive_fresh hscript]
  rw [codes_of_prepared h, hreceive, Reading.due]
  cases hfound : x.state.lookup p with
  | error f => rfl
  | ok found =>
      cases found with
      | none => rfl
      | some answer =>
          have hanswer := fresh_of_lookup hfresh hfound
          simp only [codesDue, Sources.receive, Pool.receive_fresh hanswer]
          rfl

/-! ## The law of a run -/

/-- The pre-processor of a run is the same in every turn. -/
theorem preProcessor_of_turn {e : Executor} {t : Trail} {ops : List Operation}
    {a b : List (Turn Executor Operation)} {x : Turn Executor Operation}
    (h : turns perform e t ops = a ++ x :: b) : x.state.preProcessor = e.preProcessor :=
  past_invariant perform (P := fun _ s _ => s.preProcessor = e.preProcessor)
    (fun _ s t op ih => (perform_collaborators s t op).1.trans ih) rfl h

/-- Over a whole run of a new executor whose pre-processor makes a new result at each call, the
engine receives the bundle at most once per epoch. -/
theorem bundle_once_per_epoch {fs : Option FileSystem} {pp : PreProcessor} {engine : Engine}
    {file : String} {references namespaces : List String} {e : Executor}
    (hnew : new fs pp engine file references namespaces = .ok e) (hfresh : pp.Fresh)
    (t : Trail) (ops : List Operation) : BundleLaw .answered (turns perform e t ops) := by
  obtain ⟨hnone, -, hpp⟩ := new_eq_ok hnew
  apply bundleLaw_of_codes hnone
  intro a x b p hx hp
  have hfresh' : x.state.preProcessor.Fresh := by
    rw [preProcessor_of_turn hx, hpp]
    exact hfresh
  exact codes_of_fresh hfresh' hp a

/-- Two executions in one epoch and one in the next. -/
def sampleRun : List Operation :=
  [.start (.list []) [] [], .executeText "one();" [], .executeText "two();" [], .reset,
    .executeText "three();" []]

/-- In the run over the sample folder the first execution of each epoch has the bundle, and the
first epoch obeys the law. -/
theorem bundle_once_in_sample :
    new (some (sampleTable.fileSystem "table")) .passthrough .dryRun "lib.csx" [] [] = .ok sample ∧
      PreProcessor.passthrough.Fresh ∧
      (turns perform sample .empty sampleRun).map codes =
        [[], ["lib();\none();"], ["two();"], [], ["lib();\nthree();"]] ∧
      BundleOnce .answered ((turns perform sample .empty sampleRun).take 1)
        (((turns perform sample .empty sampleRun).drop 1).take 2) := by
  have hnew : new (some (sampleTable.fileSystem "table")) .passthrough .dryRun "lib.csx" [] [] =
      .ok sample := rfl
  refine ⟨hnew, PreProcessor.passthrough_fresh, rfl, ?_⟩
  have hlaw := bundle_once_per_epoch hnew PreProcessor.passthrough_fresh .empty sampleRun
  have hcut : turns perform sample .empty sampleRun =
      [] ++ ⟨sample, .empty, .start (.list []) [] []⟩ ::
        (((turns perform sample .empty sampleRun).drop 1).take 2 ++
          (turns perform sample .empty sampleRun).drop 3) := rfl
  refine hlaw.epoch _ _ _ _ hcut ⟨_, rfl⟩ ?_
  intro y hy
  simp only [sampleRun, turns, List.drop_succ_cons, List.drop_zero, List.take_succ_cons,
    List.take_zero, List.mem_cons, List.not_mem_nil, or_false] at hy
  rcases hy with rfl | rfl
  · exact id
  · exact id

end Executor

end ScriptHost
