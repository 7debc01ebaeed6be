import ScriptHost.Proofs.Command.Defaults

/-!
# The plan of a command

An execution that goes well returns the plan that its configuration, its command line, its packs and
the disk lead to, and it goes well if nobody on the way fails.  What is shown as the default
references of a configuration is how a person reads, as markup, the references with which every such
plan begins: references without markup are shown as they are, a reference with a tag in it is not.

## Main results

* `plan_of_conduct`, `conduct_of_plan` — the plan of an execution that goes well, and when it does.
* `run_plans` — the law of a configuration that uses the defaults.
-/

namespace ScriptHost

namespace Command

open Console (shown)

/-! ## Stretches that go well -/

theorem task_of_andThen {α β : Type} {c : Course α} {next : α → Trail → Course β} {b : β}
    (h : (c.andThen next).task = .ok b) :
    ∃ a, c.task = .ok a ∧ (next a c.trail).task = .ok b := by
  cases htask : c.task with
  | error o =>
      rw [Course.andThen, htask] at h
      cases h
  | ok a =>
      rw [(andThen_of_ok htask next).1] at h
      exact ⟨a, rfl, h⟩

/-- What an operation answers well it would answer without a log. -/
theorem answer_of_listen {σ α : Type} {w : Surroundings} {d : Desktop} {t : Trail} {s : Step σ α}
    {a : α} (h : (d.listen w t s).answer = .ok a) : s.answer = .ok a := by
  unfold Desktop.listen at h
  split at h
  · cases h
  · exact h

theorem ran_of_task {w : Surroundings} {d d' : Desktop} {e : Executor} {t : Trail} {x : Execution}
    {result : ScriptResult} (h : (executeSource w d e t x).task = .ok (d', result)) :
    (runSource e (silent t) x).answer = .ok result := by
  simp only [executeSource] at h
  split at h
  · next hanswer _ =>
    cases h
    exact answer_of_listen hanswer
  · cases h
  · cases h

theorem result_of_report {w : Surroundings} {x : Execution} {d : Desktop} {d' : Disk}
    {result result' : ScriptResult} {t : Trail}
    (h : (report w x d result t).task = .ok (d', result')) : result' = result := by
  simp only [report] at h
  split at h
  · cases h
    rfl
  · cases h

/-- If the log takes every record and no stop hook fails, ending a session does not fail. -/
theorem ended_well {w : Surroundings} {d : Desktop} {e : Executor} {s : Session} {t : Trail}
    (hsession : e.session = some s) (hphase : s.phase ≠ .ended)
    (hquiet : ∀ p ∈ s.started, p.StopsQuietly) (hheard : (endSession w d e t).refusal = none) :
    (endSession w d e t).failure = none := by
  have hstop : (e.stop (silent t)).answer = .ok () := by
    rw [Executor.stop_of_session hsession, Step.lift]
    rw [(Session.stop_of_not_ended hphase _).2.1]
    rw [Session.stopFailure?_of_quiet fun p hp => hquiet p (List.mem_reverse.mp hp)]
    rfl
  have hanswer : (d.listen w t (e.stop (silent t))).answer = .ok () :=
    (heard_spec hheard).1.trans hstop
  simp only [endSession, hanswer]

/-- A script whose execution is answered well comes to that answer, if the log takes every record
and no stop hook fails. -/
theorem task_of_ran {w : Surroundings} {d : Desktop} {e : Executor} {s : Session} {t : Trail}
    {x : Execution} {result : ScriptResult} (hsession : e.session = some s)
    (hphase : s.phase = .started) (hquiet : ∀ p ∈ s.started, p.StopsQuietly)
    (hran : (runSource e (silent t) x).answer = .ok result)
    (hheard : (executeSource w d e t x).refusal = none) :
    ∃ d', (executeSource w d e t x).task = .ok (d', result) := by
  have hlive := Executor.liveSession_eq_ok_iff.mpr ⟨hsession, hphase⟩
  obtain ⟨s', -, hs', hcleared, -, -⟩ := runSource_goes_on hlive (silent t) x
  obtain ⟨-, -, hstarted, hphase'⟩ := Session.parts_of_cleared hcleared
  have hended : s'.phase ≠ .ended := by simp [hphase', hphase]
  rw [← hstarted] at hquiet
  obtain ⟨hrefusal, hstopped⟩ := heard_of_executeSource hheard
  obtain ⟨hanswer, htrail⟩ := heard_spec hrefusal
  have hfailure := ended_well hs' hended hquiet hstopped
  simp only [executeSource, hanswer, htrail, hran, hfailure]
  exact ⟨_, rfl⟩

theorem reported_well {w : Surroundings} {x : Execution} {d : Desktop} {result : ScriptResult}
    {t : Trail} (hheard : (report w x d result t).refusal = none) :
    ∃ d', (report w x d result t).task = .ok (d', result) := by
  simp only [report] at hheard ⊢
  split at hheard
  · exact ⟨_, rfl⟩
  · cases hheard

/-! ## The plan of an execution -/

theorem sessionPlan_of_opened {home : String} {c : Configuration} {here : String}
    {packs : List Pack} {s : Session} {x : Execution} {t : Trail}
    (h : Opened packs x.arguments s t) (found : Found) (bundle : Option String) :
    sessionPlan home c here s x found bundle = expectedPlan home c here packs x found bundle := by
  rw [sessionPlan, h.references, h.namespaces]
  rfl

/-- Whether an execution that is ready, of a configuration in a directory, comes upon a script and
upon a bundle or none. -/
structure Finds (c : Configuration) (r : Ready) (x : Execution) (here : String) (found : Found)
    (bundle : Option String) : Prop where
  place : workplace c r.desktop.disk = .ok here
  script : x.source.find r.desktop.disk here = .ok found
  bundle : bundleIn r.desktop.disk c found.directory = .ok bundle

theorem eq_ok_of_bind_map {α β γ : Type} {first : Except Failure α}
    {second : α → Except Failure β} {make : α → β → γ} {result : γ}
    (h : (first.bind fun a => (second a).map fun b => make a b) = .ok result) :
    ∃ a b, first = .ok a ∧ second a = .ok b ∧ result = make a b := by
  obtain ⟨a, hfirst, h⟩ := exists_of_bind_ok h
  cases hsecond : second a with
  | error f =>
      rw [hsecond] at h
      cases h
  | ok b =>
      rw [hsecond] at h
      cases h
      exact ⟨a, b, hfirst, hsecond, rfl⟩

/-- The executor of an execution that is ready, with a configuration that uses the defaults. -/
theorem planner_of_ready {w : Surroundings} {d : Disk} {m : Manner} {x : Execution}
    {c : Configuration} {r : Ready} {here : String}
    (hconfiguration : configuration w d m.configuration = .ok c)
    (hdefaults : UsesDefaults w c) (hready : prepare w d m x = .ok r)
    (hhere : workplace c r.desktop.disk = .ok here) :
    r.executor = planner w.home c r.desktop.disk here := by
  obtain ⟨c', hc', -, hexecutor, -⟩ := prepare_eq_ok hready
  cases hconfiguration.symm.trans hc'
  exact executor_of_defaults hdefaults hexecutor hhere

/-- An execution comes to a result only in a directory that is there. -/
theorem workplace_of_conduct {w : Surroundings} {d : Disk} {m : Manner} {x : Execution}
    {c : Configuration} {r : Ready} {a : Disk × ScriptResult}
    (hconfiguration : configuration w d m.configuration = .ok c)
    (hready : prepare w d m x = .ok r) (h : (conduct w r x).task = .ok a) :
    ∃ here, workplace c r.desktop.disk = .ok here := by
  obtain ⟨c', hc', -, hexecutor, -⟩ := prepare_eq_ok hready
  cases hconfiguration.symm.trans hc'
  apply workplace_of_folders hexecutor
  by_contra hfolders
  obtain ⟨o, hfails⟩ := (conduct_of_no_folders (executor_of_ready hready).1 hfolders).1
  cases hfails.symm.trans h

/-- What an execution returns that goes well is the plan of what it found. -/
theorem plan_of_conduct {w : Surroundings} {c : Configuration} {r : Ready} {x : Execution}
    {here : String} {d' : Disk} {result : ScriptResult}
    (hhere : workplace c r.desktop.disk = .ok here)
    (hexecutor : r.executor = planner w.home c r.desktop.disk here)
    (h : (conduct w r x).task = .ok (d', result)) :
    ∃ found bundle, Finds c r x here found bundle ∧
      result = .returning (.plan (expectedPlan w.home c here (r.packs w) x found bundle)) := by
  obtain ⟨g, hfounding, hstaged⟩ := founding_planner w.home c r.desktop.disk here x
  rw [← hexecutor] at hfounding
  obtain ⟨⟨d, e⟩, hopening, h⟩ := task_of_andThen h
  obtain ⟨⟨d'', result'⟩, hexecuted, h⟩ := task_of_andThen h
  cases result_of_report h
  obtain ⟨s, rfl, hopened⟩ := opened_of_task hfounding hopening
  have hran := ran_of_task hexecuted
  rw [hstaged, answer_of_planner hopened.phase hopened.injected] at hran
  obtain ⟨found, bundle, hfound, hbundle, rfl⟩ := eq_ok_of_bind_map hran
  rw [sessionPlan_of_opened hopened]
  exact ⟨found, bundle, ⟨hhere, hfound, hbundle⟩, rfl⟩

/-- An execution goes well if its script is found, looking for the bundle does not fail, no hook
fails, and the log takes every record. -/
theorem conduct_of_plan {w : Surroundings} {c : Configuration} {r : Ready} {x : Execution}
    {here : String} {found : Found} {bundle : Option String}
    (hexecutor : r.executor = planner w.home c r.desktop.disk here)
    (hfinds : Finds c r x here found bundle)
    (hattempt : Session.attemptFailure? (r.packs w) [] = none)
    (hquiet : ∀ p ∈ r.packs w, p.StopsQuietly) (hheard : (conduct w r x).refusal = none) :
    ∃ d', (conduct w r x).task =
      .ok (d', .returning (.plan (expectedPlan w.home c here (r.packs w) x found bundle))) := by
  obtain ⟨g, hfounding, hstaged⟩ := founding_planner w.home c r.desktop.disk here x
  rw [← hexecutor] at hfounding
  have hopening : (r.opening w x).refusal = none := heard_of_andThen hheard
  obtain ⟨d, s, htask, hopened⟩ := opened_of_attempts hfounding hattempt hopening
  rw [hstaged] at htask
  have hran : (runSource (staged w.home c r.desktop.disk here x s) (silent (r.opening w x).trail)
      x).answer =
        .ok (.returning (.plan (expectedPlan w.home c here (r.packs w) x found bundle))) := by
    rw [answer_of_planner hopened.phase hopened.injected, hfinds.script]
    change (bundleIn r.desktop.disk c found.directory).map _ = _
    rw [hfinds.bundle, ← sessionPlan_of_opened hopened]
    rfl
  have hstarted : ∀ p ∈ s.started, p.StopsQuietly := by
    rw [hopened.started]
    exact hquiet
  have hlater := ((andThen_of_ok htask _).2.2 hheard).2
  obtain ⟨d', hexecuted⟩ :=
    task_of_ran rfl hopened.phase hstarted hran (heard_of_andThen hlater)
  obtain ⟨d'', hreported⟩ := reported_well ((andThen_of_ok hexecuted _).2.2 hlater).2
  exact ⟨d'', (andThen_of_ok htask _).1.trans ((andThen_of_ok hexecuted _).1.trans hreported)⟩

/-! ## The law of a configuration -/

/-- The law of the plans of a configuration. -/
structure PlanLaw (w : Surroundings) (d : Disk) (m : Manner) (x : Execution) (c : Configuration) :
    Prop where
  /-- An execution that goes well returns the plan of what it found. -/
  planned : ∀ d' result, (runScript w d m x).task = .ok (d', result) →
    ∃ r here found bundle, prepare w d m x = .ok r ∧ Finds c r x here found bundle ∧
      result = .returning (.plan (expectedPlan w.home c here (r.packs w) x found bundle))
  /-- It goes well if it gets ready and finds its script, no hook fails, and no record is
  refused. -/
  completes : ∀ r here found bundle, prepare w d m x = .ok r → Finds c r x here found bundle →
    Session.attemptFailure? (r.packs w) [] = none → (∀ p ∈ r.packs w, p.StopsQuietly) →
    (runScript w d m x).refusal = none →
    ∃ d', (runScript w d m x).task =
      .ok (d', .returning (.plan (expectedPlan w.home c here (r.packs w) x found bundle)))
  /-- What is shown as the default references are the references with which the plan begins, each as
  a person reads it. -/
  listed : ∀ d' plan o, (runScript w d m x).task = .ok (d', .returning (.plan plan)) →
    showDefaults w d m = .ok o →
    ∃ texts, startReferences w.home c <+: plan.references ∧
      (startReferences w.home c).mapM shown = .ok texts ∧
      o.printed.head? =
        some (.table "Default references" ["#", "Reference"] (numberedRows 1 texts)) ∧
      ((∀ s ∈ Artifact.core w.home :: Artifact.contracts w.home :: c.execution.references,
        shown s = .ok s) → texts <+: plan.references)

/-- The plans of a configuration that uses the defaults obey the law. -/
theorem run_plans {w : Surroundings} {d : Disk} {m : Manner} {c : Configuration}
    (hconfiguration : configuration w d m.configuration = .ok c) (hdefaults : UsesDefaults w c)
    (x : Execution) : PlanLaw w d m x c := by
  have hplanned : ∀ d' result, (runScript w d m x).task = .ok (d', result) →
      ∃ r here found bundle, prepare w d m x = .ok r ∧ Finds c r x here found bundle ∧
        result = .returning (.plan (expectedPlan w.home c here (r.packs w) x found bundle)) := by
    intro d' result h
    cases hready : prepare w d m x with
    | error o =>
        rw [runScript, hready] at h
        cases h
    | ok r =>
        rw [runScript, hready] at h
        obtain ⟨here, hhere⟩ := workplace_of_conduct hconfiguration hready h
        have hexecutor := planner_of_ready hconfiguration hdefaults hready hhere
        obtain ⟨found, bundle, hfinds, hresult⟩ := plan_of_conduct hhere hexecutor h
        exact ⟨r, here, found, bundle, rfl, hfinds, hresult⟩
  constructor
  case planned => exact hplanned
  case completes =>
    intro r here found bundle hready hfinds hattempt hquiet hheard
    have hexecutor := planner_of_ready hconfiguration hdefaults hready hfinds.place
    rw [runScript, hready] at hheard ⊢
    exact conduct_of_plan hexecutor hfinds hattempt hquiet hheard
  case listed =>
    intro d' plan o h hshow
    obtain ⟨r, here, found, bundle, -, -, hresult⟩ := hplanned d' _ h
    cases hresult
    obtain ⟨texts, htexts, hprinted⟩ := defaults_of_task hconfiguration hshow
    have hprefix : startReferences w.home c <+:
        (expectedPlan w.home c here (r.packs w) x found bundle).references := List.prefix_append _ _
    refine ⟨texts, hprefix, htexts, hprinted, ?_⟩
    intro hplain
    rw [shown_startReferences hplain] at htexts
    cases htexts
    exact hprefix

/-! ## A sample -/

/-- Surroundings in which nothing is logged, and a reference with a tag in it is configured. -/
def sampleSurroundings : Surroundings :=
  sampleGreetings [("SCRIPTCORE_LOGGING__LEVEL", "ERROR"),
    ("SCRIPTCORE_EXECUTION__REFERENCES", "[\"libs/[b]/Json.dll\"]")]

def sampleExecution : Execution :=
  ⟨.text "one();", ["a"], ["greetings:Greeter"], ["System", "x.dll", "x.dll"]⟩

/-- The configuration that the surroundings come to. -/
def sampleConfiguration : Configuration where
  folders := ⟨none, "bin", ".cache", "packages"⟩
  library := ⟨"ScriptLibraries.csx"⟩
  execution := ⟨["libs/[b]/Json.dll"], [], [], "scriptcore.hosting.engine:DryRunEngine",
    "scriptcore.hosting.preprocessor:PassthroughPreProcessor"⟩
  logging := ⟨.error, none, false⟩

theorem configuration_sample :
    configuration sampleSurroundings sampleDisk sampleManner.configuration =
      .ok sampleConfiguration :=
  eq_ok_of_toOption (by decide +kernel)

theorem sample_usesDefaults : UsesDefaults sampleSurroundings sampleConfiguration := by
  have hothers : ∀ b ∈ Plugin.builtIn, "greetings" ≠ b.name := by
    simp [Plugin.builtIn, Plugin.hosting, Plugin.ModuleEntry.plain]
  exact usesDefaults_of_names (Plugin.Catalogue.builtIn_hasBuiltIn.cons hothers) rfl rfl

/-- In the sample the configured reference enters the plan as it stands, but a person reads it
without its tag: what is shown is not what the plan begins with. -/
theorem tagged_reference_in_sample :
    configuration sampleSurroundings sampleDisk sampleManner.configuration =
        .ok sampleConfiguration ∧
      UsesDefaults sampleSurroundings sampleConfiguration ∧
      ∃ d' plan o texts, (runScript sampleSurroundings sampleDisk sampleManner
          sampleExecution).task = .ok (d', .returning (.plan plan)) ∧
        showDefaults sampleSurroundings sampleDisk sampleManner = .ok o ∧
        o.printed.head? =
          some (.table "Default references" ["#", "Reference"] (numberedRows 1 texts)) ∧
        "libs/[b]/Json.dll" ∈ plan.references ∧ texts.getLast? = some "libs//Json.dll" ∧
        ¬ texts <+: plan.references := by
  have hlaw := run_plans configuration_sample sample_usesDefaults sampleExecution
  obtain ⟨⟨d', result⟩, hrun⟩ : ∃ a, (runScript sampleSurroundings sampleDisk sampleManner
      sampleExecution).task = .ok a := by
    apply exists_of_toOption
    rw [runScript, prepare, configuration_sample]
    decide +kernel
  obtain ⟨o, hshow⟩ : ∃ o, showDefaults sampleSurroundings sampleDisk sampleManner = .ok o := by
    apply exists_of_toOption
    rw [showDefaults, configuration_sample]
    decide +kernel
  obtain ⟨r, here, found, bundle, -, -, rfl⟩ := hlaw.planned d' result hrun
  obtain ⟨texts, hprefix, htexts, hprinted, -⟩ := hlaw.listed d' _ o hrun hshow
  have hstart : startReferences sampleSurroundings.home sampleConfiguration =
      ReferenceSet.builtIn sampleSurroundings.home ++ ["libs/[b]/Json.dll"] := by decide +kernel
  have htexts' : (startReferences sampleSurroundings.home sampleConfiguration).mapM shown =
      .ok (ReferenceSet.builtIn sampleSurroundings.home ++ ["libs//Json.dll"]) :=
    eq_ok_of_toOption (by decide +kernel)
  cases htexts.symm.trans htexts'
  refine ⟨configuration_sample, sample_usesDefaults, d', _, o, _, hrun, hshow, hprinted, ?_, rfl,
    ?_⟩
  · apply hprefix.subset
    rw [hstart]
    exact List.mem_append_right _ List.mem_cons_self
  · intro hshown
    have hsame := List.prefix_of_prefix_length_le hshown hprefix (by decide +kernel)
    have heq := hsame.eq_of_length (by decide +kernel)
    rw [hstart] at heq
    exact absurd (List.append_cancel_left heq) (by decide)

end Command

end ScriptHost
