import ScriptHost.Proofs.Command.Planning
import ScriptHost.Proofs.Command.Reading
import ScriptHost.Proofs.Console.Places

/-!
# Executions that are quiet

A quiet execution does whatever the same execution does otherwise, but for the panel with the
result: it ends with the number of the result.  An execution that is not quiet ends with that number
as well if its panel can be shown.  The value that was returned must be able to show itself for
that.  The file name and the arguments of a plan, that value and the namespaces that could not be
opened are taken as markup there: if no tag begins in them the panel is shown, and if a closing tag
comes first in the arguments it is not, and the command ends with one although the script went well.

## Main results

* `ScriptResult.blocks_of_tagless`, `Plan.panel_of_stray` — which results can be shown.
* `quiet_law` — how an execution ends, quietly and otherwise.
-/

namespace ScriptHost

open Console

/-! ## Panels -/

theorem exists_bind_ok {ε α β : Type} {first : Except ε α} {next : α → Except ε β}
    (hfirst : ∃ a, first = .ok a) (hnext : ∀ a, ∃ b, next a = .ok b) :
    ∃ b, (first >>= next) = .ok b := by
  obtain ⟨a, rfl⟩ := hfirst
  exact hnext a

theorem Console.rowIf_of_ok {row : Except Failure String} (h : ∃ text, row = .ok text)
    (isThere : Bool) : ∃ rows, rowIf isThere row = .ok rows := by
  obtain ⟨text, rfl⟩ := h
  cases isThere with
  | true => exact ⟨_, rfl⟩
  | false => exact ⟨_, rfl⟩

/-- The texts of a plan that are taken as markup. -/
def Plan.markedUp (p : Plan) : List String :=
  [p.fileName.getD "", " ".intercalate p.arguments]

/-- The texts of a result that are taken as markup, if its value can show itself. -/
def ScriptResult.markedUp (r : ScriptResult) : Except Fault (List String) :=
  match r.value with
  | .plan p => .ok p.markedUp
  | .datum d => d.display.map fun value => [value, ", ".intercalate r.invalidNamespaces]

theorem Plan.panel_of_tagless {p : Plan} (h : ∀ text ∈ p.markedUp, isTagless text.toList = true) :
    ∃ block, p.panel = .ok block := by
  have hname := h _ List.mem_cons_self
  have harguments := h _ (List.mem_cons_of_mem _ List.mem_cons_self)
  have hfile := rowIf_of_ok (shown_file_of_tagless hname)
  have hlabel : '[' ∉ "Args".toList := by decide
  have hrow := rowIf_of_ok (labelled_of_tagless hlabel harguments)
  rw [Plan.panel]
  exact exists_bind_ok (hfile _) fun file => exists_bind_ok (hrow _) fun row => ⟨_, rfl⟩

/-- A result is shown if no tag begins in the texts that are taken as markup. -/
theorem ScriptResult.blocks_of_tagless {r : ScriptResult} {texts : List String}
    (hmarked : r.markedUp = .ok texts) (h : ∀ text ∈ texts, isTagless text.toList = true) :
    ∃ blocks, r.blocks = .ok blocks := by
  have hpanel : ∃ block, r.panel = .ok block := by
    rw [ScriptResult.markedUp] at hmarked
    rw [ScriptResult.panel]
    cases hvalue : r.value with
    | plan p =>
        simp only [hvalue] at hmarked
        obtain rfl : p.markedUp = texts := Except.ok.inj hmarked
        exact Plan.panel_of_tagless h
    | datum d =>
        simp only [hvalue] at hmarked
        obtain ⟨value, hdisplay, rfl⟩ := exists_of_map_ok hmarked
        simp only [hdisplay]
        have htagless := h _ List.mem_cons_self
        have hinvalid := h _ (List.mem_cons_of_mem _ List.mem_cons_self)
        have hlabel : '[' ∉ "Return value".toList := by decide
        have hrow := rowIf_of_ok (labelled_of_tagless hlabel htagless)
        have hwarning := rowIf_of_ok (shown_warning_of_tagless hinvalid)
        exact exists_bind_ok (hrow _) fun row =>
          exists_bind_ok (hwarning _) fun invalid => ⟨_, rfl⟩
  obtain ⟨block, hblock⟩ := hpanel
  rw [ScriptResult.blocks, hblock]
  exact ⟨_, rfl⟩

/-- Whether the first bracket of a text begins a closing tag. -/
def ClosesFirst (text : String) : Prop :=
  ∃ before name rest : String, text = before ++ "[/" ++ name ++ "]" ++ rest ∧
    '[' ∉ before.toList ∧ before.toList.getLast? ≠ some '\\' ∧
    '[' ∉ name.toList ∧ ']' ∉ name.toList

theorem labelled_arguments (text : String) :
    labelled "Args" text = shown (Place.arguments.markup text) := rfl

/-- A plan is not shown if a closing tag comes first in its arguments. -/
theorem Plan.panel_of_stray {p : Plan} (h : ClosesFirst (" ".intercalate p.arguments)) :
    ∃ failure, p.panel = .error failure := by
  obtain ⟨before, name, rest, htext, hbefore, hlast, hname⟩ := h
  obtain ⟨failure, hstray⟩ := Place.shown_of_stray (p := .arguments) rfl hbefore hlast hname rest
  rw [← htext, ← labelled_arguments] at hstray
  have hgiven : p.arguments.isEmpty = false := by
    cases harguments : p.arguments with
    | nil =>
        rw [harguments] at htext
        have hlength := congrArg String.length htext
        have htwo : "[/".length = 2 := rfl
        simp only [String.length_append] at hlength
        change 0 = _ at hlength
        omega
    | cons first others => rfl
  have hrow : rowIf (!p.arguments.isEmpty) (labelled "Args" (" ".intercalate p.arguments)) =
      .error failure := by
    rw [hgiven, hstray]
    rfl
  rw [Plan.panel]
  simp only [hrow]
  cases rowIf (!(p.fileName.getD "").isEmpty)
      (shown ("[bold]File:[/] [script]" ++ p.fileName.getD "" ++ "[/]")) with
  | error first => exact ⟨first, rfl⟩
  | ok file => exact ⟨failure, rfl⟩

namespace Command

/-! ## Executions -/

/-- A script runs the same way whether its result will be shown or not. -/
theorem runScript_hushed (w : Surroundings) (d : Disk) (m : Manner) (x : Execution) :
    runScript w d m.hushed x = runScript w d m x := rfl

theorem execute_unfinished {w : Surroundings} {d : Disk} {m : Manner} {x : Execution} {o : Outcome}
    (h : (runScript w d m x).task = .error o) : execute w d m x = .error o := by
  rw [execute, h]
  rfl

theorem execute_quietly {w : Surroundings} {d d' : Disk} {m : Manner} {x : Execution}
    {r : ScriptResult} (hquiet : m.isQuiet = true)
    (h : (runScript w d m x).task = .ok (d', r)) :
    execute w d m x = .ok ⟨r.exitCode, [], none, d'⟩ := by
  rw [execute, h]
  simp only [hquiet, if_true]
  rfl

theorem execute_loudly {w : Surroundings} {d d' : Disk} {m : Manner} {x : Execution}
    {r : ScriptResult} (hloud : m.isQuiet = false) (h : (runScript w d m x).task = .ok (d', r)) :
    (execute w d m x).outcome =
      match r.blocks with
      | .ok blocks => ⟨r.exitCode, blocks, none, d'⟩
      | .error f => .raise d' f := by
  have hshown : execute w d m x =
      (orRaise d' r.blocks).map fun printed => ⟨r.exitCode, printed, none, d'⟩ := by
    rw [execute, h]
    simp only [hloud, Bool.false_eq_true, if_false]
    change (orRaise d' r.blocks >>= fun printed => pure _) = _
    cases orRaise d' r.blocks with
    | error o => rfl
    | ok printed => rfl
  rw [hshown]
  cases r.blocks with
  | error f => rfl
  | ok blocks => rfl

/-! ## The law of quiet executions -/

/-- The law of an execution that is asked for by one command line, and quietly by another one. -/
structure QuietLaw (w : Surroundings) (d : Disk) (m : Manner) (x : Execution)
    (words quietly : List String) : Prop where
  /-- The same command line behind `--quiet` is such another one. -/
  front : Reading.ofWords ("--quiet" :: words) = .request m.hushed (.execute x)
  /-- If no result comes back, both end in the same way. -/
  unfinished : ∀ o, (runScript w d m x).task = .error o →
    run w d words = o ∧ run w d quietly = o
  /-- A quiet execution prints nothing and ends with the number of the result. -/
  quiet : ∀ d' r, (runScript w d m x).task = .ok (d', r) →
    run w d quietly = ⟨r.exitCode, [], none, d'⟩
  /-- The other one ends with that number if the result can be shown, and with one if not. -/
  loud : ∀ d' r, (runScript w d m x).task = .ok (d', r) →
    run w d words =
      match r.blocks with
      | .ok blocks => ⟨r.exitCode, blocks, none, d'⟩
      | .error f => .raise d' f
  /-- The number is zero or one, and zero just if neither compiling nor running failed. -/
  number : ∀ d' r, (runScript w d m x).task = .ok (d', r) →
    (run w d quietly).exit =
      if r.compileError = none ∧ r.executeError = none then 0 else 1
  /-- Both leave the same disk. -/
  disk : (run w d words).disk = (run w d quietly).disk
  /-- The numbers differ just if the script went well and its result cannot be shown. -/
  same : ∀ d' r, (runScript w d m x).task = .ok (d', r) →
    ((run w d words).exit = (run w d quietly).exit ↔
      (∃ blocks, r.blocks = .ok blocks) ∨ r.isSuccess = false)
  /-- They are the same if no tag begins in the texts that are taken as markup. -/
  tagless : ∀ d' r texts, (runScript w d m x).task = .ok (d', r) → r.markedUp = .ok texts →
    (∀ text ∈ texts, isTagless text.toList = true) →
    (run w d words).exit = (run w d quietly).exit
  /-- They differ for every script that is planned well, by a configuration that uses the defaults,
  with arguments in which a closing tag comes first. -/
  stray : ∀ c d' r, configuration w d m.configuration = .ok c → UsesDefaults w c →
    (runScript w d m x).task = .ok (d', r) → ClosesFirst (" ".intercalate x.arguments) →
    (run w d words).exit = 1 ∧ (run w d quietly).exit = 0

/-- The plan of a configuration that uses the defaults has the arguments of the execution. -/
theorem planned_arguments {w : Surroundings} {d d' : Disk} {m : Manner} {x : Execution}
    {c : Configuration} {result : ScriptResult}
    (hconfiguration : configuration w d m.configuration = .ok c) (hdefaults : UsesDefaults w c)
    (h : (runScript w d m x).task = .ok (d', result)) :
    ∃ plan, result = .returning (.plan plan) ∧ plan.arguments = x.arguments := by
  cases hready : prepare w d m x with
  | error o =>
      rw [runScript, hready] at h
      cases h
  | ok r =>
      rw [runScript, hready] at h
      obtain ⟨here, hhere⟩ := workplace_of_conduct hconfiguration hready h
      have hexecutor := planner_of_ready hconfiguration hdefaults hready hhere
      obtain ⟨found, bundle, -, hresult⟩ := plan_of_conduct hhere hexecutor h
      exact ⟨_, hresult, rfl⟩

/-- Every execution obeys the law: quiet or not it does the same, but a panel that cannot be shown
turns the number of a script that went well into one. -/
theorem quiet_law {w : Surroundings} {d : Disk} {m : Manner} {x : Execution}
    {words quietly : List String} (hwords : Reading.ofWords words = .request m (.execute x))
    (hloud : m.isQuiet = false)
    (hquietly : Reading.ofWords quietly = .request m.hushed (.execute x)) :
    QuietLaw w d m x words quietly := by
  have hrun : run w d words = (execute w d m x).outcome := by
    rw [run, hwords]
    rfl
  have hhushed : run w d quietly = (execute w d m.hushed x).outcome := by
    rw [run, hquietly]
    rfl
  have hquiet : ∀ d' r, (runScript w d m x).task = .ok (d', r) →
      run w d quietly = ⟨r.exitCode, [], none, d'⟩ := by
    intro d' r h
    rw [← runScript_hushed] at h
    rw [hhushed, execute_quietly rfl h]
    rfl
  have hfirst : ∀ d' r, (runScript w d m x).task = .ok (d', r) →
      run w d words =
        match r.blocks with
        | .ok blocks => ⟨r.exitCode, blocks, none, d'⟩
        | .error f => .raise d' f := by
    intro d' r h
    rw [hrun, execute_loudly hloud h]
  have hunfinished : ∀ o, (runScript w d m x).task = .error o →
      run w d words = o ∧ run w d quietly = o := by
    intro o h
    have hother := h
    rw [← runScript_hushed] at hother
    rw [hrun, hhushed, execute_unfinished h, execute_unfinished hother]
    exact ⟨rfl, rfl⟩
  have hsame : ∀ d' r, (runScript w d m x).task = .ok (d', r) →
      ((run w d words).exit = (run w d quietly).exit ↔
        (∃ blocks, r.blocks = .ok blocks) ∨ r.isSuccess = false) := by
    intro d' r h
    rw [hquiet d' r h, hfirst d' r h]
    cases hblocks : r.blocks with
    | ok blocks => simp
    | error f =>
        -- the command ends with one then, which is also the number of a script that failed
        have hone : (1 = r.exitCode ↔ r.isSuccess = false) := by
          rw [ScriptResult.exitCode]
          cases r.isSuccess with
          | true => simp
          | false => simp
        simpa [Outcome.raise] using hone
  constructor
  case front =>
    have hsome : words ≠ [] := by
      rintro rfl
      cases hwords
    rw [ofWords_quiet hsome, hwords]
    rfl
  case unfinished => exact hunfinished
  case quiet => exact hquiet
  case loud => exact hfirst
  case number =>
    intro d' r h
    rw [hquiet d' r h]
    change r.exitCode = _
    rw [ScriptResult.exitCode]
    simp only [ScriptResult.isSuccess_iff]
  case disk =>
    cases htask : (runScript w d m x).task with
    | error o =>
        obtain ⟨hwords', hquietly'⟩ := hunfinished o htask
        rw [hwords', hquietly']
    | ok a =>
        rw [hquiet a.1 a.2 htask, hfirst a.1 a.2 htask]
        cases a.2.blocks with
        | ok blocks => rfl
        | error f => rfl
  case same => exact hsame
  case tagless =>
    intro d' r texts h hmarked htagless
    exact (hsame d' r h).mpr (.inl (ScriptResult.blocks_of_tagless hmarked htagless))
  case stray =>
    intro c d' r hconfiguration hdefaults h hstray
    obtain ⟨plan, rfl, harguments⟩ := planned_arguments hconfiguration hdefaults h
    rw [← harguments] at hstray
    obtain ⟨f, hpanel⟩ := Plan.panel_of_stray hstray
    have hblocks : (ScriptResult.returning (.plan plan)).blocks = .error f := by
      change plan.panel.map _ = _
      rw [hpanel]
      rfl
    have hloudly := hfirst d' _ h
    rw [hblocks] at hloudly
    rw [hloudly, hquiet d' _ h]
    exact ⟨rfl, rfl⟩

/-- In the sample a script goes well, and with a closing tag for its argument it ends with one
unless it is to be quiet. -/
theorem quiet_in_sample :
    Reading.ofWords ["eval", "one();", "[/b]"] =
        .request sampleManner (.execute ⟨.text "one();", ["[/b]"], [], []⟩) ∧
      Reading.ofWords ["--quiet", "eval", "one();", "[/b]"] =
        .request sampleManner.hushed (.execute ⟨.text "one();", ["[/b]"], [], []⟩) ∧
      (run sampleSurroundings sampleDisk ["eval", "one();", "[/b]"]).exit = 1 ∧
      (run sampleSurroundings sampleDisk ["--quiet", "eval", "one();", "[/b]"]).exit = 0 := by
  have hwords : Reading.ofWords ["eval", "one();", "[/b]"] =
      .request sampleManner (.execute ⟨.text "one();", ["[/b]"], [], []⟩) := by decide
  have hquietly : Reading.ofWords ["--quiet", "eval", "one();", "[/b]"] =
      .request sampleManner.hushed (.execute ⟨.text "one();", ["[/b]"], [], []⟩) := by decide
  have hlaw := quiet_law (w := sampleSurroundings) (d := sampleDisk) hwords rfl hquietly
  obtain ⟨⟨d', result⟩, hrun⟩ : ∃ a, (runScript sampleSurroundings sampleDisk sampleManner
      ⟨.text "one();", ["[/b]"], [], []⟩).task = .ok a := by
    apply exists_of_toOption
    rw [runScript, prepare, configuration_sample]
    decide +kernel
  have hstray : ClosesFirst (" ".intercalate ["[/b]"]) :=
    ⟨"", "b", "", by decide, by decide, by decide, by decide, by decide⟩
  exact ⟨hwords, hquietly,
    hlaw.stray sampleConfiguration d' result configuration_sample sample_usesDefaults hrun hstray⟩

end Command

end ScriptHost
