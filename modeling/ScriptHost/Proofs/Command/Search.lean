import ScriptHost.Proofs.Command.Planning
import ScriptHost.Proofs.Executor.Confinement

/-!
# Where an execution looks for the bundle

A command that executes a script asks the file system once whether there is a bundle: its script is
the first one of the session.  It asks at the path that the directory of the script, the packages
folder and the name of the bundle lead to, and nothing else in the command asks the file system
whether a file is there.  A command that comes to a result has asked.

## Main results

* `probed_runSource` — what is asked while a script is executed.
* `probed_conduct` — what is asked in a whole execution.
-/

namespace ScriptHost

/-! ## Questions to the file system -/

/-- The path of a call by which the file system is asked whether a file is there. -/
def Call.probe? : Call → Option String
  | .probe path => some path
  | _ => none

/-- The paths at which files were looked for, in the order of a journal. -/
def probed (calls : List Call) : List String := calls.filterMap Call.probe?

@[simp] theorem probed_append (cs ds : List Call) : probed (cs ++ ds) = probed cs ++ probed ds :=
  List.filterMap_append

theorem probed_of_hooks {cs : List Call} (h : ∀ c ∈ cs, c.isHook = true) : probed cs = [] := by
  apply List.filterMap_eq_nil_iff.mpr
  intro c hc
  cases c with
  | probe path => cases h _ hc
  | _ => rfl

namespace Trail

/-- From a trail to a later one files were looked for at exactly these paths. -/
def Probed (paths : List String) (t t' : Trail) : Prop :=
  ∃ cs, Made cs t t' ∧ probed cs = paths

theorem Probed.refl (t : Trail) : Probed [] t t := ⟨[], .refl t, rfl⟩

theorem Probed.trans {ps qs : List String} {t t' t'' : Trail} (h : Probed ps t t')
    (h' : Probed qs t' t'') : Probed (ps ++ qs) t t'' := by
  obtain ⟨cs, hmade, hps⟩ := h
  obtain ⟨ds, hmade', hqs⟩ := h'
  exact ⟨cs ++ ds, hmade.trans hmade', by rw [probed_append, hps, hqs]⟩

theorem Made.probed {cs : List Call} {t t' : Trail} (h : Made cs t t') :
    Probed (ScriptHost.probed cs) t t' := ⟨cs, h, rfl⟩

/-- Since nothing had happened, a path was looked at just if the calls say so. -/
theorem Probed.mem_iff {paths : List String} {t : Trail} (h : Probed paths .empty t)
    (path : String) : .probe path ∈ t.calls ↔ path ∈ paths := by
  obtain ⟨cs, hmade, rfl⟩ := h
  have hcalls : t.calls = cs.reverse ++ [] := hmade
  rw [hcalls, List.append_nil, List.mem_reverse, ScriptHost.probed, List.mem_filterMap]
  constructor
  · intro hmem
    exact ⟨_, hmem, rfl⟩
  · rintro ⟨c, hmem, hc⟩
    cases c with
    | probe other =>
        cases hc
        exact hmem
    | _ => cases hc

end Trail

namespace Executor

/-- Whether the bundle for a script is expected at a path, given the calls made before. -/
def BundleAt (e : Executor) (calls : List Call) (path : String) : Command.Source → Prop
  | .file script => ∃ place, e.scriptPath calls script = .ok place ∧
      e.libraryPath (some (Path.ofString place).parent.toString) = .ok path
  | .text code => ∃ place,
      e.fileSystem.currentDirectory (.processText code :: calls) = .ok place ∧
      e.libraryPath place = .ok path

/-- The bundle is expected at the same path by executors with the same sources. -/
theorem BundleAt.of_sources {e g : Executor} {calls : List Call}
    (hsources : g.toSources = e.toSources) {path : String} {source : Command.Source}
    (h : e.BundleAt calls path source) : g.BundleAt calls path source := by
  have hfs : g.fileSystem = e.fileSystem := congrArg Sources.fileSystem hsources
  cases source with
  | file script =>
      obtain ⟨place, hplace, hpath⟩ := h
      rw [← hsources] at hpath
      refine ⟨place, ?_, hpath⟩
      rw [← hplace, scriptPath, scriptPath, hfs]
  | text code =>
      obtain ⟨place, hplace, hpath⟩ := h
      rw [← hsources] at hpath
      exact ⟨place, hfs ▸ hplace, hpath⟩

/-- Nothing is asked where a script is pre-processed. -/
theorem probed_scriptCalls (e : Executor) (calls : List Call) (op : Operation) :
    probed (e.scriptCalls calls op) = [] := by
  cases op with
  | execute script arguments =>
      simp only [scriptCalls]
      split
      · rfl
      · rfl
  | _ => rfl

/-- The bundle is looked for where it is expected. -/
theorem probed_lookupCalls {src : Sources} {directory : Option String} {path : String}
    (h : src.libraryPath directory = .ok path) (calls : List Call) :
    probed (src.lookupCalls calls directory) = [path] := by
  simp only [Sources.lookupCalls, h]
  split
  · rfl
  · rfl

/-- A prepared execution asks for the bundle, if it is due, and for nothing else. -/
theorem probed_of_prepared {e : Executor} {t : Trail} {op : Operation} {p : Prepared}
    (h : e.prepare t op = some p) :
    Trail.Probed (probed (e.searchCalls p)) t (e.perform t op).trail := by
  obtain ⟨-, -, hmade, -⟩ := perform_eq_run h
  obtain ⟨t', hmade', heq⟩ := perform_of_search h
  have hscript := hmade.probed
  rw [probed_scriptCalls] at hscript
  have hasked := hscript.trans hmade'.probed
  rw [heq]
  cases e.compose p with
  | error f => exact hasked
  | ok c =>
      have hsubmit : Trail.Made [.execute (c.submission p.arguments)] t'
          (c.executor.submit t' c.script p.arguments c.session).trail := rfl
      have hall := hasked.trans hsubmit.probed
      rwa [show probed [.execute (c.submission p.arguments)] = [] from rfl, List.append_nil] at hall

theorem probed_start (e : Executor) (t : Trail) (paths : Sequence.Supplied String)
    (packs : List Pack) (arguments : List String) :
    Trail.Probed [] t (e.start t paths packs arguments).trail := by
  have hother : (Operation.start paths packs arguments).isExecution = false := rfl
  obtain ⟨cs, hmade, hhooks⟩ := hooks_of_not_execution (e := e) (t := t) hother
  exact ⟨cs, hmade, probed_of_hooks hhooks⟩

theorem probed_stop (e : Executor) (t : Trail) : Trail.Probed [] t (e.stop t).trail := by
  have hother : Operation.stop.isExecution = false := rfl
  obtain ⟨cs, hmade, hhooks⟩ := hooks_of_not_execution (e := e) (t := t) hother
  exact ⟨cs, hmade, probed_of_hooks hhooks⟩

end Executor

namespace Command

/-! ## Stretches of an execution -/

/-- What the log heard of an operation has asked what the operation asks, or less if the log refused
a record, and then the operation has failed. -/
theorem probed_listen {σ α : Type} {w : Surroundings} {d : Desktop} {t : Trail} {s : Step σ α}
    {paths : List String} (h : Trail.Probed paths t s.trail) :
    Trail.Probed paths t (d.listen w t s).trail ∨
      (∃ asked, asked <+: paths ∧ Trail.Probed asked t (d.listen w t s).trail) ∧
        ∃ f, (d.listen w t s).answer = .error f := by
  unfold Desktop.listen
  split
  · next n f _ =>
    obtain ⟨cs, hmade, rfl⟩ := h
    obtain ⟨k, hcut⟩ := hmade.backTo n
    exact .inr ⟨⟨_, (List.take_prefix k cs).filterMap _, hcut.probed⟩, f, rfl⟩
  · exact .inl h

theorem probed_endSession (w : Surroundings) (d : Desktop) (e : Executor) (t : Trail) :
    Trail.Probed [] t (endSession w d e t).trail := by
  have hstop : Trail.Probed [] t (e.stop (silent t)).trail := e.probed_stop (silent t)
  rcases probed_listen (w := w) (d := d) hstop with hall | ⟨⟨asked, hprefix, hasked⟩, -⟩
  · exact hall
  · rw [List.prefix_nil.mp hprefix] at hasked
    exact hasked

/-- A session that is settled has asked nothing but what starting it asked. -/
theorem probed_settle {w : Surroundings} {isDebug : Bool} {d : Desktop}
    {started : Step Executor Unit} {t : Trail} (h : Trail.Probed [] t started.trail) :
    Trail.Probed [] t (settle w isDebug d started).trail := by
  unfold settle
  split
  · exact h
  · split
    · exact h.trans (probed_endSession w d started.state started.trail)
    · exact h

/-- Starting a session asks nothing. -/
theorem probed_opening (w : Surroundings) (r : Ready) (x : Execution) :
    Trail.Probed [] .empty (r.opening w x).trail := by
  have hstarted : Trail.Probed [] .empty (r.started w x).trail :=
    r.executor.probed_start .empty _ _ _
  rcases startSession_cases w r x with ⟨o, f, -, -, htrail | ⟨d, n, htrail⟩⟩ | ⟨d, heq⟩
  · rw [htrail]
    exact .refl _
  · obtain ⟨cs, hmade, hnone⟩ := hstarted
    obtain ⟨k, hcut⟩ := hmade.backTo n
    have hless := (List.take_prefix k cs).filterMap Call.probe?
    change probed (cs.take k) <+: probed cs at hless
    rw [hnone, List.prefix_nil] at hless
    rw [htrail]
    exact probed_settle ⟨cs.take k, hcut, hless⟩
  · rw [heq]
    exact probed_settle hstarted

section Executing

variable {e : Executor} {s : Session} {x : Execution} {path : String}

/-- The directory of a prepared script is the one in which its bundle is expected. -/
theorem libraryPath_of_prepared {t : Trail} {p : Executor.Prepared}
    (hplace : e.BundleAt t.calls path x.source)
    (h : e.prepare t (x.source.operation x.arguments) = some p) :
    e.libraryPath p.directory = .ok path := by
  obtain ⟨-, hcases⟩ := Executor.prepare_cases h
  cases hsource : x.source with
  | file script =>
      rw [hsource] at hcases hplace
      obtain ⟨place, hscript, hpath⟩ := hplace
      rcases hcases with ⟨script', place', hop, hscript', -, hp⟩ | ⟨text, hop, -⟩
      · injection hop with hname
        rw [← hname] at hscript'
        cases hscript.symm.trans hscript'
        rw [hp]
        exact hpath
      · cases hop
  | text code =>
      rw [hsource] at hcases hplace
      obtain ⟨place, hcurrent, hpath⟩ := hplace
      rcases hcases with ⟨script', place', hop, -⟩ | ⟨text, hop, -, hcurrent', hp⟩
      · cases hop
      · injection hop with htext
        rw [← htext] at hcurrent'
        cases hcurrent.symm.trans hcurrent'
        exact hpath

theorem isExecution_operation (x : Execution) :
    (x.source.operation x.arguments).isExecution = true := by
  cases x.source with
  | file script => rfl
  | text code => rfl

/-- The first script of a session asks for its bundle once, unless it fails before that. -/
theorem probed_runSource (hsession : e.session = some s) (hphase : s.phase = .started)
    (hinjected : s.injected = false) {t : Trail} (hplace : e.BundleAt t.calls path x.source) :
    Trail.Probed [path] t (runSource e t x).trail ∨
      (Trail.Probed [] t (runSource e t x).trail ∧ ∃ f, (runSource e t x).answer = .error f) := by
  have hlive := Executor.liveSession_eq_ok_iff.mpr ⟨hsession, hphase⟩
  have hperform := perform_operation e t x
  have htrail : (e.perform t (x.source.operation x.arguments)).trail = (runSource e t x).trail := by
    rw [hperform]
    rfl
  cases hprepared : e.prepare t (x.source.operation x.arguments) with
  | none =>
      obtain ⟨f, hanswer, hmade⟩ : ∃ f,
          (e.perform t (x.source.operation x.arguments)).answer = .error f ∧
          Trail.Made (e.scriptCalls t.calls (x.source.operation x.arguments)) t
            (e.perform t (x.source.operation x.arguments)).trail := by
        rcases Executor.fails_of_not_prepared (isExecution_operation x) hlive hprepared with
          ⟨f, hfails⟩ | ⟨answer, fault, hstray⟩
        · obtain ⟨hanswer, -, hmade⟩ := Executor.perform_of_scriptFails hlive hfails
          exact ⟨f, hanswer, hmade⟩
        · obtain ⟨hanswer, -, hmade⟩ := Executor.perform_of_stray hstray
          exact ⟨_, hanswer, hmade⟩
      rw [htrail] at hmade
      have hnothing := hmade.probed
      rw [Executor.probed_scriptCalls] at hnothing
      refine .inr ⟨hnothing, f, ?_⟩
      rw [hperform] at hanswer
      exact eq_of_map_some hanswer
  | some p =>
      obtain ⟨hsession', -⟩ := Executor.perform_eq_run hprepared
      cases hsession.symm.trans hsession'
      have hsearch : probed (e.searchCalls p) = [path] := by
        rw [Executor.searchCalls, if_neg (Bool.eq_false_iff.mp hinjected)]
        exact Executor.probed_lookupCalls (libraryPath_of_prepared hplace hprepared) _
      left
      rw [← htrail, ← hsearch]
      exact Executor.probed_of_prepared hprepared

end Executing

/-! ## Whole executions -/

/-- Executing the script of a session that has just started asks for the bundle once, unless that
fails before it. -/
theorem probed_executeSource {w : Surroundings} {d : Desktop} {e : Executor} {s : Session}
    {t : Trail} {x : Execution} {path : String} (hsession : e.session = some s)
    (hphase : s.phase = .started) (hinjected : s.injected = false)
    (hplace : e.BundleAt t.calls path x.source) :
    Trail.Probed [path] t (executeSource w d e t x).trail ∨
      (Trail.Probed [] t (executeSource w d e t x).trail ∧
        ∃ o, (executeSource w d e t x).task = .error o) := by
  have hended := probed_endSession w (d.listen w t (runSource e (silent t) x)).desktop
    (runSource e (silent t) x).state (d.listen w t (runSource e (silent t) x)).trail
  have herror : (∃ f, (d.listen w t (runSource e (silent t) x)).answer = .error f) →
      ∃ o, (executeSource w d e t x).task = .error o := by
    rintro ⟨f, hf⟩
    simp only [executeSource, hf]
    exact ⟨_, rfl⟩
  have hasked : Trail.Probed [path] t (d.listen w t (runSource e (silent t) x)).trail ∨
      (Trail.Probed [] t (d.listen w t (runSource e (silent t) x)).trail ∧
        ∃ f, (d.listen w t (runSource e (silent t) x)).answer = .error f) := by
    have hran : Trail.Probed [path] t (runSource e (silent t) x).trail ∨
        (Trail.Probed [] t (runSource e (silent t) x).trail ∧
          ∃ f, (runSource e (silent t) x).answer = .error f) :=
      probed_runSource (t := silent t) hsession hphase hinjected hplace
    rcases hran with hran | ⟨hran, f, hfails⟩
    · rcases probed_listen (w := w) (d := d) hran with hall | ⟨⟨asked, hprefix, hasked⟩, hf⟩
      · exact .inl hall
      · obtain rfl | rfl : asked = [] ∨ asked = [path] := by
          simpa [List.prefix_cons_iff] using hprefix
        · exact .inr ⟨hasked, hf⟩
        · exact .inl hasked
    · rcases probed_listen (w := w) (d := d) hran with hall | ⟨⟨asked, hprefix, hasked⟩, hf⟩
      · refine .inr ⟨hall, ?_⟩
        cases hanswer : (d.listen w t (runSource e (silent t) x)).answer with
        | error g => exact ⟨g, rfl⟩
        | ok result => cases hfails.symm.trans (answer_of_listen hanswer)
      · rw [List.prefix_nil.mp hprefix] at hasked
        exact .inr ⟨hasked, hf⟩
  rcases hasked with hasked | ⟨hasked, hf⟩
  · exact .inl (hasked.trans hended)
  · exact .inr ⟨hasked.trans hended, herror hf⟩

/-- A whole execution asks for the bundle once, unless it fails before that. -/
theorem probed_conduct {w : Surroundings} {r : Ready} {x : Execution} {path : String}
    (hnone : r.executor.session = none) (hfolders : r.executor.fileSystem.HasFolders)
    (hplace : ∀ calls, r.executor.BundleAt calls path x.source) :
    Trail.Probed [path] .empty (conduct w r x).trail ∨
      (Trail.Probed [] .empty (conduct w r x).trail ∧ ∃ o, (conduct w r x).task = .error o) := by
  obtain ⟨g, hfounding⟩ := Executor.founding_of_folders hnone hfolders x.references
  have hopening := probed_opening w r x
  cases htask : (r.opening w x).task with
  | error o =>
      have htrail : (conduct w r x).trail = (r.opening w x).trail := (andThen_of_error htask _).1
      refine .inr ⟨htrail ▸ hopening, o, ?_⟩
      change ((r.opening w x).andThen _).task = _
      rw [Course.andThen, htask]
  | ok started =>
      obtain ⟨d, e⟩ := started
      obtain ⟨s, rfl, hopened⟩ := opened_of_task hfounding htask
      have hsources : g.toSources = r.executor.toSources := (Executor.founding_frame hfounding).2.1
      have hplace' : Executor.BundleAt { g with session := some s } (r.opening w x).trail.calls
          path x.source := (hplace _).of_sources hsources
      have htrail : (conduct w r x).trail =
          (executeSource w d { g with session := some s } (r.opening w x).trail x).trail := by
        refine (andThen_of_ok htask _).2.1.trans ?_
        cases hran : (executeSource w d { g with session := some s }
            (r.opening w x).trail x).task with
        | error o => exact (andThen_of_error hran _).1
        | ok a => exact (andThen_of_ok hran _).2.1.trans (trail_report w x a.1 a.2 _)
      rw [htrail]
      rcases probed_executeSource (w := w) (d := d) rfl hopened.phase hopened.injected hplace' with
        hasked | ⟨hasked, o, hfails⟩
      · exact .inl (hopening.trans hasked)
      · refine .inr ⟨hopening.trans hasked, ?_⟩
        cases hconduct : (conduct w r x).task with
        | error o => exact ⟨o, rfl⟩
        | ok a =>
            obtain ⟨⟨d', e'⟩, htask', hlater⟩ := task_of_andThen hconduct
            cases htask.symm.trans htask'
            obtain ⟨⟨d'', result⟩, hran, -⟩ := task_of_andThen hlater
            cases hfails.symm.trans hran

end Command

end ScriptHost
