import ScriptHost.Proofs.Executor.Submission

/-!
# The file that the engine believes to run

An engine is told a file name in the middle of an execution: when the file of the script is
pre-processed, and before the bundle is looked for.  Nothing else tells it one, and nothing takes
the name back.  So it outlives sessions and resets, a script that is given as text runs under the
name of the last file, and an execution that fails later on, in looking for the bundle or in the
engine, leaves its name behind all the same.

The file, the name and the folder of the bundle all come from one path: the script itself if it is
absolute, and else what lies under this name in the directory that is current at the moment.

## Main results

* `scriptPath_eq_ok_iff` — where a script is found.
* `fileName_of_fileProcessed`, `fileName_of_not_fileProcessed` — what one turn does to the name.
* `fileName_law` — the law of a whole run, of any executor.
-/

namespace ScriptHost

namespace Sources

/-- The bundle is looked for in the packages folder of the directory, and nowhere else. -/
theorem mem_lookupCalls {src : Sources} {calls : List Call} {directory : String} {c : Call}
    (h : c ∈ src.lookupCalls calls (some directory)) :
    ∃ packages bundle, src.fileSystem.packagesFolder = .ok (some packages) ∧
      bundle = Path.joinText (Path.joinText directory packages) src.libraryFile ∧
      (c = .probe bundle ∨ c = .processFile bundle) := by
  unfold lookupCalls libraryPath at h
  cases hjoin : FileSystem.join (.ok (some directory)) src.fileSystem.packagesFolder with
  | error f =>
      rw [hjoin] at h
      cases h
  | ok folder =>
      obtain ⟨_, packages, hdirectory, hpackages, rfl⟩ := FileSystem.join_eq_ok hjoin
      cases hdirectory
      simp only [hjoin] at h
      refine ⟨packages, _, hpackages, rfl, ?_⟩
      split at h
      · simpa using h
      · exact .inl (by simpa using h)

end Sources

namespace Executor

/-! ## Where a script is found -/

/-- The path at which a script is found in a file system, given the calls made before: the script
itself if it is absolute, and else what lies under it in the current directory. -/
inductive ScriptAt (fs : FileSystem) (calls : List Call) (script : String) : String → Prop where
  | absolute (h : Path.isAbsoluteText script = true) : ScriptAt fs calls script script
  | relative {directory : String} (h : Path.isAbsoluteText script = false)
      (current : fs.currentDirectory calls = .ok (some directory)) :
      ScriptAt fs calls script (Path.joinText directory script)

theorem scriptPath_eq_ok_iff {e : Executor} {calls : List Call} {script path : String} :
    e.scriptPath calls script = .ok path ↔ ScriptAt e.fileSystem calls script path := by
  unfold scriptPath
  cases habsolute : Path.isAbsoluteText script with
  | true =>
      rw [if_pos rfl, Except.ok.injEq]
      constructor
      · rintro rfl
        exact .absolute habsolute
      · rintro (_ | ⟨h, -⟩)
        · rfl
        · rw [habsolute] at h
          cases h
  | false =>
      rw [if_neg Bool.false_ne_true]
      constructor
      · intro h
        obtain ⟨directory, more, hcurrent, hscript, rfl⟩ := FileSystem.join_eq_ok h
        cases hscript
        exact .relative habsolute hcurrent
      · rintro (h | ⟨-, hcurrent⟩)
        · rw [habsolute] at h
          cases h
        · rw [hcurrent]
          rfl

/-! ## Turns that tell a name -/

/-- Whether a turn executes a script that is found at a path, in a live session, and the
pre-processor answers for the file there. -/
def FileProcessed (x : Turn Executor Operation) (path : String) : Prop :=
  ∃ script arguments session handout, x.operation = .execute script arguments ∧
    x.state.liveSession = .ok session ∧ ScriptAt x.state.fileSystem x.trail.calls script path ∧
    x.state.preProcessor.ofFile x.state.fileSystem x.trail.calls path = .ok handout

/-- Such a turn is a prepared execution: the folder of the bundle and the name are those of the
path. -/
theorem prepared_of_fileProcessed {x : Turn Executor Operation} {path : String}
    (h : FileProcessed x path) :
    ∃ p, x.state.prepare x.trail x.operation = some p ∧
      x.state.liveSession = .ok p.session ∧
      p.directory = some (Path.ofString path).parent.toString ∧
      p.fileName = some (Path.ofString path).name ∧
      p.trail = x.trail.call (.processFile path) ∧
      x.state.scriptCalls x.trail.calls x.operation = [.processFile path] := by
  obtain ⟨script, arguments, session, handout, hop, hlive, hat, hanswer⟩ := h
  have hpath := scriptPath_eq_ok_iff.mpr hat
  refine ⟨⟨session, handout, _, _, arguments, x.trail.call (.processFile path)⟩, ?_, hlive, rfl,
    rfl, rfl, ?_⟩
  · simp only [prepare, hop, hlive, hpath, hanswer]
  · simp only [scriptCalls, hop, hpath]

/-- The name that a prepared execution tells is that of a file. -/
theorem fileProcessed_of_prepared {x : Turn Executor Operation} {p : Prepared} {name : String}
    (h : x.state.prepare x.trail x.operation = some p) (hname : p.fileName = some name) :
    ∃ path, FileProcessed x path := by
  obtain ⟨hlive, hcases⟩ := prepare_cases h
  rcases hcases with ⟨script, path, hop, hpath, hanswer, -⟩ | ⟨text, -, -, -, hp⟩
  · exact ⟨path, script, p.arguments, p.session, p.script, hop, hlive,
      scriptPath_eq_ok_iff.mp hpath, hanswer⟩
  · rw [hp] at hname
    cases hname

/-- The engine is told the name of a file as soon as it is pre-processed, however the execution
ends. -/
theorem fileName_of_fileProcessed {x : Turn Executor Operation} {path : String}
    (h : FileProcessed x path) :
    (x.step perform).state.desk.fileName = some (Path.ofString path).name := by
  obtain ⟨p, hp, -, -, hname, -, -⟩ := prepared_of_fileProcessed h
  have hstep := fileName_perform x.state x.trail x.operation
  rw [hp, Option.bind_some, hname] at hstep
  exact hstep

/-- No other turn changes the name. -/
theorem fileName_of_not_fileProcessed {x : Turn Executor Operation}
    (h : ∀ path, ¬ FileProcessed x path) :
    (x.step perform).state.desk.fileName = x.state.desk.fileName := by
  have hnone : (x.state.prepare x.trail x.operation).bind Prepared.fileName = none := by
    rw [Option.bind_eq_none_iff]
    intro p hp
    cases hname : p.fileName with
    | none => rfl
    | some name =>
        obtain ⟨path, hprocessed⟩ := fileProcessed_of_prepared hp hname
        exact absurd hprocessed (h path)
  have hstep := fileName_perform x.state x.trail x.operation
  rw [hnone] at hstep
  exact hstep

/-- The engine receives a script under the name that its turn leaves. -/
theorem fileName_of_submitted {x : Turn Executor Operation} {sub : Submission}
    (h : sub ∈ submitted x) : sub.desk.fileName = (x.step perform).state.desk.fileName := by
  obtain ⟨p, c, hp, hc, -, rfl⟩ := composed_of_submitted h
  have hstate : (x.step perform).state = c.merged := (perform_of_composed hp hc).2.1
  rw [hstate]
  rfl

/-! ## The journal of a file -/

/-- A prepared execution has its script pre-processed, looks for the bundle if it is due, and may
call the engine. -/
theorem calls_of_prepared {e : Executor} {t : Trail} {op : Operation} {p : Prepared}
    (h : e.prepare t op = some p) :
    (e.perform t op).trail.callsSince t =
      e.scriptCalls t.calls op ++ (e.searchCalls p ++ (submitted ⟨e, t, op⟩).map .execute) := by
  obtain ⟨-, -, hscript, -⟩ := perform_eq_run h
  cases hc : e.compose p with
  | error f =>
      obtain ⟨u, hsearch, heq⟩ := perform_of_search h
      obtain ⟨cs, hmade, hcs⟩ := received_of_prepared h
      have hnone : submitted ⟨e, t, op⟩ = [] := by rw [submitted_of_made hmade, hcs, hc]
      have hend : (e.perform t op).trail = u := by
        rw [heq, hc]
        rfl
      rw [hend, hnone, List.map_nil, List.append_nil]
      exact (hscript.trans hsearch).callsSince
  | ok c =>
      obtain ⟨-, -, hsearch⟩ := perform_of_composed h hc
      rw [(submitted_of_composed h hc).1]
      exact (hscript.trans hsearch).callsSince

/-- A live execution of a script whose path can be told asks the pre-processor for the file at that
path, before anything else. -/
theorem calls_of_scriptAt {x : Turn Executor Operation} {script path : String}
    {arguments : List String} {session : Session} (hop : x.operation = .execute script arguments)
    (hlive : x.state.liveSession = .ok session)
    (hat : ScriptAt x.state.fileSystem x.trail.calls script path) :
    ∃ rest, (x.step perform).trail.callsSince x.trail = .processFile path :: rest := by
  obtain ⟨e, t, op⟩ := x
  obtain rfl : op = .execute script arguments := hop
  have hpath : e.scriptPath t.calls script = .ok path := scriptPath_eq_ok_iff.mpr hat
  have hscript : e.scriptCalls t.calls (.execute script arguments) = [.processFile path] := by
    rw [scriptCalls, hpath]
  cases hp : e.prepare t (.execute script arguments) with
  | none =>
      rcases fails_of_not_prepared rfl hlive hp with ⟨f, hfails⟩ | ⟨answer, fault, hstray⟩
      · obtain ⟨-, -, hmade⟩ := perform_of_scriptFails hlive hfails
        rw [hscript] at hmade
        exact ⟨[], hmade.callsSince⟩
      · cases hstray
  | some p =>
      have hcalls := calls_of_prepared hp
      rw [hscript] at hcalls
      exact ⟨_, hcalls⟩

/-- Once the file is pre-processed the bundle is looked for next to it, if it is due, and the engine
may have the last call. -/
theorem calls_of_fileProcessed {x : Turn Executor Operation} {path : String}
    (h : FileProcessed x path) :
    ∃ session, x.state.liveSession = .ok session ∧
      (x.step perform).trail.callsSince x.trail = .processFile path ::
        ((if session.injected then []
          else x.state.toSources.lookupCalls (.processFile path :: x.trail.calls)
            (some (Path.ofString path).parent.toString)) ++
        (submitted x).map .execute) := by
  obtain ⟨p, hp, hlive, hdirectory, -, htrail, hscript⟩ := prepared_of_fileProcessed h
  have hcalls := calls_of_prepared hp
  rw [hscript, searchCalls, hdirectory, htrail] at hcalls
  exact ⟨p.session, hlive, hcalls⟩

/-! ## The law of a run -/

/-- A run in which no file is pre-processed leaves the name as it was. -/
theorem fileName_of_run {e : Executor} {t : Trail} {ops : List Operation}
    (h : ∀ x ∈ turns perform e t ops, ∀ path, ¬ FileProcessed x path) :
    (finish perform e t ops).1.desk.fileName = e.desk.fileName := by
  have hstep : ∀ (past : List (Turn Executor Operation)) (s : Executor) (u : Trail)
      (op : Operation),
      ((∀ x ∈ past, ∀ path, ¬ FileProcessed x path) → s.desk.fileName = e.desk.fileName) →
      (∀ x ∈ past ++ [⟨s, u, op⟩], ∀ path, ¬ FileProcessed x path) →
      (s.perform u op).state.desk.fileName = e.desk.fileName := by
    intro past s u op ih hall
    have hpast := ih fun x hx => hall x (List.mem_append_left _ hx)
    have hlast := fileName_of_not_fileProcessed (hall ⟨s, u, op⟩ (by simp))
    exact hlast.trans hpast
  exact past_invariant_finish perform (P := fun past s _ =>
    (∀ x ∈ past, ∀ path, ¬ FileProcessed x path) → s.desk.fileName = e.desk.fileName)
    hstep (fun _ => rfl) ops h

/-- The law of the file name of a run, and of the executor at its end. -/
structure FileNameLaw (initial : Option String) (xs : List (Turn Executor Operation))
    (e : Executor) : Prop where
  /-- The name is that of the last file that was pre-processed as a script. -/
  latest : ∀ before x after path, xs = before ++ x :: after → FileProcessed x path →
    (∀ y ∈ after, ∀ q, ¬ FileProcessed y q) →
    e.desk.fileName = some (Path.ofString path).name
  /-- If there was none it is the initial one. -/
  untold : (∀ x ∈ xs, ∀ path, ¬ FileProcessed x path) → e.desk.fileName = initial
  /-- It is set in the turn of the file, however the turn ends, -/
  told : ∀ x ∈ xs, ∀ path, FileProcessed x path →
    (x.step perform).state.desk.fileName = some (Path.ofString path).name
  /-- and in no other. -/
  kept : ∀ x ∈ xs, (∀ path, ¬ FileProcessed x path) →
    (x.step perform).state.desk.fileName = x.state.desk.fileName
  /-- The engine receives every script, a text as well, under the name that stands then. -/
  received : ∀ x ∈ xs, ∀ sub ∈ submitted x,
    sub.desk.fileName = (x.step perform).state.desk.fileName
  /-- The pre-processor is given the path at which the script is found. -/
  given : ∀ x ∈ xs, ∀ script arguments session path, x.operation = .execute script arguments →
    x.state.liveSession = .ok session → ScriptAt x.state.fileSystem x.trail.calls script path →
    ∃ rest, (x.step perform).trail.callsSince x.trail = .processFile path :: rest
  /-- Then the bundle is looked for in the parent of this path, if it is due, and the engine may be
  called. -/
  journal : ∀ x ∈ xs, ∀ path, FileProcessed x path →
    ∃ session, x.state.liveSession = .ok session ∧
      (x.step perform).trail.callsSince x.trail = .processFile path ::
        ((if session.injected then []
          else x.state.toSources.lookupCalls (.processFile path :: x.trail.calls)
            (some (Path.ofString path).parent.toString)) ++
        (submitted x).map .execute)
  /-- So whatever the file system is asked for lies there. -/
  beside : ∀ x ∈ xs, ∀ path, FileProcessed x path →
    ∀ bundle, .probe bundle ∈ (x.step perform).trail.callsSince x.trail →
      ∃ packages, x.state.fileSystem.packagesFolder = .ok (some packages) ∧
        bundle = Path.joinText (Path.joinText (Path.ofString path).parent.toString packages)
          x.state.libraryFile

/-- Whatever its collaborators do, every run of an executor obeys the law of the file name. -/
theorem fileName_law (e : Executor) (t : Trail) (ops : List Operation) :
    FileNameLaw e.desk.fileName (turns perform e t ops) (finish perform e t ops).1 := by
  constructor
  case latest =>
    intro before x after path hcut hprocessed hafter
    obtain ⟨early, late, hops, -, hfinish, hlate⟩ := turns_eq_append_cons perform hcut
    have hend : (finish perform e t ops).1 =
        (finish perform (x.step perform).state (x.step perform).trail late).1 := by
      rw [hops, finish_append, hfinish]
      rfl
    -- The turns behind the last file are a run of their own, which begins with its name.
    rw [hend, fileName_of_run (hlate ▸ hafter), fileName_of_fileProcessed hprocessed]
  case untold => exact fun hnone => fileName_of_run hnone
  case told => exact fun x _ path h => fileName_of_fileProcessed h
  case kept => exact fun x _ h => fileName_of_not_fileProcessed h
  case received => exact fun x _ sub h => fileName_of_submitted h
  case given => exact fun x _ _ _ _ _ hop hlive hat => calls_of_scriptAt hop hlive hat
  case journal => exact fun x _ path h => calls_of_fileProcessed h
  case beside =>
    intro x _ path h bundle hprobe
    obtain ⟨session, -, hcalls⟩ := calls_of_fileProcessed h
    rw [hcalls, List.mem_cons, List.mem_append, List.mem_map] at hprobe
    rcases hprobe with hfile | hsearch | ⟨sub, -, hsub⟩
    · cases hfile
    · split at hsearch
      · cases hsearch
      · obtain ⟨packages, found, hpackages, rfl, hfound | hfound⟩ :=
          Sources.mem_lookupCalls hsearch
        · cases hfound
          exact ⟨packages, hpackages, rfl⟩
        · cases hfound
    · cases hsub

/-- After a file a text runs under its name, also in another session. -/
example : ((turns perform sample .empty
    [.start (.list []) [] [], .executeText "one();" [], .execute "packages/lib.csx" [], .stop,
      .start (.list []) [] [], .executeText "two();" []]).flatMap submitted).map
        (fun sub => sub.desk.fileName) = [none, some "lib.csx", some "lib.csx"] := by
  decide

end Executor

end ScriptHost
