import ScriptHost.Proofs.Command.Release

/-!
# Executors that plan

With the engine and the pre-processor that come with the host, an execution is planned: the engine
answers with what it was handed.  The plan is a function of the configuration, of the command line,
of the packs, and of what is on the disk once the log is set up.  The references begin with those of
every execution with the configuration; behind them enter the ones that the command line asks for,
unless they are reserved or there already.

## Main results

* `executor_of_defaults` — the executor of a configuration that names the engine and the
  pre-processor of the host.
* `answer_of_planner` — what executing a script in it answers.
-/

namespace ScriptHost

namespace Command

open Sequence (distinct distinctFrom)

/-! ## What is planned -/

/-- The references that every execution with a configuration begins with. -/
def startReferences (home : String) (c : Configuration) : List String :=
  distinct (ReferenceSet.builtIn home ++ c.execution.references)

/-- The namespaces that are open in every execution with a configuration. -/
def startNamespaces (c : Configuration) : List String :=
  distinct (NamespaceSet.builtIn ++ c.execution.namespaces)

/-- The directory in which a configuration has scripts executed: the one that it names, or the
current one if that is still there. -/
def workplace (c : Configuration) (d : Disk) : Except Failure String := do
  let folders ← c.folders.pinned d
  match folders.currentDirectory with
  | some path => .ok path
  | none => d.here.mapError .raised

/-- A script as it was found. -/
structure Found where
  text : String
  /-- The directory in which its library is looked for. -/
  directory : String
  /-- The name that the engine is told; a script given as text has none. -/
  fileName : Option String

/-- Where a path leads, seen from a directory. -/
def seenFrom (here path : String) : String :=
  if Path.isAbsoluteText path then path else Path.joinText here path

/-- Finds the script of an execution on a disk, seen from a directory. -/
def Source.find (d : Disk) (here : String) : Source → Except Failure Found
  | .file path =>
    (d.textOf (seenFrom here path)).map fun text =>
      ⟨text, (Path.ofString (seenFrom here path)).parent.toString,
        some (Path.ofString (seenFrom here path)).name⟩
  | .text code => .ok ⟨code, here, none⟩

/-- Where the bundle is expected for scripts in a directory. -/
def bundlePath (c : Configuration) (directory : String) : String :=
  Path.joinText (Path.joinText directory c.folders.packagesFolder) c.library.fileName

/-- The text of a file, if the file is there. -/
def textIfThere (d : Disk) (path : String) : Except Failure (Option String) :=
  match d.isFile path with
  | .error f => .error f
  | .ok false => .ok none
  | .ok true => (d.textOf path).map some

/-- The text of the bundle for scripts in a directory, if it is there. -/
def bundleIn (d : Disk) (c : Configuration) (directory : String) :
    Except Failure (Option String) :=
  textIfThere d (bundlePath c directory)

/-- The text of a script with the bundle, if there is one, on lines of its own in front of it. -/
def codeBehind : Option String → String → String
  | none, text => text
  | some bundle, text => bundle ++ "\n" ++ text

/-- The plan of an execution, from the configuration, the directory, the packs, the command line,
and the script and the bundle as they were found. -/
def expectedPlan (home : String) (c : Configuration) (here : String) (packs : List Pack)
    (x : Execution) (found : Found) (bundle : Option String) : Plan where
  fileName := found.fileName
  baseDirectory := some (Path.joinText here c.folders.binFolder)
  cacheDirectory := some (Path.joinText here c.folders.cacheFolder)
  code := codeBehind bundle found.text
  arguments := x.arguments
  references := startReferences home c ++
    distinctFrom id (startReferences home c) (ReferenceSet.addable x.references)
  moduleReferences := []
  namespaces := startNamespaces c
  packReferences := Session.packReferences packs
  packNamespaces := Session.packNamespaces packs

/-! ## Executors that plan -/

/-- Whether a configuration names the engine that plans and the pre-processor that hands source over
unchanged. -/
structure UsesDefaults (w : Surroundings) (c : Configuration) : Prop where
  engine : Plugin.loadEngineClass w.catalogue c.execution.engine = .ok (.ok .dryRun)
  preProcessor : Plugin.loadPreProcessorClass w.catalogue c.execution.preProcessor =
    .ok (.ok .passthrough)

/-- Where nothing that comes with the host was replaced, the names that a configuration has by
itself are those of the engine that plans and of the pre-processor that hands source over unchanged.
-/
theorem usesDefaults_of_names {w : Surroundings} {c : Configuration} (h : w.catalogue.HasBuiltIn)
    (hengine : c.execution.engine = "scriptcore.hosting.engine:DryRunEngine")
    (hpp : c.execution.preProcessor = "scriptcore.hosting.preprocessor:PassthroughPreProcessor") :
    UsesDefaults w c := by
  constructor
  · rw [hengine]
    exact Plugin.loadEngineClass_default h
  · rw [hpp]
    exact Plugin.loadPreProcessorClass_default h

/-- The folders of a configuration, seen from a directory. -/
def pinnedTo (c : Configuration) (here : String) : FolderSettings :=
  { c.folders with currentDirectory := some here }

/-- The executor of a configuration that uses the defaults, in a directory. -/
def planner (home : String) (c : Configuration) (d : Disk) (here : String) : Executor where
  fileSystem := d.fileSystem (pinnedTo c here)
  preProcessor := .passthrough
  libraryFile := c.library.fileName
  pool := []
  engine := .dryRun
  desk := .bare
  references := .ofDefaults (ReferenceSet.builtIn home ++ c.execution.references)
  namespaces := .ofDefaults (NamespaceSet.builtIn ++ c.execution.namespaces)
  session := none

/-- Pinning makes the working directory absolute, and leaves the other folders as they are. -/
theorem pinned_folders {s folders : FolderSettings} {d : Disk} (h : s.pinned d = .ok folders) :
    folders = { s with currentDirectory := folders.currentDirectory } := by
  unfold FolderSettings.pinned at h
  split at h
  · cases h
    rfl
  · next path hpath =>
    cases hresolved : d.resolved path with
    | error f =>
        rw [hresolved] at h
        cases h
    | ok p =>
        rw [hresolved] at h
        cases h
        rfl

/-- The file system of a configuration says that it is in the directory in which scripts are
executed. -/
theorem currentDirectory_of_pinned {c : Configuration} {d : Disk} {folders : FolderSettings}
    (h : c.folders.pinned d = .ok folders) (calls : List Call) :
    ((d.fileSystem folders).currentDirectory calls).mapError Failure.raised =
      (workplace c d).map some := by
  rw [workplace, h]
  change _ = Except.map some (match folders.currentDirectory with
    | some path => .ok path
    | none => d.here.mapError Failure.raised)
  simp only [Disk.fileSystem]
  cases folders.currentDirectory with
  | some path => rfl
  | none =>
      cases d.here with
      | error fault => rfl
      | ok here => rfl

/-- The file system of a configuration is the disk, seen from the directory in which scripts are
executed. -/
theorem fileSystem_of_pinned {c : Configuration} {d : Disk} {folders : FolderSettings}
    {here : String} (h : c.folders.pinned d = .ok folders) (hhere : workplace c d = .ok here) :
    d.fileSystem folders = d.fileSystem (pinnedTo c here) := by
  have hcurrent : (d.fileSystem folders).currentDirectory = fun _ => .ok (some here) := by
    funext calls
    have hread := currentDirectory_of_pinned h calls
    rw [hhere] at hread
    cases hplace : (d.fileSystem folders).currentDirectory calls with
    | error fault =>
        rw [hplace] at hread
        cases hread
    | ok place =>
        rw [hplace] at hread
        cases hread
        rfl
  have hfolders := pinned_folders h
  have hsplit : d.fileSystem folders = { d.fileSystem { c.folders with
      currentDirectory := folders.currentDirectory } with
        currentDirectory := (d.fileSystem folders).currentDirectory } := by
    rw [← hfolders]
  rw [hsplit, hcurrent]
  rfl

/-- Where an executor can tell its folders, its configuration has a directory in which scripts are
executed. -/
theorem workplace_of_folders {w : Surroundings} {d : Disk} {c : Configuration} {e : Executor}
    (h : executor w d c = .ok e) (hfolders : e.fileSystem.HasFolders) :
    ∃ here, workplace c d = .ok here := by
  obtain ⟨folders, hpinned, hof⟩ := executor_eq_ok h
  obtain ⟨engine, pp, -, -, hnew⟩ := Executor.ofConfiguration_eq_ok hof
  obtain ⟨fs, hfs, heq⟩ := Executor.new_eq hnew
  cases hfs
  obtain ⟨current, -, -, hcurrent, -⟩ := hfolders
  have hread := currentDirectory_of_pinned hpinned []
  rw [heq] at hcurrent
  rw [hcurrent] at hread
  obtain ⟨here, hhere, -⟩ := exists_of_map_ok hread.symm
  exact ⟨here, hhere⟩

theorem executor_of_defaults {w : Surroundings} {d : Disk} {c : Configuration} {e : Executor}
    {here : String} (hdefaults : UsesDefaults w c) (h : executor w d c = .ok e)
    (hhere : workplace c d = .ok here) : e = planner w.home c d here := by
  obtain ⟨folders, hpinned, hof⟩ := executor_eq_ok h
  obtain ⟨engine, pp, hengine, hpp, hnew⟩ := Executor.ofConfiguration_eq_ok hof
  cases hengine.symm.trans hdefaults.engine
  cases hpp.symm.trans hdefaults.preProcessor
  obtain ⟨fs, hfs, heq⟩ := Executor.new_eq hnew
  cases hfs
  rw [heq, fileSystem_of_pinned hpinned hhere]
  rfl

/-- The executor once its session has started. -/
def staged (home : String) (c : Configuration) (d : Disk) (here : String) (x : Execution)
    (s : Session) : Executor :=
  { planner home c d here with
    references := (planner home c d here).references.addPaths x.references
    desk := ⟨some (Path.joinText here c.folders.binFolder),
      some (Path.joinText here c.folders.cacheFolder), none⟩
    session := some s }

theorem founding_planner (home : String) (c : Configuration) (d : Disk) (here : String)
    (x : Execution) :
    ∃ g, (planner home c d here).founding [] (.list x.references) = .ok g ∧
      ∀ s, { g with session := some s } = staged home c d here x s := by
  have hbase : FileSystem.join ((planner home c d here).fileSystem.currentDirectory [])
      (planner home c d here).fileSystem.binFolder =
        .ok (Path.joinText here c.folders.binFolder) := rfl
  have hcache : FileSystem.join ((planner home c d here).fileSystem.currentDirectory [])
      (planner home c d here).fileSystem.cacheFolder =
        .ok (Path.joinText here c.folders.cacheFolder) := rfl
  exact ⟨_, Executor.founding_list rfl hbase hcache x.references, fun s => rfl⟩

/-! ## Executing a script in them -/

/-- The operation that executes a script. -/
def Source.operation (arguments : List String) : Source → Executor.Operation
  | .file path => .execute path arguments
  | .text code => .executeText code arguments

theorem perform_operation (e : Executor) (t : Trail) (x : Execution) :
    e.perform t (x.source.operation x.arguments) = (runSource e t x).map some := by
  unfold runSource
  cases x.source with
  | file path => rfl
  | text code => rfl

/-- What a script comes to when it is handed over unchanged. -/
def unchanged (text : String) (loadPaths : List String) : Handout :=
  ⟨{ Preprocessed.plain text with loadPaths := loadPaths }, none⟩

/-- Over a disk, the text of a file is handed over unchanged if it can be read. -/
theorem ofFile_passthrough (d : Disk) (folders : FolderSettings) (calls : List Call)
    (path : String) :
    PreProcessor.passthrough.ofFile (d.fileSystem folders) calls path =
      (d.textOf path).map fun text => unchanged text [path] := by
  have htext : (d.fileSystem folders).fileText calls path = d.textOf path := rfl
  simp only [PreProcessor.passthrough, htext]
  cases d.textOf path with
  | error f => rfl
  | ok text => rfl

variable {home : String} {c : Configuration} {d : Disk} {here : String} {x : Execution}
  {s : Session}

theorem scriptPath_staged (calls : List Call) (path : String) :
    (staged home c d here x s).scriptPath calls path = .ok (seenFrom here path) := by
  unfold Executor.scriptPath seenFrom
  split
  · rfl
  · rfl

/-- The preparation of a script that was found. -/
def readied (s : Session) (x : Execution) (found : Found) (loadPaths : List String) (t : Trail) :
    Executor.Prepared :=
  ⟨s, unchanged found.text loadPaths, some found.directory, found.fileName, x.arguments, t⟩

/-- A script that is found is prepared as it stands. -/
theorem prepare_of_found {found : Found} (hphase : s.phase = .started)
    (hfound : x.source.find d here = .ok found) (t : Trail) :
    ∃ loadPaths t', (staged home c d here x s).prepare t (x.source.operation x.arguments) =
      some (readied s x found loadPaths t') := by
  have hlive : (staged home c d here x s).liveSession = .ok s :=
    Executor.liveSession_eq_ok_iff.mpr ⟨rfl, hphase⟩
  cases hsource : x.source with
  | file path =>
      rw [hsource] at hfound
      simp only [Source.find] at hfound
      cases htext : d.textOf (seenFrom here path) with
      | error f =>
          rw [htext] at hfound
          cases hfound
      | ok text =>
          rw [htext] at hfound
          cases hfound
          have hanswer : (staged home c d here x s).preProcessor.ofFile
              (staged home c d here x s).fileSystem t.calls (seenFrom here path) =
                .ok (unchanged text [seenFrom here path]) := by
            refine (ofFile_passthrough d (pinnedTo c here) t.calls _).trans ?_
            rw [htext]
            rfl
          refine ⟨[seenFrom here path], t.call (.processFile (seenFrom here path)), ?_⟩
          simp only [Source.operation, Executor.prepare, hlive, scriptPath_staged, hanswer]
          rfl
  | text code =>
      rw [hsource] at hfound
      cases hfound
      refine ⟨[], t.call (.processText code), ?_⟩
      simp only [Source.operation, Executor.prepare, hlive]
      rfl

/-- A script that is not found cannot be pre-processed. -/
theorem fails_of_not_found {f : Failure} (hfound : x.source.find d here = .error f) (t : Trail) :
    (staged home c d here x s).ScriptFails t (x.source.operation x.arguments) f := by
  cases hsource : x.source with
  | file path =>
      rw [hsource] at hfound
      simp only [Source.find] at hfound
      cases htext : d.textOf (seenFrom here path) with
      | ok text =>
          rw [htext] at hfound
          cases hfound
      | error g =>
          rw [htext] at hfound
          cases hfound
          refine .inr ⟨seenFrom here path, scriptPath_staged t.calls path, ?_⟩
          refine (ofFile_passthrough d (pinnedTo c here) t.calls _).trans ?_
          rw [htext]
          rfl
  | text code =>
      rw [hsource] at hfound
      cases hfound

/-- Over a disk, the bundle is handed over unchanged as well, if it is there. -/
theorem lookup_passthrough {src : Sources} {folders : FolderSettings} {directory path : String}
    (hpath : src.libraryPath (some directory) = .ok path)
    (hfs : src.fileSystem = d.fileSystem folders) (hpp : src.preProcessor = .passthrough)
    (calls : List Call) :
    src.lookup calls (some directory) =
      (textIfThere d path).map fun there => there.map fun text => unchanged text [path] := by
  have hexists : src.fileSystem.fileExists calls path = d.isFile path := by
    rw [hfs]
    rfl
  have hanswer : src.preProcessor.ofFile src.fileSystem (.probe path :: calls) path =
      (d.textOf path).map fun text => unchanged text [path] := by
    rw [hpp, hfs]
    exact ofFile_passthrough d folders _ path
  unfold Sources.lookup textIfThere
  simp only [hpath, hexists, hanswer]
  cases d.isFile path with
  | error f => rfl
  | ok there =>
      cases there with
      | false => rfl
      | true =>
          cases d.textOf path with
          | error f => rfl
          | ok text => rfl

theorem lookup_staged (found : Found) (loadPaths : List String) (t : Trail) :
    (staged home c d here x s).lookup (readied s x found loadPaths t) =
      (bundleIn d c found.directory).map fun bundle =>
        bundle.map fun text => unchanged text [bundlePath c found.directory] := by
  have hpath : (staged home c d here x s).toSources.libraryPath (some found.directory) =
      .ok (bundlePath c found.directory) := rfl
  have hfs : (staged home c d here x s).toSources.fileSystem = d.fileSystem (pinnedTo c here) := rfl
  exact lookup_passthrough hpath hfs rfl t.calls

/-- The plan of a script with a live session, which shows what its packs contributed. -/
def sessionPlan (home : String) (c : Configuration) (here : String) (s : Session) (x : Execution)
    (found : Found) (bundle : Option String) : Plan :=
  { expectedPlan home c here [] x found bundle with
    packReferences := s.references
    packNamespaces := s.namespaces }

theorem paths_staged : ((staged home c d here x s).references.merge []).paths.toList =
    startReferences home c ++
      distinctFrom id (startReferences home c) (ReferenceSet.addable x.references) := by
  have hdefaults : (planner home c d here).references.paths.toList = startReferences home c :=
    Sequence.OrderedSet.toList_ofList _
  have hadded := Sequence.OrderedSet.toList_insertAll (planner home c d here).references.paths
    (ReferenceSet.addable x.references)
  rw [hdefaults] at hadded
  exact hadded

theorem names_staged : (staged home c d here x s).namespaces.union [] = startNamespaces c := by
  rw [NamespaceSet.union, List.append_nil]
  rfl

/-- A script that declares nothing is planned in the environment of the executor. -/
theorem plan_staged (found : Found) (bundle : Option String) (loadPaths : List String) :
    ((Executor.Composed.mk
      { staged home c d here x s with
        desk := { (staged home c d here x s).desk with fileName := found.fileName.or none }
        session := some (Splice.marked s) }
      (Splice.marked s) (unchanged (codeBehind bundle found.text) loadPaths).content).submission
        x.arguments).plan = sessionPlan home c here s x found bundle := by
  have hplan : ((Executor.Composed.mk
      { staged home c d here x s with
        desk := { (staged home c d here x s).desk with fileName := found.fileName.or none }
        session := some (Splice.marked s) }
      (Splice.marked s) (unchanged (codeBehind bundle found.text) loadPaths).content).submission
        x.arguments).plan =
      { sessionPlan home c here s x found bundle with
        fileName := found.fileName.or none
        references := ((staged home c d here x s).references.merge []).paths.toList
        namespaces := (staged home c d here x s).namespaces.union [] } := rfl
  rw [hplan, paths_staged, names_staged, Option.or_none]
  rfl

/-- The script is composed with the bundle, if it is there, and planned. -/
theorem compose_staged {found : Found} {bundle : Option String} (hinjected : s.injected = false)
    (hbundle : bundleIn d c found.directory = .ok bundle) (loadPaths : List String) (t : Trail) :
    ∃ composed, (staged home c d here x s).compose (readied s x found loadPaths t) = .ok composed ∧
      (composed.submission x.arguments).plan = sessionPlan home c here s x found bundle := by
  have hlookup : (staged home c d here x s).lookup (readied s x found loadPaths t) =
      .ok (bundle.map fun text => unchanged text [bundlePath c found.directory]) := by
    rw [lookup_staged, hbundle]
    rfl
  cases bundle with
  | none => exact ⟨_, Executor.compose_of_no_bundle hinjected hlookup, plan_staged found none _⟩
  | some text =>
      exact ⟨_, Executor.compose_of_bundle hinjected hlookup, plan_staged found (some text) _⟩

theorem eq_of_map_some {α : Type} {a b : Except Failure α} (h : a.map some = b.map some) :
    a = b := by
  cases a with
  | error f =>
      cases b with
      | error g =>
          cases h
          rfl
      | ok v => cases h
  | ok u =>
      cases b with
      | error g => cases h
      | ok v =>
          cases h
          rfl

/-- The first script of a session is found, the bundle is looked for, and the engine answers the
plan; the first failure on the way comes out. -/
theorem answer_of_planner (hphase : s.phase = .started) (hinjected : s.injected = false)
    (t : Trail) :
    (runSource (staged home c d here x s) t x).answer = (x.source.find d here).bind fun found =>
      (bundleIn d c found.directory).map fun bundle =>
        .returning (.plan (sessionPlan home c here s x found bundle)) := by
  have hlive : (staged home c d here x s).liveSession = .ok s :=
    Executor.liveSession_eq_ok_iff.mpr ⟨rfl, hphase⟩
  have hrun : ((staged home c d here x s).perform t (x.source.operation x.arguments)).answer =
      (runSource (staged home c d here x s) t x).answer.map some := by
    rw [perform_operation]
    rfl
  apply eq_of_map_some
  rw [← hrun]
  cases hfound : x.source.find d here with
  | error f => exact (Executor.perform_of_scriptFails hlive (fails_of_not_found hfound t)).1
  | ok found =>
      obtain ⟨loadPaths, t', hprepared⟩ := prepare_of_found hphase hfound t
      change _ = ((bundleIn d c found.directory).map fun bundle =>
        ScriptResult.returning (.plan (sessionPlan home c here s x found bundle))).map some
      cases hbundle : bundleIn d c found.directory with
      | error f =>
          have hlookup : (staged home c d here x s).lookup (readied s x found loadPaths t') =
              .error f := by
            rw [lookup_staged, hbundle]
            rfl
          have hcompose := Executor.compose_of_lookup_error hinjected hlookup
          obtain ⟨t'', -, heq⟩ := Executor.perform_of_search hprepared
          rw [heq, hcompose]
          rfl
      | ok bundle =>
          obtain ⟨composed, hcompose, hplan⟩ := compose_staged hinjected hbundle loadPaths t'
          rw [(Executor.perform_of_composed hprepared hcompose).1, Except.map, ← hplan]
          rfl

end Command

end ScriptHost
