import ScriptHost.Engine
import ScriptHost.Library
import ScriptHost.NamespaceSet

/-!
# The executor

The executor drives a script through its collaborators.  It pre-processes the source, splices
in the script library once per session, gathers the declared references, computes the
namespaces of the execution and hands everything to the engine.  References that a script
declares stay; the namespaces it declares are opened for its own execution only.

It owns one reference set and one namespace set for its whole life, and one session at a time.
A failure leaves the executor in the state in which it arose.

## Main results

* `start_of_active`, `execute_of_no_session`, `executeText_of_no_session` — operations that are
  refused change nothing.
-/

namespace ScriptHost

open Sequence (Supplied)

/-- An executor with its collaborators and everything it keeps. -/
structure Executor extends Sources where
  engine : Engine
  desk : Desk
  references : ReferenceSet
  namespaces : NamespaceSet
  session : Option Session

namespace Executor

/-- The name under which executors speak. -/
def logger : String := "scriptcore.core.executor"

/-- A folder that a file system must have. -/
def requireFolder (property : String) (folder : PlaceName) : Except Failure String :=
  match FileSystem.present folder with
  | .error f => .error f
  | .ok name => requireProperty "file_system" property name

/-- A new executor; it refuses a file system that is absent or lacks a folder it needs. -/
def new (fileSystem : Option FileSystem) (preProcessor : PreProcessor) (engine : Engine)
    (libraryFile : String) (references namespaces : List String) : Except Failure Executor :=
  match requireArgument "file_system" fileSystem with
  | .error f => .error f
  | .ok fs =>
    match requireFolder "bin_folder" fs.binFolder with
    | .error f => .error f
    | .ok _ =>
      match requireFolder "dll_cache_folder" fs.cacheFolder with
      | .error f => .error f
      | .ok _ =>
        .ok {
          fileSystem := fs
          preProcessor := preProcessor
          libraryFile := libraryFile
          pool := []
          engine := engine
          desk := .bare
          references := .ofDefaults references
          namespaces := .ofDefaults namespaces
          session := none }

/-! ## The environment -/

/-- An operation on the environment that takes a list argument. -/
def edit {α : Type} (e : Executor) (t : Trail) (name : String) (argument : Supplied α)
    (change : List α → Executor) (records : List α → List Log.Record) : Step Executor Unit :=
  match requireItems name argument with
  | .error f => .error f e t
  | .ok items => .ok () (change items) (t.logAll (records items))

/-- Opens namespaces for every execution. -/
def importNamespaces (e : Executor) (t : Trail) (names : Supplied String) : Step Executor Unit :=
  e.edit t "namespaces" names (fun ns => { e with namespaces := e.namespaces.add ns }) fun _ => []

/-- Closes namespaces. -/
def removeNamespaces (e : Executor) (t : Trail) (names : Supplied String) : Step Executor Unit :=
  e.edit t "namespaces" names (fun ns => { e with namespaces := e.namespaces.remove ns })
    fun _ => []

/-- Adds modules as references. -/
def addModules (e : Executor) (t : Trail) (modules : Supplied Module) : Step Executor Unit :=
  e.edit t "modules" modules (fun ms => { e with references := e.references.addModules ms })
    ReferenceSet.moduleRecords

/-- Removes modules from the references. -/
def removeModules (e : Executor) (t : Trail) (modules : Supplied Module) : Step Executor Unit :=
  e.edit t "modules" modules (fun ms => { e with references := e.references.removeModules ms })
    fun _ => []

/-- Adds paths as references. -/
def addPaths (e : Executor) (t : Trail) (paths : Supplied String) : Step Executor Unit :=
  e.edit t "paths" paths (fun ps => { e with references := e.references.addPaths ps })
    ReferenceSet.pathRecords

/-- Removes paths from the references. -/
def removePaths (e : Executor) (t : Trail) (paths : Supplied String) : Step Executor Unit :=
  e.edit t "paths" paths (fun ps => { e with references := e.references.removePaths ps })
    fun _ => []

/-! ## The life of a session -/

/-- Whether the session accepts executions. -/
def isActive (e : Executor) : Bool := e.session.any Session.isActive

/-- Points the engine at the two folders below the current directory, one after the other, given
the calls made before. -/
def pointEngine (e : Executor) (calls : List Call) : Executor × Option Failure :=
  let fs := e.fileSystem
  match FileSystem.join (fs.currentDirectory calls) fs.binFolder with
  | .error f => (e, some f)
  | .ok base =>
    let e := { e with desk := { e.desk with baseDirectory := some base } }
    match FileSystem.join (fs.currentDirectory calls) fs.cacheFolder with
    | .error f => (e, some f)
    | .ok cache => ({ e with desk := { e.desk with cacheDirectory := some cache } }, none)

/-- Starts a session: adds paths as references, points the engine at its folders, and starts
the packs. -/
def start (e : Executor) (t : Trail) (paths : Supplied String) (packs : List Pack)
    (arguments : List String) : Step Executor Unit :=
  if e.isActive then .error (.session .stillActive) e t
  else
    let added := e.addPaths t paths
    match added.answer with
    | .error f => .error f added.state added.trail
    | .ok () =>
      match added.state.pointEngine added.trail.calls with
      | (e, some f) => .error f e added.trail
      | (e, none) =>
        let t := added.trail.log (.debug logger "Initializing script packs")
        ((Session.new packs arguments).start t).lift fun s => { e with session := some s }

/-- Restores the default references and namespaces and clears the session. -/
def reset (e : Executor) (t : Trail) : Step Executor Unit :=
  match e.session with
  | none =>
    .ok () { e with references := e.references.reset, namespaces := e.namespaces.reset } t
  | some s =>
    match s.phase with
    | .ended => .error (.session .resetEnded) e t
    | _ =>
      let e := { e with references := e.references.reset, namespaces := e.namespaces.reset }
      (s.reset t).lift fun s => { e with session := some s }

/-- Ends the session. -/
def stop (e : Executor) (t : Trail) : Step Executor Unit :=
  match e.session with
  | none => .error (.session .notStarted) e t
  | some s =>
    let t := t.log (.debug logger "Terminating script packs")
    (s.stop t).lift fun s => { e with session := some s }

/-! ## Executions -/

/-- The session, which must have started and not ended. -/
def liveSession (e : Executor) : Except Failure Session :=
  match e.session with
  | none => .error (.session .notStarted)
  | some s =>
    match s.phase with
    | .notStarted => .error (.session .notStarted)
    | .started => .ok s
    | .ended => .error (.session .ended)

/-- The path of a script, given the calls made before: an absolute one as it is, any other below the
current directory. -/
def scriptPath (e : Executor) (calls : List Call) (script : String) : Except Failure String :=
  if Path.isAbsoluteText script then .ok script
  else FileSystem.join (e.fileSystem.currentDirectory calls) (.ok (some script))

/-- What the engine receives for a pre-processed script. -/
def submission (e : Executor) (script : Preprocessed) (arguments : List String)
    (session : Session) : Submission where
  code := script.code
  arguments := arguments
  paths := e.references.paths.toList
  modules := e.references.modules.toList
  namespaces := e.namespaces.union script.namespaces
  desk := e.desk
  session := session.toSessionView

/-- Hands a script to the engine, once the references it declares are merged. -/
def submit (e : Executor) (t : Trail) (script : Preprocessed) (arguments : List String)
    (session : Session) : Step Executor ScriptResult :=
  let e := { e with references := e.references.merge script.references }
  let t := t.log (.debug logger "Starting execution in engine")
  let submission := e.submission script arguments session
  ⟨e.engine.run t.calls submission, e, t.call (.execute submission)⟩

/-- Runs a pre-processed script whose library is looked for in a directory. -/
def run (e : Executor) (t : Trail) (script : Handout) (directory : Option String)
    (arguments : List String) (session : Session) : Step Executor ScriptResult :=
  let spliced := (Splice.mk e.toSources session script).run logger t directory
  let e := { e with toSources := spliced.state.sources, session := some spliced.state.session }
  match spliced.answer with
  | .error f => .error f e spliced.trail
  | .ok _ =>
    e.submit spliced.trail spliced.state.script.content arguments spliced.state.session

/-- Executes a script file.  The library is looked for next to it. -/
def execute (e : Executor) (t : Trail) (script : String) (arguments : List String) :
    Step Executor ScriptResult :=
  match e.liveSession with
  | .error f => .error f e t
  | .ok session =>
    match e.scriptPath t.calls script with
    | .error f => .error f e t
    | .ok path =>
      let processed := e.toSources.processFile t path
      match processed.answer with
      | .error f => .error f { e with toSources := processed.state } processed.trail
      | .ok handout =>
        let place := Path.ofString path
        let e := { e with
          toSources := processed.state
          desk := { e.desk with fileName := some place.name } }
        e.run processed.trail handout (some place.parent.toString) arguments session

/-- Executes a script given as text.  The library is looked for in the current directory, which is
read once the text is pre-processed. -/
def executeText (e : Executor) (t : Trail) (text : String) (arguments : List String) :
    Step Executor ScriptResult :=
  match e.liveSession with
  | .error f => .error f e t
  | .ok session =>
    let processed := e.toSources.processText t text
    match processed.answer with
    | .error f => .error f { e with toSources := processed.state } processed.trail
    | .ok handout =>
      let e := { e with toSources := processed.state }
      match e.fileSystem.currentDirectory processed.trail.calls with
      | .error fault => .error (.raised fault) e processed.trail
      | .ok directory => e.run processed.trail handout directory arguments session

/-! ## Refused operations -/

theorem start_of_active {e : Executor} (h : e.isActive = true) (t : Trail)
    (paths : Supplied String) (packs : List Pack) (arguments : List String) :
    e.start t paths packs arguments = .error (.session .stillActive) e t := by
  simp [start, h]

theorem execute_of_no_session {e : Executor} {f : Failure} (h : e.liveSession = .error f)
    (t : Trail) (script : String) (arguments : List String) :
    e.execute t script arguments = .error f e t := by
  simp [execute, h]

theorem executeText_of_no_session {e : Executor} {f : Failure} (h : e.liveSession = .error f)
    (t : Trail) (text : String) (arguments : List String) :
    e.executeText t text arguments = .error f e t := by
  simp [executeText, h]

end Executor

end ScriptHost
