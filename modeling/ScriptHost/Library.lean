import ScriptHost.PreProcessor
import ScriptHost.Session.Basic

/-!
# The script library

The script library is a bundle of shared code in the packages folder.  It is spliced into the
first script of a session: its code goes in front, its declarations behind those of the script.
A session is marked once the bundle was looked up, whether there is one or not; if looking it up
fails, the session stays unmarked and the next script tries again.

## Main results

* `Splice.run_of_injected` — a marked session is left alone, and so is the script.
-/

namespace ScriptHost

/-- Where scripts and their library come from. -/
structure Sources where
  fileSystem : FileSystem
  preProcessor : PreProcessor
  /-- The file name of the library bundle. -/
  libraryFile : String
  /-- The results that the pre-processor keeps. -/
  pool : Pool

/-- The default file name of the library bundle. -/
def defaultLibraryFile : String := "ScriptLibraries.csx"

/-- The parts that splicing in the library changes. -/
structure Splice where
  sources : Sources
  session : Session
  script : Handout

namespace Sources

/-- The path where the bundle is expected for scripts in a directory. -/
def libraryPath (src : Sources) (directory : Option String) : Except Failure String :=
  match FileSystem.join (.ok directory) src.fileSystem.packagesFolder with
  | .error f => .error f
  | .ok folder => .ok (Path.joinText folder src.libraryFile)

/-- Takes the result of a pre-processor. -/
def receive (src : Sources) (h : Handout) : Handout × Sources :=
  ((src.pool.receive h).1, { src with pool := (src.pool.receive h).2 })

/-- Changes a result in hand. -/
def revise (src : Sources) (h : Handout) (content : Preprocessed) : Handout × Sources :=
  ((src.pool.revise h content).1, { src with pool := (src.pool.revise h content).2 })

/-- Pre-processes a file. -/
def processFile (src : Sources) (t : Trail) (path : String) : Step Sources Handout :=
  match src.preProcessor.ofFile src.fileSystem t.calls path with
  | .error f => .error f src (t.call (.processFile path))
  | .ok h => .ok (src.receive h).1 (src.receive h).2 (t.call (.processFile path))

/-- Pre-processes a text. -/
def processText (src : Sources) (t : Trail) (text : String) : Step Sources Handout :=
  match src.preProcessor.ofText t.calls text with
  | .error f => .error f src (t.call (.processText text))
  | .ok h => .ok (src.receive h).1 (src.receive h).2 (t.call (.processText text))

/-- Pre-processes the bundle for scripts in a directory, if there is one. -/
def load (src : Sources) (logger : String) (t : Trail) (directory : Option String) :
    Step Sources (Option Handout) :=
  match src.libraryPath directory with
  | .error f => .error f src t
  | .ok path =>
    match src.fileSystem.fileExists t.calls path with
    | .error f => .error f src (t.call (.probe path))
    | .ok false => .ok none src (t.call (.probe path))
    | .ok true =>
      let t := (t.call (.probe path)).log (.debug logger ("Found script library at " ++ path))
      let step := src.processFile t path
      ⟨step.answer.map some, step.state, step.trail⟩

end Sources

namespace Splice

/-- The session, marked. -/
def marked (s : Session) : Session := { s with injected := true }

/-- Splices the library into a script unless the session already has it.  The answer says
whether code was spliced in. -/
def run (sp : Splice) (logger : String) (t : Trail) (directory : Option String) :
    Step Splice Bool :=
  if sp.session.injected then .ok false sp t
  else
    let loaded := sp.sources.load logger t directory
    match loaded.answer with
    | .error f => .error f { sp with sources := loaded.state } loaded.trail
    | .ok none =>
      .ok false { sp with sources := loaded.state, session := marked sp.session } loaded.trail
    | .ok (some library) =>
      let (script, sources) :=
        loaded.state.revise sp.script (sp.script.content.withLibrary library.content)
      .ok true ⟨sources, marked sp.session, script⟩ loaded.trail

theorem run_of_injected {sp : Splice} (h : sp.session.injected = true) (logger : String)
    (t : Trail) (directory : Option String) : sp.run logger t directory = .ok false sp t := by
  simp [run, h]

end Splice

end ScriptHost
