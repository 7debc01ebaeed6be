import ScriptHost.Assembly
import ScriptHost.Command.Request
import ScriptHost.Config.File
import ScriptHost.Console.Panel
import ScriptHost.Disk.Files
import ScriptHost.Log.Loggers
import ScriptHost.Plugin.Registry

/-!
# Commands

What a command does: it reads the configuration, works on the disk, and ends with a number and
with what is to be printed.  Failures that a person can mend are printed; any other failure is
raised, and the command ends with one.

A script runs in one session, which is ended again whatever happens.  Everything that is said on
the way goes to the log as soon as it is said, and a record that the console cannot show ends
the operation that said it: of what the operation would have done after that, nothing happens.

## Main results

* `run_refused` — a command line that cannot be read changes nothing.
-/

namespace ScriptHost.Command

open Console (Block shown)
open Log (Loggers Record)

/-- Where a command is run. -/
structure Surroundings where
  catalogue : Plugin.Catalogue
  /-- The folder that the packages of the host lie in. -/
  home : String
  /-- The packs that are installed. -/
  entryPoints : List Plugin.EntryPoint
  environment : Environment
  /-- The moment of the run. -/
  stamp : Log.Stamp
  /-- How long a script takes, in seconds. -/
  duration : Number.Binary64

/-- How a command ends. -/
structure Outcome where
  exit : Nat
  printed : List Block
  raised : Option Failure
  disk : Disk

namespace Outcome

/-- A command that ends well. -/
def done (disk : Disk) (printed : List Block) : Outcome := ⟨0, printed, none, disk⟩

/-- A command that ends with a failure that nobody handles. -/
def raise (disk : Disk) (f : Failure) : Outcome := ⟨1, [], some f, disk⟩

/-- A command that prints a text with markup and ends with a number. -/
def say (disk : Disk) (exit : Nat) (markup : String) : Outcome :=
  match shown markup with
  | .ok text => ⟨exit, [.line text], none, disk⟩
  | .error f => raise disk f

/-- A command that ends with an error message. -/
def refuse (disk : Disk) (label : String) (f : Failure) : Outcome :=
  say disk 1 ("[error]Error:[/] " ++ label ++ Console.escape f.message)

end Outcome

/-- What a command goes on with, or how it ends. -/
abbrev Task (α : Type) := Except Outcome α

/-- Goes on with a value; a failure of one kind is printed, any other raised. -/
def orRefuse {α : Type} (disk : Disk) (isPrinted : Failure → Bool) (label : String) :
    Except Failure α → Task α
  | .ok value => .ok value
  | .error f =>
    .error (if isPrinted f then Outcome.refuse disk label f else Outcome.raise disk f)

/-- Goes on with a value; a failure is raised. -/
def orRaise {α : Type} (disk : Disk) : Except Failure α → Task α :=
  orRefuse disk (fun _ => false) ""

/-- Whether a configuration that fails so can be mended. -/
def isConfigurationFault (f : Failure) : Bool := f.isMissingFile || f.isBadValue

/-- The configuration of a command. -/
def configuration (w : Surroundings) (d : Disk) (file : Option String) : Task Configuration :=
  orRefuse d isConfigurationFault "Cannot load configuration: "
    (Configuration.load w.environment d file)

/-- The executor of a configuration. -/
def executor (w : Surroundings) (d : Disk) (c : Configuration) : Task Executor :=
  orRefuse d Failure.isOwn "" do
    let folders ← c.folders.pinned d
    Executor.ofConfiguration w.home w.catalogue c (d.fileSystem folders)

/-! ## Executions -/

/-- The log and the disk of an execution under way. -/
structure Desktop where
  loggers : Loggers
  disk : Disk

/-- What an operation answers once the log has heard what it said, and the trail that it leaves. -/
structure Heard (α : Type) where
  desktop : Desktop
  answer : Except Failure α
  trail : Trail
  /-- The failure with which the log refused a record. -/
  refusal : Option Failure

namespace Desktop

/-- Sends records to the log, up to the first one that cannot be shown. -/
def hear (w : Surroundings) (d : Desktop) (records : List Record) :
    Desktop × Option (Nat × Failure) :=
  let (disk, refusal) := d.loggers.emitAll Console.shows w.stamp records d.disk
  ({ d with disk := disk }, refusal)

/-- Sends what an operation said, since the trail that it began with, to the log; a record that
cannot be shown is the operation's failure, and the last that it came to. -/
def listen {σ α : Type} (w : Surroundings) (d : Desktop) (t : Trail) (s : Step σ α) : Heard α :=
  match d.hear w (s.trail.records.map Prod.snd).reverse with
  | (d, some (n, f)) => ⟨d, .error f, s.trail.backTo t n, some f⟩
  | (d, none) => ⟨d, s.answer, s.trail, none⟩

end Desktop

/-- A stretch of an execution: how the command goes on or ends, and the trail that it leaves. -/
structure Course (α : Type) where
  task : Task α
  trail : Trail
  /-- The failure with which the log refused a record. -/
  refusal : Option Failure

/-- Goes on after a stretch, unless the command ends with it. -/
def Course.andThen {α β : Type} (c : Course α) (next : α → Trail → Course β) : Course β :=
  match c.task with
  | .error o => ⟨.error o, c.trail, c.refusal⟩
  | .ok a =>
    let later := next a c.trail
    { later with refusal := c.refusal <|> later.refusal }

/-- The calls of a trail, without its records. -/
def silent (t : Trail) : Trail := ⟨t.calls, []⟩

/-- The logger of commands. -/
def logger : String := "scriptcore.cli"

/-- The registry with packs by their dotted paths. -/
def registerAll (c : Plugin.Catalogue) (r : Plugin.Registry) :
    List String → Except Failure Plugin.Registry
  | [] => .ok r
  | path :: paths =>
    match r.registerPath c path with
    | .error f => .error f
    | .ok (_, r) => registerAll c r paths

/-- What is left once a session was ended. -/
structure Ending where
  desktop : Desktop
  /-- The failure of ending it. -/
  failure : Option Failure
  trail : Trail
  /-- The failure with which the log refused a record. -/
  refusal : Option Failure

/-- Ends the session of a command. -/
def endSession (w : Surroundings) (d : Desktop) (e : Executor) (t : Trail) : Ending :=
  let heard := d.listen w t (e.stop (silent t))
  let failure := match heard.answer with | .ok () => none | .error f => some f
  ⟨heard.desktop, failure, heard.trail, heard.refusal⟩

/-- What an execution needs before its session is started. -/
structure Ready where
  desktop : Desktop
  executor : Executor
  registry : Plugin.Registry
  /-- Whether it is shown where a failure of the start arose. -/
  isDebug : Bool

/-- What is said in front of the failure with which a session does not start. -/
def startLabel : String := "Cannot initialize script packs: "

/-- The outcome of a session that does not start. -/
def refuseStart (isDebug : Bool) (disk : Disk) (f : Failure) : Outcome :=
  let o := Outcome.refuse disk startLabel f
  if isDebug && o.raised.isNone then { o with printed := o.printed ++ [.traceback f.kind] } else o

/-- Goes on with a session that has started; one that failed to start is ended, and only then is the
failure told. -/
def settle (w : Surroundings) (isDebug : Bool) (d : Desktop) (started : Step Executor Unit) :
    Course (Desktop × Executor) :=
  match started.answer with
  | .ok () => ⟨.ok (d, started.state), started.trail, none⟩
  | .error f =>
    if started.state.session.isSome then
      let ended := endSession w d started.state started.trail
      let disk := ended.desktop.disk
      let outcome := match ended.failure with
        | none => refuseStart isDebug disk f
        | some g => Outcome.raise disk g
      ⟨.error outcome, ended.trail, ended.refusal⟩
    else ⟨.error (refuseStart isDebug d.disk f), started.trail, none⟩

/-- What is left of a start if the log refuses a record of it, by the trail up to that record: the
packs that had started are recorded, unless there was no session yet. -/
def brokenOff (started : Step Executor Unit) (t : Trail) (f : Failure) : Step Executor Unit :=
  let isFounded := t.records.any fun r => r.2.logger == Executor.logger
  let done := t.calls.countP fun | .startedPack _ => true | _ => false
  let begun (s : Session) :=
    (Session.startPacks (s.packs.take done) (.new s.packs s.arguments) .empty).state
  .error f { started.state with
    session := if isFounded then started.state.session.map begun else none } t

/-- Starts the session of an execution, with the packs that are registered and those that are
installed. -/
def startSession (w : Surroundings) (r : Ready) (x : Execution) : Course (Desktop × Executor) :=
  let (registry, said) := r.registry.discover w.entryPoints
  match r.desktop.hear w said with
  | (d, some (_, f)) => ⟨.error (refuseStart r.isDebug d.disk f), .empty, some f⟩
  | (d, none) =>
    let started := r.executor.start .empty (.list x.references) registry.all x.arguments
    let heard := d.listen w .empty started
    match heard.refusal with
    | some f =>
      let broken := settle w r.isDebug heard.desktop (brokenOff started heard.trail f)
      { broken with refusal := some f }
    | none => settle w r.isDebug heard.desktop started

/-- The script of an execution, as it is called in the log. -/
def Source.name : Source → String
  | .file "" | .text _ => "<script>"
  | .file path => path

/-- Executes the script of an execution. -/
def runSource (e : Executor) (t : Trail) (x : Execution) : Step Executor ScriptResult :=
  match x.source with
  | .file path => e.execute t path x.arguments
  | .text code => e.executeText t code x.arguments

/-- The outcome after the session was ended: a failure of that comes out instead. -/
def afterEnd (outcome : Disk → Outcome) (ended : Ending) : Outcome :=
  let o := outcome ended.desktop.disk
  match ended.failure with
  | none => o
  | some f => { o with exit := 1, raised := some f }

/-- Executes a script and ends its session. -/
def executeSource (w : Surroundings) (d : Desktop) (e : Executor) (t : Trail) (x : Execution) :
    Course (Desktop × ScriptResult) :=
  let ran := runSource e (silent t) x
  let heard := d.listen w t ran
  let ended := endSession w heard.desktop ran.state heard.trail
  let task := match heard.answer, ended.failure with
    | .ok result, none => .ok (ended.desktop, result)
    | .ok _, some f => .error (Outcome.raise ended.desktop.disk f)
    | .error f, _ =>
      .error (afterEnd (fun disk =>
        if f.isMissingFile || f.isOwn then Outcome.refuse disk "" f
        else Outcome.raise disk f) ended)
  ⟨task, ended.trail, heard.refusal <|> ended.refusal⟩

/-- Says in the log how an execution went. -/
def report (w : Surroundings) (x : Execution) (d : Desktop) (result : ScriptResult) (t : Trail) :
    Course (Disk × ScriptResult) :=
  let error := if result.isSuccess then none else some result.summary
  let record := Log.executionRecord logger x.source.name result.isSuccess w.duration error
  match d.hear w [record] with
  | (d, none) => ⟨.ok (d.disk, result), t, none⟩
  | (d, some (_, f)) => ⟨.error (Outcome.raise d.disk f), t, some f⟩

/-- Sets up the log as the configuration says; the command line may ask for more detail. -/
def setUpLog (d : Disk) (m : Manner) (c : Configuration) : Task Desktop :=
  let level := if m.isDebug then .debug else c.logging.threshold.level
  match Loggers.empty.setUp d ⟨level, c.logging.file, c.logging.isJson, true⟩ with
  | (loggers, d, none) => .ok ⟨loggers, d⟩
  | (_, d, some f) => .error (Outcome.raise d f)

/-- Gets an execution ready: reads the configuration, sets up the log, makes the executor and
registers the packs. -/
def prepare (w : Surroundings) (d : Disk) (m : Manner) (x : Execution) : Task Ready := do
  let c ← configuration w d m.configuration
  let desktop ← setUpLog d m c
  let e ← executor w desktop.disk c
  let registry ← orRefuse desktop.disk Failure.isOwn ""
    (registerAll w.catalogue (.new true) (c.execution.packs ++ x.packs))
  return ⟨desktop, e, registry, m.isDebug⟩

/-- Carries out an execution that is ready: starts its session, executes, ends the session, and says
how it went. -/
def conduct (w : Surroundings) (r : Ready) (x : Execution) : Course (Disk × ScriptResult) :=
  (startSession w r x).andThen fun (d, e) t =>
    (executeSource w d e t x).andThen fun (d, result) t => report w x d result t

/-- Runs a script: gets the execution ready and carries it out. -/
def runScript (w : Surroundings) (d : Disk) (m : Manner) (x : Execution) :
    Course (Disk × ScriptResult) :=
  match prepare w d m x with
  | .error o => ⟨.error o, .empty, none⟩
  | .ok r => conduct w r x

/-- Runs a script and shows its result, unless it is to be quiet. -/
def execute (w : Surroundings) (d : Disk) (m : Manner) (x : Execution) : Task Outcome := do
  let (d, result) ← (runScript w d m x).task
  let printed ← if m.isQuiet then pure [] else orRaise d result.blocks
  return ⟨result.exitCode, printed, none, d⟩

/-! ## Other commands -/

/-- The rows of a numbered list, from a number on. -/
def numbered : Nat → List String → Except Failure (List (List String))
  | _, [] => .ok []
  | n, item :: items => do
    let text ← shown item
    return [Number.natText n, text] :: (← numbered (n + 1) items)

/-- A numbered list. -/
def numberedTable (title column : String) (items : List String) : Except Failure Block :=
  (numbered 1 items).map fun rows => .table title ["#", column] rows

/-- Shows what every execution begins with. -/
def showDefaults (w : Surroundings) (d : Disk) (m : Manner) : Task Outcome := do
  let e ← executor w d (← configuration w d m.configuration)
  let references ← orRaise d
    (numberedTable "Default references" "Reference" e.references.paths.toList)
  match numberedTable "Default namespaces" "Namespace" e.namespaces.names with
  | .ok namespaces => return .done d [references, namespaces]
  | .error f => return { Outcome.raise d f with printed := [references] }

/-- Shows where the script library of a directory is looked for, and whether it is there. -/
def showLibrary (w : Surroundings) (d : Disk) (m : Manner) (directory : Option String) :
    Task Outcome := do
  let e ← executor w d (← configuration w d m.configuration)
  let place ← match directory with
    | none | some "" => orRaise d ((e.fileSystem.currentDirectory []).mapError .raised)
    | some path => orRaise d ((d.resolved path).map fun p => some p.toString)
  let path ← orRaise d (e.toSources.libraryPath place)
  let isThere ← orRaise d (e.fileSystem.fileExists [] path)
  return Outcome.say d 0 <|
    if isThere then "[success]Script library found:[/] " ++ path
    else "[info]No script library at:[/] " ++ path

/-- A text, or another one in place of an empty one. -/
def orElse (text other : String) : String := if text.isEmpty then other else text

/-- A configuration for a person. -/
def describe (c : Configuration) : String :=
  let f := c.folders
  let x := c.execution
  "\n".intercalate [
    "[bold]File System:[/]",
    "  Current Directory: " ++ orElse (f.currentDirectory.getD "") "[dim]process cwd[/]",
    "  Bin Folder: " ++ f.binFolder,
    "  Cache Folder: " ++ f.cacheFolder,
    "  Packages Folder: " ++ f.packagesFolder,
    "",
    "[bold]Script Library:[/]",
    "  File Name: " ++ c.library.fileName,
    "",
    "[bold]Execution:[/]",
    "  Engine: " ++ x.engine,
    "  Pre-processor: " ++ x.preProcessor,
    "  Script Packs: " ++ orElse (", ".intercalate x.packs) "[dim]none[/]",
    "  Extra References: " ++ Number.natText x.references.length,
    "  Extra Namespaces: " ++ Number.natText x.namespaces.length,
    "",
    "[bold]Logging:[/]",
    "  Level: " ++ c.logging.threshold.word]

/-- Shows the configuration. -/
def showConfiguration (w : Surroundings) (d : Disk) (file : Option String) : Task Outcome :=
  match Configuration.load w.environment d file with
  | .ok c => do
    let text ← orRaise d (shown (describe c))
    return .done d [.card "scriptcore Configuration" text]
  | .error f =>
    .ok (if isConfigurationFault f then
        Outcome.say d 1 ("[red]Error loading config: " ++ f.message ++ "[/]")
      else Outcome.raise d f)

/-- Writes a configuration file, if there is none or it may be overwritten. -/
def writeConfiguration (w : Surroundings) (d : Disk) (file : String) (overwrite : Bool) :
    Task Outcome := do
  let path := Path.normalText file
  let isThere ← orRaise d (d.exists_ path)
  if isThere && !overwrite then
    return Outcome.say d 1 ("[yellow]" ++ path ++ " already exists; use --force to overwrite[/]")
  else
    let c ← orRaise d (Configuration.make w.environment d [])
    let written ← orRaise d (c.save d path)
    return Outcome.say written 0 ("[green]Configuration written to " ++ path ++ "[/]")

/-! ## Command lines -/

/-- Does what a request asks for. -/
def answer (w : Surroundings) (d : Disk) (m : Manner) : Request → Task Outcome
  | .execute x => execute w d m x
  | .defaults => showDefaults w d m
  | .library directory => showLibrary w d m directory
  | .showConfiguration file => showConfiguration w d file
  | .writeConfiguration file overwrite => writeConfiguration w d file overwrite

/-- How a task ends, either way. -/
def Task.outcome : Task Outcome → Outcome
  | .ok o | .error o => o

/-- What help shows. -/
def usage : List Block := [
  .line "Usage: scriptcore [OPTIONS] COMMAND [ARGS]...",
  .line "Commands: run, eval, defaults, library, config show, config init"]

/-- The version. -/
def version : String := "0.1.0"

/-- Does what a command line asks for. -/
def run (w : Surroundings) (d : Disk) (words : List String) : Outcome :=
  match Reading.ofWords words with
  | .usage asked => ⟨if asked then 0 else 2, usage, none, d⟩
  | .version => .done d [.line ("scriptcore v" ++ version)]
  | .refused => ⟨2, [], none, d⟩
  | .request m r => (answer w d m r).outcome

theorem run_refused {words : List String} (h : Reading.ofWords words = .refused)
    (w : Surroundings) (d : Disk) : run w d words = ⟨2, [], none, d⟩ := by
  simp [run, h]

end ScriptHost.Command
