import ScriptHost.Disk.Basic
import ScriptHost.Log.Line
import ScriptHost.Sequence.Entries

/-!
# Loggers

Loggers have dotted names and form a hierarchy: a record that is made at a logger is offered to
the handlers of that logger and of every logger above it.  A logger without a level of its own
takes that of the nearest logger above it that has one.

The logger of the host owns the console and the log file.  Loggers below it have no handlers of
their own; a logger outside the hierarchy gets a console handler when it is first asked for.
Above all of them stands the top logger, which has a name of its own and answers to the empty
name too.
-/

namespace ScriptHost.Log

open Sequence (Entries)

/-- Where records go. -/
inductive Sink where
  | console
  /-- A file, by the names that lead to it. -/
  | file (place : Path) (isJson : Bool)
  deriving DecidableEq, Repr

/-- A sink, and the least severity that it takes. -/
structure Handler where
  sink : Sink
  severity : Nat
  deriving DecidableEq, Repr

/-- Everything that is known of loggers, by their names. -/
structure Loggers where
  /-- The levels of the loggers that have one. -/
  levels : Entries Nat
  handlers : Entries (List Handler)
  /-- The loggers that were asked for. -/
  known : List String
  deriving Repr

namespace Loggers

/-- The name of the logger of the host. -/
def host : String := "scriptcore"

/-- The name of the logger above all others. -/
def top : String := "root"

/-- The level of the top logger until it gets another one. -/
def topLevel : Nat := Level.warning.severity

/-- The name that a logger has, whatever it was asked for by. -/
def trueName (name : String) : String := if name.isEmpty then top else name

/-- The loggers before any was asked for. -/
def empty : Loggers := ⟨[], [], []⟩

/-- The characters of a dotted name with its last piece taken away, one after the other; given
backwards. -/
def above : List Char → List (List Char)
  | [] => []
  | c :: cs => if c = '.' then cs :: above cs else above cs

/-- A logger and the loggers above it, nearest first.  The top logger stands above all others
and nowhere between them. -/
def chain (name : String) : List String :=
  let own := trueName name
  let outer := (above own.toList.reverse).map fun cs => String.ofList cs.reverse
  if own = top then [top] else own :: outer.filter (fun n => trueName n != top) ++ [top]

/-- The level of a logger, zero if it has none of its own. -/
def ownLevel (ls : Loggers) (name : String) : Nat :=
  let own := trueName name
  (ls.levels.get? own).getD (if own = top then topLevel else 0)

/-- The level that counts for a logger. -/
def effectiveLevel (ls : Loggers) (name : String) : Nat :=
  (((chain name).map ls.ownLevel).find? fun l => l != 0).getD 0

/-- The handlers of a logger. -/
def handlersOf (ls : Loggers) (name : String) : List Handler :=
  (ls.handlers.get? (trueName name)).getD []

/-- Whether a logger stands below the host's. -/
def isBelowHost (name : String) : Bool := (host ++ ".").toList.isPrefixOf name.toList

/-- The level of a word in whatever case it is written. -/
def levelOf (word : String) : Except Failure Level := Level.ofWord (Text.lower word)

/-- A console handler that takes everything. -/
def openConsole : Handler := ⟨.console, 0⟩

/-- The loggers with a level for one of them. -/
def withLevel (ls : Loggers) (name : String) (level : Option Level) : Loggers :=
  match level with
  | some l => { ls with levels := ls.levels.put (trueName name) l.severity }
  | none => ls

/-- The loggers after a name was asked for the first time. -/
def introduce (ls : Loggers) (name : String) (level : Option Level) : Loggers :=
  let handlers :=
    if isBelowHost name || !(ls.handlersOf name).isEmpty then ls.handlers
    else ls.handlers.put (trueName name) [openConsole]
  { ls.withLevel name level with handlers := handlers, known := name :: ls.known }

/-- Asks for a logger, with a level for the first time. -/
def get (ls : Loggers) (name : String) (level : Option String) : Except Failure Loggers :=
  if ls.known.contains name then .ok ls
  else
    match level with
    | none => .ok (ls.introduce name none)
    | some word => (levelOf word).map fun l => ls.introduce name (some l)

/-! ## Setting up -/

/-- How the host's logger is to be set up. -/
structure Setup where
  level : Level
  file : Option String
  isJson : Bool
  console : Bool

/-- The loggers with exactly the given handlers at the host's logger. -/
def withHandlers (ls : Loggers) (handlers : List Handler) : Loggers :=
  { ls with handlers := ls.handlers.put host handlers }

/-- Sets up the host's logger.  The log file is there from then on; if it cannot be opened, the
console has been set up already. -/
def setUp (ls : Loggers) (d : Disk) (s : Setup) : Loggers × Disk × Option Failure :=
  let severity := s.level.severity
  let ls := { ls with levels := ls.levels.put host severity }
  let consoles : List Handler := if s.console then [⟨.console, severity⟩] else []
  let ls := ls.withHandlers consoles
  match s.file with
  | none | some "" => (ls, d, none)
  | some path =>
    match d.ensureParent path with
    | .error f => (ls, d, some f)
    | .ok d =>
      match d.resolved path with
      | .error f => (ls, d, some f)
      | .ok place =>
        match Disk.refuse place.toString (d.writeAt place id) with
        | .error f => (ls, d, some f)
        | .ok d => (ls.withHandlers (consoles ++ [⟨.file place s.isJson, severity⟩]), d, none)

/-! ## Records -/

/-- The handlers that a record is offered to and that take it, in order. -/
def takers (ls : Loggers) (r : Record) : List Handler :=
  if (ls.effectiveLevel r.logger : Int) ≤ r.severity then
    ((chain r.logger).flatMap ls.handlersOf).filter fun h => (h.severity : Int) ≤ r.severity
  else []

/-- A record as a line of a log file. -/
def fileLine (isJson : Bool) (stamp : Stamp) (r : Record) : String :=
  (if isJson then jsonLine stamp r [] none else plainLine stamp r) ++ "\n"

/-- The disk with a record in a log file; a file that cannot be written is left as it is. -/
def append (d : Disk) (place : Path) (line : String) : Disk :=
  match d.writeAt place fun old => old ++ Text.encodeUtf8 line with
  | .ok d => d
  | .error _ => d

/-- Offers a record to handlers; a console that cannot show it ends the matter. -/
def offer (shows : String → Except Failure Unit) (stamp : Stamp) (r : Record) :
    Disk → List Handler → Disk × Option Failure
  | d, [] => (d, none)
  | d, h :: hs =>
    match h.sink with
    | .console =>
      match shows r.message with
      | .error f => (d, some f)
      | .ok () => offer shows stamp r d hs
    | .file place isJson => offer shows stamp r (append d place (fileLine isJson stamp r)) hs

/-- Emits a record: it goes to every handler that takes it, up to a console that cannot show it. -/
def emit (ls : Loggers) (shows : String → Except Failure Unit) (stamp : Stamp) (r : Record)
    (d : Disk) : Disk × Option Failure :=
  offer shows stamp r d (ls.takers r)

/-- Emits records in order, up to the first one that cannot be shown; its failure comes with the
number of those before it. -/
def emitAll (ls : Loggers) (shows : String → Except Failure Unit) (stamp : Stamp) :
    List Record → Disk → Disk × Option (Nat × Failure)
  | [], d => (d, none)
  | r :: rs, d =>
    match ls.emit shows stamp r d with
    | (d, some f) => (d, some (0, f))
    | (d, none) =>
      let (d, refusal) := ls.emitAll shows stamp rs d
      (d, refusal.map fun (n, f) => (n + 1, f))

end Loggers

end ScriptHost.Log
