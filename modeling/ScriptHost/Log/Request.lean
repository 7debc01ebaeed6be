import ScriptHost.Log.Loggers

/-!
# Requests to loggers

What a caller asks of the loggers may be of any shape: a level may be a number, a name may be
nothing, a duration may be a text.  The requests here take loose data, and check of it as much
as they need before they need it.  So a request that fails has done what comes before the check.
-/

namespace ScriptHost.Log

open Number (Binary64)
open Sequence (Entries)

/-! ## Names and levels -/

/-- The name of the logger that loose data asks for; what counts as nothing asks for the top
logger. -/
def loggerName : Datum → Except Failure String
  | .text s => .ok (Loggers.trueName s)
  | d =>
    if d.isTruthy then .error (.wrongType "A logger name must be a string") else .ok Loggers.top

/-- The failure of a value that is asked for its place on the scale and has none. -/
def noSeverity (d : Datum) : Failure :=
  .noAttribute (Text.literal d.typeName ++ " object has no attribute 'numeric'")

/-- A level from loose data. -/
def levelFrom : Datum → Except Failure Level
  | .text s => Loggers.levelOf s
  | d => .error (noSeverity d)

/-- A level that may be left out by writing nothing. -/
def optionalLevel : Datum → Except Failure (Option Level)
  | .null => .ok none
  | d => (levelFrom d).map some

/-- The failure of a value that is looked up and holds a part of a type that has no key. -/
def unhashable (type : String) : Failure := .wrongType ("unhashable type: " ++ Text.literal type)

namespace Loggers

/-- Asks for a logger by a name that is no text; it is found only to be the top logger, which
keeps the level that it was asked for with. -/
def getUnnamed (ls : Loggers) (name level : Datum) : Loggers × Except Failure String :=
  match name.key, loggerName name, optionalLevel level with
  | .error type, _, _ => (ls, .error (unhashable type))
  | .ok _, .error f, _ => (ls, .error f)
  | .ok _, .ok _, .error f => (ls, .error f)
  | .ok _, .ok own, .ok level =>
    (ls.withLevel own level,
      .error (.noAttribute (Text.literal name.typeName ++ " object has no attribute 'startswith'")))

/-- Asks for a logger by up to two arguments: a name, and a level for the first time. -/
def request (ls : Loggers) (arguments : List Datum) : Loggers × Except Failure String :=
  let ask (name level : Datum) : Loggers × Except Failure String :=
    match name with
    | .text s =>
      if ls.known.contains s then (ls, .ok s)
      else
        match optionalLevel level with
        | .ok level => (ls.introduce s level, .ok s)
        | .error f => (ls, .error f)
    | d => ls.getUnnamed d level
  match arguments with
  | [] => ask (.text host) .null
  | [name] => ask name .null
  | [name, level] => ask name level
  | _ => (ls, .error (.wrongType "too many arguments"))

/-! ## Setting up -/

/-- The names of the settings that the host's logger is set up with. -/
def settingNames : List String := ["level", "log_file", "json_format", "console"]

/-- Sets up the host's logger by named arguments. -/
def setUpBy (ls : Loggers) (d : Disk) (settings : Entries Datum) :
    Loggers × Disk × Option Failure :=
  let setting (name : String) (default : Datum) : Datum := (settings.get? name).getD default
  if settings.any fun e => !settingNames.contains e.1 then
    (ls, d, some (.wrongType "unexpected keyword argument"))
  else
    match levelFrom (setting "level" (.text Level.info.word)) with
    | .error f => (ls, d, some f)
    | .ok level =>
      let file := setting "log_file" .null
      let setup : Setup := ⟨level, file.text?, (setting "json_format" (.bool false)).isTruthy,
        (setting "console" (.bool true)).isTruthy⟩
      match ls.setUp d setup with
      | (ls, d, some f) => (ls, d, some f)
      | (ls, d, none) =>
        (ls, d, if file.isTruthy && file.text?.isNone then
          some (.wrongType "expected str, bytes or os.PathLike object") else none)

end Loggers

/-! ## Records -/

/-- The severity of a record from loose data. -/
def severityOf : Datum → Except Failure Int
  | .int i => .ok i
  | .bool b => .ok (if b then 1 else 0)
  | _ => .error (.wrongType "level must be an integer")

/-- Makes a record of loose data and emits it.  The name of its severity is made only if the logger
lets it pass; a message that cannot show itself is the failure of a console, and no line in a
file. -/
def Loggers.log (ls : Loggers) (shows : String → Except Failure Unit) (stamp : Stamp) (d : Disk)
    (logger level message : Datum) : Disk × Option Failure :=
  match loggerName logger, severityOf level with
  | .error f, _ => (d, some f)
  | .ok _, .error f => (d, some f)
  | .ok logger, .ok severity =>
    match Number.written severity, message.plain with
    | .error f, _ =>
      (d, if (ls.effectiveLevel logger : Int) ≤ severity then some (.raised f) else none)
    | .ok _, .error f =>
      let takers := ls.takers ⟨severity, logger, ""⟩
      (d, if takers.any fun h => h.sink == .console then some (.raised f) else none)
    | .ok _, .ok text => ls.emit shows stamp ⟨severity, logger, text⟩ d

/-- The seconds of a duration. -/
def secondsOf : Datum → Except Failure Binary64
  | .real r => .ok r
  | .bool b => .ok (.ofRatio false (if b then 1 else 0) 1)
  | .int i =>
    match Binary64.ofRatio (i < 0) i.natAbs 1 with
    | .infinite _ => .error (.raised ⟨"OverflowError", "int too large to convert to float"⟩)
    | r => .ok r
  | .text _ =>
    .error (.raised ⟨"ValueError", "Unknown format code 'f' for object of type 'str'"⟩)
  | d => .error (.wrongType ("unsupported format string passed to " ++ d.typeName))

/-- What is said about an execution that has ended; the duration is looked at only if the
execution succeeded, and the error only if it did not. -/
def executionRecord? (logger : String) (source success duration error : Datum) :
    Except Failure Record := do
  let source ← source.plain.mapError .raised
  if success.isTruthy then
    let seconds ← secondsOf duration
    return executionRecord logger source true seconds none
  else
    let reason ← if error.isTruthy then (error.plain.mapError .raised).map some else .ok none
    return executionRecord logger source false (.ofRatio false 0 1) reason

/-! ## Lines -/

/-- The parts of a value that has some. -/
def partsOf? : Datum → Option (List Datum)
  | .text s => some (s.toList.map fun c => .text (String.ofList [c]))
  | .list items | .tuple items | .set items => some items
  | .dict entries => some (entries.map Prod.fst)
  | _ => none

/-- The pairs that items stand for, from an index on. -/
def pairsFrom : Nat → List Datum → Except Failure (List (Datum × Datum))
  | _, [] => .ok []
  | index, d :: ds =>
    match partsOf? d with
    | some [name, value] => do
      let _ ← name.key.mapError unhashable
      return (name, value) :: (← pairsFrom (index + 1) ds)
    | some parts =>
      .error (.raised ⟨"ValueError", "dictionary update sequence element #" ++
        Number.natText index ++ " has length " ++ Number.natText parts.length ++
        "; 2 is required"⟩)
    | none => .error (.wrongType "cannot convert dictionary update sequence element to a sequence")

/-- The pairs that loose data adds to a mapping: those of a mapping, or items of two parts. -/
def pairsOf : Datum → Except Failure (List (Datum × Datum))
  | .dict entries => .ok entries
  | d =>
    match partsOf? d with
    | some parts => pairsFrom 0 parts
    | none => .error (.wrongType (Text.literal d.typeName ++ " object is not iterable"))

/-- The name that a value has as a key of a JSON object. -/
def memberName : Datum → Except Failure String
  | .text s => .ok s
  | .null => .ok "null"
  | .bool b => .ok (if b then "true" else "false")
  | .int i => (Number.written i).mapError .raised
  | .real r => .ok r.text
  | d => .error (.wrongType ("keys must be str, int, float, bool or None, not " ++ d.typeName))

/-- The member of a JSON object that a pair stands for. -/
def memberOf (pair : Datum × Datum) : Except Failure (String × Json) :=
  (memberName pair.1).map fun name => (name, pair.2.toJson)

/-- The members that loose data adds to an object. -/
def membersOf (d : Datum) : Except Failure (List (String × Json)) :=
  (pairsOf d).bind fun pairs => pairs.mapM memberOf

/-- The names that stand for a severity. -/
def namedSeverities : List String :=
  ["CRITICAL", "FATAL", "ERROR", "WARN", "WARNING", "INFO", "DEBUG", "NOTSET"]

/-- The name that a record has for its severity; in the place of a name there may be a number. -/
def severityWord? : Datum → Except Failure (Option String)
  | .int i =>
    match Number.written i with
    | .ok _ => .ok (some (severityName i))
    | .error f => .error (.raised f)
  | .text s => .ok (if namedSeverities.contains s then none else some ("Level " ++ s))
  | d => do
    let key ← d.key.mapError unhashable
    let unnamed : Except Failure (Option String) := match d with
      | .tuple items => (formatted "Level %s" ⟨items, none⟩).map some
      | _ => (d.display.mapError .raised).map fun s => some ("Level " ++ s)
    match key with
    | .int i =>
      if severityName i == "Level " ++ Number.intText i then unnamed
      else return some (severityName i)
    | _ => unnamed

/-- A record as one line of JSON: the moment is read first, then the name of the level, then the
message with its arguments, and then what the record carries. -/
def lineOf (zone : Zone) (created : Datum) (level : Except Failure String) (logger : Json)
    (message : Except Failure String) (carried : Option Datum) (report : Option String) :
    Except Failure String := do
  let stamp ← Stamp.ofDatum zone created
  let level ← level
  let message ← message
  let extra ← match carried with
    | some d => membersOf d
    | none => .ok []
  let line := Json.obj (extended (usualMembers stamp level logger message) extra report)
  line.written.mapError .raised

/-- A record from loose data as one line of JSON; a severity without a name is found before the
moment is read. -/
def jsonLineOf (zone : Zone) (created logger level message : Datum) (arguments : List Datum)
    (carried : Option Datum) (report : Option String) : Except Failure String := do
  let level ← match ← severityWord? level with
    | some word => pure (.ok word)
    | none => pure (.error (.noAttribute "'int' object has no attribute 'lower'"))
  let message := (message.plain.mapError .raised).bind fun format => formatMessage format arguments
  lineOf zone created level logger.toJson message carried report

end ScriptHost.Log
