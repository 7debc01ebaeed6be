import ScriptHost.Command.Arguments

/-!
# Requests

What a command line asks for.  Options before the command are about every command: whether to
be quiet, whether to log everything, and which configuration to take.  Then comes the command
with options and operands of its own.

A command line that cannot be read is refused before anything is done.  Of the options that are
answered at once, the help and the version, the first one counts.
-/

namespace ScriptHost.Command

/-- What is executed: a file, or a text. -/
inductive Source where
  | file (path : String)
  | text (code : String)
  deriving DecidableEq, Repr

/-- An execution that is asked for. -/
structure Execution where
  source : Source
  arguments : List String
  packs : List String
  references : List String
  deriving DecidableEq, Repr

/-- What a command line may ask for. -/
inductive Request where
  | execute (execution : Execution)
  /-- The references and namespaces that every execution begins with. -/
  | defaults
  /-- Where the script library of a directory is looked for. -/
  | library (directory : Option String)
  | showConfiguration (file : Option String)
  | writeConfiguration (file : String) (overwrite : Bool)
  deriving DecidableEq, Repr

/-- What is said about every command. -/
structure Manner where
  isQuiet : Bool
  isDebug : Bool
  configuration : Option String
  deriving DecidableEq, Repr

/-- What a command line comes to. -/
inductive Reading where
  /-- Help is shown; nobody asked for it if there was no word at all. -/
  | usage (asked : Bool)
  | version
  | refused
  | request (manner : Manner) (request : Request)
  deriving DecidableEq, Repr

/-- The options of all commands. -/
inductive Key where
  | help
  | version
  | quiet
  | debug
  | configuration
  | plain
  | pack
  | reference
  | force
  deriving DecidableEq, Repr

/-! ## Options -/

/-- The option that every command takes. -/
def helpChoice : Choice Key := ⟨.help, none, "--help", false⟩

/-- The option that names a configuration file. -/
def configurationChoice : Choice Key := ⟨.configuration, some 'c', "--config", true⟩

/-- The option that names a pack. -/
def packChoice : Choice Key := ⟨.pack, some 'p', "--pack", true⟩

/-- The options before the command. -/
def mannerChoices : List (Choice Key) := [
  ⟨.version, some 'v', "--version", false⟩, ⟨.quiet, some 'q', "--quiet", false⟩,
  ⟨.debug, none, "--debug", false⟩, configurationChoice, ⟨.plain, none, "--no-color", false⟩,
  helpChoice]

/-- What an option asks for that is answered at once. -/
def answerAtOnce? : Key → Option Reading
  | .help => some (.usage true)
  | .version => some .version
  | _ => none

/-- Goes on with arguments, unless they cannot be read or are answered at once. -/
def Arguments.proceed (arguments : Option (Arguments Key)) (go : Arguments Key → Reading) :
    Reading :=
  match arguments with
  | none => .refused
  | some a => (a.given.findSome? fun g => answerAtOnce? g.key).getD (go a)

/-! ## Commands -/

/-- A command: the options that it takes, and what its arguments ask for. -/
structure Grammar where
  choices : List (Choice Key)
  request? : Arguments Key → Option Request

namespace Grammar

/-- Executes a script file. -/
def run : Grammar where
  choices := [packChoice, ⟨.reference, some 'r', "--reference", true⟩, helpChoice]
  request? a := match a.operands with
    | [] => none
    | script :: arguments =>
      some (.execute ⟨.file script, arguments, a.values .pack, a.values .reference⟩)

/-- Executes a text. -/
def eval : Grammar where
  choices := [packChoice, helpChoice]
  request? a := match a.operands with
    | [] => none
    | code :: arguments => some (.execute ⟨.text code, arguments, a.values .pack, []⟩)

/-- Shows what every execution begins with. -/
def defaults : Grammar where
  choices := [helpChoice]
  request? a := match a.operands with
    | [] => some .defaults
    | _ => none

/-- Shows where the script library is looked for. -/
def library : Grammar where
  choices := [helpChoice]
  request? a := match a.operands with
    | [] => some (.library none)
    | [directory] => some (.library (some directory))
    | _ => none

/-- Shows the configuration. -/
def showConfiguration : Grammar where
  choices := [configurationChoice, helpChoice]
  request? a := match a.operands with
    | [] => some (.showConfiguration (a.last? .configuration))
    | _ => none

/-- Writes a configuration file. -/
def writeConfiguration : Grammar where
  choices := [configurationChoice, ⟨.force, some 'f', "--force", false⟩, helpChoice]
  request? a := match a.operands with
    | [] =>
      some (.writeConfiguration ((a.last? .configuration).getD "scriptcore.yaml") (a.has .force))
    | _ => none

/-- Reads the words behind the name of a command. -/
def read (g : Grammar) (manner : Manner) (words : List String) : Reading :=
  Arguments.proceed (Arguments.read g.choices true words) fun a =>
    match g.request? a with
    | some r => .request manner r
    | none => .refused

end Grammar

/-- The commands by their names. -/
def commands : List (String × Grammar) := [
  ("run", .run), ("eval", .eval), ("defaults", .defaults), ("library", .library)]

/-- The commands about configurations by their names. -/
def configurationCommands : List (String × Grammar) := [
  ("show", .showConfiguration), ("init", .writeConfiguration)]

/-- Reads a command among several. -/
def readAmong (grammars : List (String × Grammar)) (manner : Manner) : List String → Reading
  | [] => .refused
  | name :: words =>
    match grammars.lookup name with
    | some g => g.read manner words
    | none => .refused

/-- Reads the words behind the options that come first. -/
def readCommand (manner : Manner) : List String → Reading
  | "config" :: words =>
    Arguments.proceed (Arguments.read [helpChoice] false words) fun a =>
      readAmong configurationCommands manner a.operands
  | words => readAmong commands manner words

/-- What the words of a command line come to. -/
def Reading.ofWords (words : List String) : Reading :=
  if words.isEmpty then .usage false
  else
    Arguments.proceed (Arguments.read mannerChoices false words) fun a =>
      readCommand ⟨a.has .quiet, a.has .debug, a.last? .configuration⟩ a.operands

/-- Without any word, the usage is shown, and nobody asked for it. -/
example : Reading.ofWords [] = .usage false := rfl

end ScriptHost.Command
