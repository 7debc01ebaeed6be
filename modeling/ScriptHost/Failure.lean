import ScriptHost.Fault
import ScriptHost.Path
import ScriptHost.Schema.Issue
import ScriptHost.Text.Utf8

/-!
# Failures

Everything that an operation of the library can answer instead of a value, by cause.  The
wording of every cause is in one function, `Failure.message`.

A failure is one of the host's own when the host itself refuses: an argument is absent, the
session is in the wrong phase, or a plugin cannot be loaded.  Those are reported to the person
at the terminal; a fault that a collaborator raised passes through unchanged.
-/

namespace ScriptHost

/-- The phases of a session. -/
inductive Phase where
  | notStarted
  | started
  | ended
  deriving DecidableEq, Repr, Inhabited

namespace Phase

/-- The word for a phase. -/
def word : Phase → String
  | notStarted => "uninitialized"
  | started => "initialized"
  | ended => "terminated"

/-- What a phase means. -/
def description : Phase → String
  | notStarted => "Script packs not yet initialized"
  | started => "Accepting executions"
  | ended => "Script packs terminated, no further executions"

/-- The phase of a word. -/
def ofWord? (s : String) : Option Phase :=
  [notStarted, started, ended].find? fun p => p.word = s

theorem ofWord?_word (p : Phase) : ofWord? p.word = some p := by cases p <;> rfl

end Phase

/-- Why an operation on a session is refused. -/
inductive SessionRefusal where
  /-- The executor's session is started and must be ended first. -/
  | stillActive
  /-- The executor has no started session. -/
  | notStarted
  /-- The executor's session has ended. -/
  | ended
  /-- An ended session is asked to start over. -/
  | resetEnded
  /-- A session that is not new is asked to start. -/
  | cannotStart (phase : Phase)
  /-- An ended session is asked to end. -/
  | alreadyEnded
  /-- No pack shows a context of the type. -/
  | noContext (type : String)
  deriving DecidableEq, Repr

/-- Why the target of a dotted path cannot be had. -/
inductive ImportFault where
  /-- The path does not name both a module and an attribute. -/
  | malformed (path : String)
  /-- A module is missing; its parent is given if that is a plain module. -/
  | noModule (name : String) (plainParent : Option String)
  | noMember (owner member : String)
  /-- The code of a module reports an import that failed. -/
  | reported (detail : String)
  deriving DecidableEq, Repr

/-- Why a plugin cannot be loaded. -/
inductive PluginRefusal where
  | cannotImport (path : String) (cause : ImportFault)
  | cannotImportPack (path : String) (cause : ImportFault)
  | notPack (path : String)
  | notSubclass (path base : String)
  deriving DecidableEq, Repr

/-- What the disk refuses. -/
inductive DiskRefusal where
  | missing
  | isDirectory
  | notDirectory
  | alreadyThere
  | nameTooLong
  deriving DecidableEq, Repr

/-- Why console markup cannot be shown. -/
inductive MarkupFault where
  /-- A closing tag has no open tag of its name. -/
  | unmatched (tag : String) (position : Nat)
  /-- A closing tag without a name has no open tag at all. -/
  | nothingOpen (tag : String) (position : Nat)
  /-- What stands behind the equals sign of a closed tag has no meaning. -/
  | unreadable (parameters : String)
  deriving DecidableEq, Repr

/-- Where settings come from besides a configuration itself. -/
inductive SettingSource where
  | environment
  | variableFile
  | secretFolder
  deriving DecidableEq, Repr

/-- Everything that can go wrong. -/
inductive Failure where
  | absentArgument (name : String)
  | absentProperty (name property : String)
  | session (refusal : SessionRefusal)
  | plugin (refusal : PluginRefusal)
  | imports (fault : ImportFault)
  /-- A model rejects its fields. -/
  | invalid (model : String) (issues : List Schema.Issue)
  /-- A setting is not JSON. -/
  | undecodableSetting (source : SettingSource) (field : String)
  /-- A setting cannot be looked up. -/
  | unusableSetting (source : SettingSource) (field : String)
  /-- What is to be a folder of secrets is a file. -/
  | secretsNoFolder
  /-- A document is not well formed. -/
  | malformedDocument
  | missingConfiguration (path : String)
  | disk (refusal : DiskRefusal) (path : String)
  /-- A path holds a NUL character. -/
  | nulInPath
  /-- A path holds a run of codes that are no characters. -/
  | unencodable (run : List Nat) (position : Nat)
  | undecodable (fault : Text.Utf8Fault)
  | markup (fault : MarkupFault)
  /-- A value, as it shows itself, is none of the words of an enumeration. -/
  | unknownWord (shown enumeration : String)
  /-- A value has a type that the operation does not take. -/
  | wrongType (detail : String)
  /-- A format directive is unknown or incomplete. -/
  | badFormat (detail : String)
  | noAttribute (name : String)
  /-- The clock cannot count the years up to a moment. -/
  | momentTooFar
  /-- A collaborator raised a fault of its own. -/
  | raised (fault : Fault)
  deriving DecidableEq, Repr

namespace SessionRefusal

/-- The text of a refusal. -/
def message : SessionRefusal → String
  | stillActive => "Executor already has an active session; terminate it first"
  | notStarted => "Executor is not initialized"
  | ended => "Executor session has been terminated"
  | resetEnded => "Cannot reset a terminated session"
  | cannotStart phase => "Cannot initialize a session that is " ++ phase.word
  | alreadyEnded => "Session is already terminated"
  | noContext type => "No script pack provides a " ++ type ++ " context"

end SessionRefusal

namespace ImportFault

/-- The text of a fault. -/
def message : ImportFault → String
  | malformed path => "'" ++ path ++ "' is not a valid import path"
  | noModule name none => "No module named " ++ Text.literal name
  | noModule name (some parent) =>
    "No module named " ++ Text.literal name ++ "; " ++ Text.literal parent ++ " is not a package"
  | noMember owner member =>
    "Module '" ++ owner ++ "' has no attribute '" ++ member ++ "'"
  | reported detail => detail

end ImportFault

namespace PluginRefusal

/-- The text of a refusal. -/
def message : PluginRefusal → String
  | cannotImport path cause => "Cannot import '" ++ path ++ "': " ++ cause.message
  | cannotImportPack path cause =>
    "Cannot import script pack '" ++ path ++ "': " ++ cause.message
  | notPack path => "'" ++ path ++ "' is not a ScriptPack"
  | notSubclass path base => "'" ++ path ++ "' is not a " ++ base ++ " subclass"

end PluginRefusal

namespace DiskRefusal

/-- The number and the text of a refusal. -/
def message : DiskRefusal → String
  | missing => "[Errno 2] No such file or directory"
  | isDirectory => "[Errno 21] Is a directory"
  | notDirectory => "[Errno 20] Not a directory"
  | alreadyThere => "[Errno 17] File exists"
  | nameTooLong => "[Errno 36] File name too long"

end DiskRefusal

namespace SettingSource

/-- The word for a source. -/
def word : SettingSource → String
  | environment => "EnvSettingsSource"
  | variableFile => "DotEnvSettingsSource"
  | secretFolder => "SecretsSettingsSource"

/-- A field, and the source that it comes from. -/
def named (source : SettingSource) (field : String) : String :=
  "field \"" ++ field ++ "\" from source \"" ++ source.word ++ "\""

end SettingSource

namespace MarkupFault

/-- The text of a fault. -/
def message : MarkupFault → String
  | unmatched tag position =>
    "closing tag '" ++ tag ++ "' at position " ++ Number.natText position ++
      " doesn't match any open tag"
  | nothingOpen tag position =>
    "closing tag '" ++ tag ++ "' at position " ++ Number.natText position ++
      " has nothing to close"
  | unreadable parameters => "error parsing " ++ Text.literal parameters

end MarkupFault

/-- What is wrong with a text that no bytes stand for, for a person. -/
def unencodableText (run : List Nat) (position : Nat) : String :=
  let place := match run with
    | [code] =>
      "can't encode character '\\u" ++ String.ofList (Text.hexDigits 4 code) ++
        "' in position " ++ Number.natText position
    | _ =>
      "can't encode characters in position " ++ Number.natText position ++ "-" ++
        Number.natText (position + run.length - 1)
  "'utf-8' codec " ++ place ++ ": surrogates not allowed"

/-- What is wrong with a byte sequence, for a person. -/
def undecodableText (fault : Text.Utf8Fault) : String :=
  let place :=
    if fault.length = 1 then
      "can't decode byte 0x" ++ String.ofList (Text.hexDigits 2 fault.byte.toNat) ++
        " in position " ++ Number.natText fault.position
    else
      "can't decode bytes in position " ++ Number.natText fault.position ++ "-" ++
        Number.natText (fault.position + fault.length - 1)
  let reason := match fault.reason with
    | .badStart => "invalid start byte"
    | .badContinuation => "invalid continuation byte"
    | .truncated => "unexpected end of data"
  "'utf-8' codec " ++ place ++ ": " ++ reason

namespace Failure

/-- The text of a failure. -/
def message : Failure → String
  | absentArgument name => "Argument '" ++ name ++ "' must not be None"
  | absentProperty name property =>
    "Property '" ++ property ++ "' of argument '" ++ name ++ "' must not be None"
  | session refusal => refusal.message
  | plugin refusal => refusal.message
  | imports fault => fault.message
  | invalid model issues => Schema.report model issues
  | undecodableSetting source field => "error parsing value for " ++ source.named field
  | unusableSetting source field => "error getting value for " ++ source.named field
  | secretsNoFolder => "secrets_dir must reference a directory, not a file"
  | malformedDocument => "the document is not well formed"
  | missingConfiguration path => "Config file not found: " ++ path
  | disk refusal path => refusal.message ++ ": " ++ Text.literal path
  | nulInPath => "embedded null byte"
  | unencodable run position => unencodableText run position
  | undecodable fault => undecodableText fault
  | markup fault => fault.message
  | unknownWord shown enumeration => shown ++ " is not a valid " ++ enumeration
  | wrongType detail => detail
  | badFormat detail => detail
  | noAttribute name => name
  | momentTooFar => "[Errno 75] Value too large for defined data type"
  | raised fault => fault.message

/-- The argument that an absent-argument failure is about. -/
def argument? : Failure → Option String
  | absentArgument name => some name
  | absentProperty name property => some (name ++ "." ++ property)
  | _ => none

/-- The kind of a failure, by the names that the kinds of faults have. -/
def kind : Failure → String
  | absentArgument _ | absentProperty .. => "InvalidArgumentError"
  | session _ => "SessionStateError"
  | plugin _ => "PluginLoadError"
  | imports (.noModule ..) => "ModuleNotFoundError"
  | imports _ => "ImportError"
  | invalid .. => "ValidationError"
  | undecodableSetting .. | unusableSetting .. | secretsNoFolder => "SettingsError"
  | malformedDocument => "YAMLError"
  | missingConfiguration _ | disk .missing _ => "FileNotFoundError"
  | disk .isDirectory _ => "IsADirectoryError"
  | disk .notDirectory _ => "NotADirectoryError"
  | disk .alreadyThere _ => "FileExistsError"
  | disk .nameTooLong _ | momentTooFar => "OSError"
  | nulInPath | unknownWord .. | badFormat _ => "ValueError"
  | undecodable _ => "UnicodeDecodeError"
  | unencodable .. => "UnicodeEncodeError"
  | markup _ => "MarkupError"
  | wrongType _ => "TypeError"
  | noAttribute _ => "AttributeError"
  | raised fault => fault.kind

/-- Whether the host itself refuses. -/
def isOwn : Failure → Bool
  | absentArgument _ | absentProperty .. | session _ | plugin _ => true
  | raised fault =>
    Fault.ownKinds.contains fault.kind
  | _ => false

/-- Whether a file is missing. -/
def isMissingFile : Failure → Bool
  | missingConfiguration _ | disk .missing _ => true
  | raised fault => fault.kind == "FileNotFoundError"
  | _ => false

/-- Whether a value, rather than its type or the disk, is at fault. -/
def isBadValue : Failure → Bool
  | absentArgument _ | absentProperty .. | invalid .. | undecodableSetting ..
  | unusableSetting .. | secretsNoFolder | nulInPath | unencodable ..
  | undecodable _ | unknownWord .. | badFormat _ => true
  | raised fault =>
    ["ValueError", "UnicodeDecodeError", "InvalidArgumentError"].contains fault.kind
  | _ => false

end Failure

/-- A chain of tasks goes on only if its first one does. -/
theorem exists_of_bind_ok {ε α β : Type} {first : Except ε α} {next : α → Except ε β} {b : β}
    (h : (first >>= next) = .ok b) : ∃ a, first = .ok a ∧ next a = .ok b := by
  cases first with
  | error f => cases h
  | ok a => exact ⟨a, rfl, h⟩

/-- A chain of tasks fails in its first one, or in those that follow. -/
theorem or_of_bind_error {ε α β : Type} {first : Except ε α} {next : α → Except ε β} {e : ε}
    (h : (first >>= next) = .error e) :
    first = .error e ∨ ∃ a, first = .ok a ∧ next a = .error e := by
  cases first with
  | error f =>
      cases h
      exact .inl rfl
  | ok a => exact .inr ⟨a, rfl, h⟩

theorem error_of_map {ε α β : Type} {answer : Except ε α} {g : α → β} {e : ε}
    (h : answer.map g = .error e) : answer = .error e := by
  cases answer with
  | error f =>
      cases h
      rfl
  | ok a => cases h

theorem exists_of_map_ok {ε α β : Type} {answer : Except ε α} {g : α → β} {b : β}
    (h : answer.map g = .ok b) : ∃ a, answer = .ok a ∧ g a = b := by
  cases answer with
  | error f => cases h
  | ok a =>
      cases h
      exact ⟨a, rfl, rfl⟩

theorem eq_ok_of_toOption {ε α : Type} {answer : Except ε α} {a : α}
    (h : answer.toOption = some a) : answer = .ok a := by
  cases answer with
  | error f => cases h
  | ok b =>
      cases h
      rfl

theorem exists_of_toOption {ε α : Type} {answer : Except ε α}
    (h : answer.toOption.isSome = true) : ∃ a, answer = .ok a := by
  cases answer with
  | error f => cases h
  | ok a => exact ⟨a, rfl⟩

end ScriptHost
