import ScriptHost.Log.Level
import ScriptHost.Schema.Checked
import ScriptHost.Text.Blank

/-!
# Configurations

A configuration has four sections: the folders of the file system, the script library, what
scripts are executed with, and logging.  Each section is read from loose fields and has a
default for every field; fields that a section does not know are ignored, sections that a
configuration does not know are refused.
-/

namespace ScriptHost

/-- The folders that scripts are run with. -/
structure FolderSettings where
  /-- The working directory; that of the process if there is none. -/
  currentDirectory : Option String
  binFolder : String
  cacheFolder : String
  packagesFolder : String
  deriving DecidableEq, Repr

/-- The script library. -/
structure LibrarySettings where
  fileName : String
  deriving DecidableEq, Repr

/-- What scripts are executed with. -/
structure ExecutionSettings where
  references : List String
  namespaces : List String
  packs : List String
  engine : String
  preProcessor : String
  deriving DecidableEq, Repr

/-- How much is logged. -/
inductive Threshold where
  | debug
  | info
  | warning
  | error
  deriving DecidableEq, Repr

/-- Where and how much is logged. -/
structure LoggingSettings where
  threshold : Threshold
  /-- The log file; none if only the console is written to. -/
  file : Option String
  isJson : Bool
  deriving DecidableEq, Repr

/-- A configuration. -/
structure Configuration where
  folders : FolderSettings
  library : LibrarySettings
  execution : ExecutionSettings
  logging : LoggingSettings
  deriving DecidableEq, Repr

namespace Threshold

/-- The word for a threshold. -/
def word : Threshold → String
  | debug => "DEBUG"
  | info => "INFO"
  | warning => "WARNING"
  | error => "ERROR"

/-- The least level that is logged. -/
def level : Threshold → Log.Level
  | debug => .debug
  | info => .info
  | warning => .warning
  | error => .error

/-- The threshold of a word. -/
def ofWord? (s : String) : Option Threshold :=
  [debug, info, warning, error].find? fun t => t.word = s

theorem ofWord?_word (t : Threshold) : ofWord? t.word = some t := by cases t <;> rfl

end Threshold

/-! ## Reading sections -/

namespace Schema

/-- The name of a folder: a text that is not blank, without the blanks around it. -/
def folder (d : Datum) : Checked String :=
  match text d with
  | .error issues => .error issues
  | .ok s =>
    if (Text.stripChars s.toList).isEmpty then .complain .folderBlank else .ok (Text.strip s)

/-- A threshold by its word. -/
def threshold (d : Datum) : Checked Threshold :=
  match d.text?.bind Threshold.ofWord? with
  | some t => .ok t
  | none => .complain (if d.text?.any Text.isBroken then .textUnreadable else .levelUnknown)

/-- A section: a mapping, from which its fields are read. -/
def section_ {α : Type} (model : String) (read : Fields → Checked α) : Datum → Checked α
  | .dict entries => read entries
  | _ => .complain (.sectionExpected model)

end Schema

open Schema (Checked Fields)

/-- The folders from loose fields. -/
def FolderSettings.ofFields (fields : Fields) : Checked FolderSettings :=
  let start : Checked _ := .ok FolderSettings.mk
  start
    |>.field (Schema.optional "current_directory" Schema.optionalText none fields)
    |>.field (Schema.optional "bin_folder" Schema.folder "bin" fields)
    |>.field (Schema.optional "dll_cache_folder" Schema.folder ".cache" fields)
    |>.field (Schema.optional "packages_folder" Schema.folder "packages" fields)

/-- The script library from loose fields. -/
def LibrarySettings.ofFields (fields : Fields) : Checked LibrarySettings :=
  let start : Checked _ := .ok LibrarySettings.mk
  start |>.field (Schema.optional "file_name" Schema.text "ScriptLibraries.csx" fields)

/-- What scripts are executed with, from loose fields. -/
def ExecutionSettings.ofFields (fields : Fields) : Checked ExecutionSettings :=
  let start : Checked _ := .ok ExecutionSettings.mk
  start
    |>.field (Schema.optional "references" Schema.texts [] fields)
    |>.field (Schema.optional "namespaces" Schema.texts [] fields)
    |>.field (Schema.optional "script_packs" Schema.texts [] fields)
    |>.field (Schema.optional "engine" Schema.text "scriptcore.hosting.engine:DryRunEngine" fields)
    |>.field (Schema.optional "preprocessor" Schema.text
      "scriptcore.hosting.preprocessor:PassthroughPreProcessor" fields)

/-- Where and how much is logged, from loose fields. -/
def LoggingSettings.ofFields (fields : Fields) : Checked LoggingSettings :=
  let start : Checked _ := .ok LoggingSettings.mk
  start
    |>.field (Schema.optional "level" Schema.threshold .info fields)
    |>.field (Schema.optional "file" Schema.optionalText none fields)
    |>.field (Schema.optional "json_format" Schema.truth false fields)

/-! ## The sections of a configuration -/

/-- A section: its name, its model, and its fields with whether they hold lists. -/
structure SectionShape where
  name : String
  model : String
  fields : List (String × Bool)

/-- The folders of the file system. -/
def folderShape : SectionShape :=
  ⟨"filesystem", "FileSystemConfig",
    [("current_directory", false), ("bin_folder", false), ("dll_cache_folder", false),
      ("packages_folder", false)]⟩

/-- The script library. -/
def libraryShape : SectionShape := ⟨"library", "LibraryConfig", [("file_name", false)]⟩

/-- What scripts are executed with. -/
def executionShape : SectionShape :=
  ⟨"execution", "ExecutionConfig",
    [("references", true), ("namespaces", true), ("script_packs", true), ("engine", false),
      ("preprocessor", false)]⟩

/-- Where and how much is logged. -/
def loggingShape : SectionShape :=
  ⟨"logging", "LoggingConfig", [("level", false), ("file", false), ("json_format", false)]⟩

/-- The sections in order. -/
def sectionShapes : List SectionShape := [folderShape, libraryShape, executionShape, loggingShape]

namespace Configuration

/-- The name of the model. -/
def model : String := "ScriptCoreConfig"

/-- One section, read under its name; its defaults if it is not mentioned. -/
def sectionOf {α : Type} (shape : SectionShape) (read : Fields → Checked α) (sections : Fields) :
    Checked α :=
  match Datum.entry? shape.name sections with
  | some d => Checked.within (.field shape.name) d (Schema.section_ shape.model read d)
  | none => read []

/-- The issues of the names that are no sections. -/
def unknownNames (named : List (String × Datum)) : Checked Unit :=
  let unknown := named.filter fun e => !sectionShapes.any fun shape => shape.name == e.1
  if unknown.isEmpty then .ok ()
  else .error (unknown.map fun (name, d) =>
    if Text.isBroken name then ⟨[], .textUnreadable, Checked.givenOf (.text name)⟩
    else ⟨[.field name], .unknownField, Checked.givenOf d⟩)

/-- A configuration from its sections, by name. -/
def ofSections (sections : Fields) : Except Failure Configuration :=
  let start : Checked _ := .ok fun folders library execution logging (_ : Unit) =>
    Configuration.mk folders library execution logging
  let checked := start
    |>.field (sectionOf folderShape FolderSettings.ofFields sections)
    |>.field (sectionOf libraryShape LibrarySettings.ofFields sections)
    |>.field (sectionOf executionShape ExecutionSettings.ofFields sections)
    |>.field (sectionOf loggingShape LoggingSettings.ofFields sections)
    |>.field (unknownNames (sections.filterMap fun e => e.1.text?.map fun name => (name, e.2)))
  checked.mapError (Failure.invalid model)

end Configuration

/-! ## Configurations as loose data -/

/-- The folders as loose fields. -/
def FolderSettings.toDatum (s : FolderSettings) : Datum :=
  .fields [
    ("current_directory", .ofOption s.currentDirectory), ("bin_folder", .text s.binFolder),
    ("dll_cache_folder", .text s.cacheFolder), ("packages_folder", .text s.packagesFolder)]

/-- The script library as loose fields. -/
def LibrarySettings.toDatum (s : LibrarySettings) : Datum :=
  .fields [("file_name", .text s.fileName)]

/-- What scripts are executed with, as loose fields. -/
def ExecutionSettings.toDatum (s : ExecutionSettings) : Datum :=
  .fields [
    ("references", .texts s.references), ("namespaces", .texts s.namespaces),
    ("script_packs", .texts s.packs), ("engine", .text s.engine),
    ("preprocessor", .text s.preProcessor)]

/-- Where and how much is logged, as loose fields. -/
def LoggingSettings.toDatum (s : LoggingSettings) : Datum :=
  .fields [
    ("level", .text s.threshold.word), ("file", .ofOption s.file), ("json_format", .bool s.isJson)]

namespace Configuration

/-- The sections of a configuration by name. -/
def sections (c : Configuration) : List (String × Datum) :=
  [(folderShape.name, c.folders.toDatum), (libraryShape.name, c.library.toDatum),
    (executionShape.name, c.execution.toDatum), (loggingShape.name, c.logging.toDatum)]

/-- A configuration as loose data. -/
def toDatum (c : Configuration) : Datum := .fields c.sections

/-- The sections, and how each of them is completed by its defaults. -/
def completions : List (SectionShape × (Fields → Checked Datum)) := [
  (folderShape, fun fields => (FolderSettings.ofFields fields).map FolderSettings.toDatum),
  (libraryShape, fun fields => (LibrarySettings.ofFields fields).map LibrarySettings.toDatum),
  (executionShape, fun fields => (ExecutionSettings.ofFields fields).map ExecutionSettings.toDatum),
  (loggingShape, fun fields => (LoggingSettings.ofFields fields).map LoggingSettings.toDatum)]

/-- The section of a name with its defaults, from its fields alone. -/
def section? (name : String) (fields : Fields) : Option (Except Failure Datum) :=
  (completions.find? fun c => c.1.name = name).map fun (shape, complete) =>
    (complete fields).mapError (Failure.invalid shape.model)

end Configuration

end ScriptHost
