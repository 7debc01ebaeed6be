import ScriptHost.Config.Merge
import ScriptHost.Yaml.Printer
import ScriptHost.Yaml.Value

/-!
# Configuration files

A configuration file is a YAML mapping from the names of sections to their fields.  If no file
is asked for, the first file with one of the usual names counts, and without any of them the
sections come from the environment and the defaults alone.

## Main results

* `load_missing` — a file that is asked for and is not there is refused.
-/

namespace ScriptHost

open Yaml (Block)

namespace Configuration

/-! ## Reading -/

/-- The names under which a file is looked for in the current directory. -/
def usualNames : List String := ["scriptcore.yaml", "scriptcore.yml"]

/-- The first of several paths that leads to anything. -/
def firstOf (d : Disk) : List String → Except Failure (Option String)
  | [] => .ok none
  | path :: paths =>
    match d.exists_ path with
    | .error f => .error f
    | .ok true => .ok (some path)
    | .ok false => firstOf d paths

/-- The file that a configuration is read from, if there is one. -/
def source (d : Disk) (path : Option String) : Except Failure (Option String) :=
  match path with
  | none | some "" => firstOf d usualNames
  | some path =>
    match d.exists_ path with
    | .error f => .error f
    | .ok true => .ok (some path)
    | .ok false => .error (.missingConfiguration (Path.normalText path))

/-- The entries with names, if all of them have one. -/
def named? (entries : List (Datum × Datum)) : Option (List (String × Datum)) :=
  entries.mapM fun e => e.1.text?.map fun name => (name, e.2)

/-- The sections that a document gives; one that counts as nothing gives none. -/
def sectionsOf (document : Datum) : Except Failure (List (String × Datum)) :=
  if !document.isTruthy then .ok []
  else
    match document with
    | .dict entries =>
      match named? entries with
      | some sections => .ok sections
      | none => .error (.wrongType "keywords must be strings")
    | _ => .error (.wrongType "argument after ** must be a mapping")

/-- The sections in a file. -/
def sectionsIn (d : Disk) (path : String) : Except Failure (List (String × Datum)) := do
  let (cs, fault?) := Text.readPieces (← d.contentOf path)
  let source := Yaml.Source.ofChars (Text.plainNewlineChars cs) (fault?.map Failure.undecodable)
  sectionsOf (← Yaml.read source)

/-- The configuration of a file and an environment. -/
def load (env : Environment) (d : Disk) (path : Option String) : Except Failure Configuration := do
  match ← source d path with
  | none => make env d []
  | some path => make env d (← sectionsIn d path)

theorem load_missing {env : Environment} {d : Disk} {path : String} (hne : path ≠ "")
    (h : d.exists_ path = .ok false) :
    load env d (some path) = .error (.missingConfiguration (Path.normalText path)) := by
  have hs : source d (some path) = .error (.missingConfiguration (Path.normalText path)) := by
    unfold source
    split
    · next e => cases e
    · next e => cases e; exact absurd rfl hne
    · next e => cases e; rw [h]
  simp [load, hs, bind, Except.bind]

end Configuration

/-! ## Writing -/

/-- A field, unless it has no value. -/
def givenField (name : String) (value : Option String) : List (String × Block) :=
  (value.map fun s => (name, Block.text s)).toList

/-- The folders as written fields. -/
def FolderSettings.written (s : FolderSettings) : Block :=
  .fields (givenField "current_directory" s.currentDirectory ++ [
    ("bin_folder", .text s.binFolder), ("dll_cache_folder", .text s.cacheFolder),
    ("packages_folder", .text s.packagesFolder)])

/-- The script library as written fields. -/
def LibrarySettings.written (s : LibrarySettings) : Block :=
  .fields [("file_name", .text s.fileName)]

/-- What scripts are executed with, as written fields. -/
def ExecutionSettings.written (s : ExecutionSettings) : Block :=
  .fields [
    ("references", .texts s.references), ("namespaces", .texts s.namespaces),
    ("script_packs", .texts s.packs), ("engine", .text s.engine),
    ("preprocessor", .text s.preProcessor)]

/-- Where and how much is logged, as written fields. -/
def LoggingSettings.written (s : LoggingSettings) : Block :=
  .fields (("level", .text s.threshold.word) :: givenField "file" s.file ++ [
    ("json_format", .truth s.isJson)])

namespace Configuration

/-- The text of a configuration file. -/
def fileText (c : Configuration) : String :=
  Block.print [
    (folderShape.name, c.folders.written), (libraryShape.name, c.library.written),
    (executionShape.name, c.execution.written), (loggingShape.name, c.logging.written)]

/-- The disk with a configuration in a file, whose directory is made if it is not there. -/
def save (c : Configuration) (d : Disk) (path : String) : Except Failure Disk := do
  (← d.ensureParent path).write path c.fileText

end Configuration

end ScriptHost
