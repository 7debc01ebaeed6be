import ScriptHost.Failure
import ScriptHost.Schema.Moment
import ScriptHost.Text.Lines

/-!
# Execution plans

A plan is everything that an engine was asked to run, written down instead of run.
-/

namespace ScriptHost

/-- What an engine was asked to run. -/
structure Plan where
  /-- The name of the script file; a script given as text has none. -/
  fileName : Option String
  baseDirectory : Option String
  cacheDirectory : Option String
  code : String
  arguments : List String
  references : List String
  /-- The names of the modules that are references. -/
  moduleReferences : List String
  namespaces : List String
  packReferences : List String
  packNamespaces : List String
  deriving DecidableEq, Repr, Inhabited

namespace Plan

/-- What a plan is about: the file, or a word for a script given as text. -/
def source (p : Plan) : String :=
  match p.fileName with
  | none | some "" => "<script>"
  | some name => name

/-- A plan in one line. -/
def summary (p : Plan) : String :=
  p.source ++ ": " ++ Number.natText (Text.lines p.code).length ++ " lines, " ++
    Number.natText (p.references.length + p.moduleReferences.length) ++ " references, " ++
    Number.natText p.namespaces.length ++ " namespaces"

/-- Every reference of a plan: the paths, the modules, and what packs contributed. -/
def allReferences (p : Plan) : List String :=
  p.references ++ p.moduleReferences ++ p.packReferences

/-- Every namespace of a plan: those of the execution, then those of packs that are not among
them. -/
def allNamespaces (p : Plan) : List String :=
  p.namespaces ++ p.packNamespaces.filter fun n => !p.namespaces.contains n

/-- A plan from loose fields; the moment at which it was made is checked and forgotten. -/
def ofFields (fields : Schema.Fields) : Except Failure Plan :=
  let start : Schema.Checked _ := .ok fun (_ : Unit) => Plan.mk
  let checked := start
    |>.field (Schema.optional "timestamp" Schema.moment () fields)
    |>.field (Schema.optional "file_name" Schema.optionalText none fields)
    |>.field (Schema.optional "base_directory" Schema.optionalText none fields)
    |>.field (Schema.optional "cache_directory" Schema.optionalText none fields)
    |>.field (Schema.required "code" Schema.text fields)
    |>.field (Schema.optional "script_args" Schema.texts [] fields)
    |>.field (Schema.optional "references" Schema.texts [] fields)
    |>.field (Schema.optional "module_references" Schema.texts [] fields)
    |>.field (Schema.optional "namespaces" Schema.texts [] fields)
    |>.field (Schema.optional "pack_references" Schema.texts [] fields)
    |>.field (Schema.optional "pack_namespaces" Schema.texts [] fields)
  checked.mapError (Failure.invalid "ExecutionPlan")

/-- The fields of a plan. -/
def entries (p : Plan) : List (String × Datum) := [
  ("file_name", .ofOption p.fileName), ("base_directory", .ofOption p.baseDirectory),
  ("cache_directory", .ofOption p.cacheDirectory), ("code", .text p.code),
  ("script_args", .texts p.arguments), ("references", .texts p.references),
  ("module_references", .texts p.moduleReferences), ("namespaces", .texts p.namespaces),
  ("pack_references", .texts p.packReferences), ("pack_namespaces", .texts p.packNamespaces)]

/-- A plan as loose fields. -/
def toDatum (p : Plan) : Datum := .fields p.entries

end Plan

end ScriptHost
