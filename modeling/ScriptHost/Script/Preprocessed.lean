import ScriptHost.Failure
import ScriptHost.Schema.Checked

/-!
# Pre-processed scripts

What a pre-processor makes of a script: code that is ready to run, and what the script
declares.  A script library is spliced in by putting its code in front and its declarations
behind those of the script.
-/

namespace ScriptHost

/-- A pre-processed script. -/
structure Preprocessed where
  code : String
  references : List String
  namespaces : List String
  /-- The files that were read on the way. -/
  loadPaths : List String
  deriving DecidableEq, Repr, Inhabited

namespace Preprocessed

/-- A script without declarations. -/
def plain (code : String) : Preprocessed := ⟨code, [], [], []⟩

/-- A script with a library in front of it, on lines of their own. -/
def withLibrary (script library : Preprocessed) : Preprocessed :=
  { script with
    code := library.code ++ "\n" ++ script.code
    references := script.references ++ library.references
    namespaces := script.namespaces ++ library.namespaces }

/-- A pre-processed script from loose fields. -/
def ofFields (fields : Schema.Fields) : Except Failure Preprocessed :=
  let start : Schema.Checked _ := .ok Preprocessed.mk
  let checked := start
    |>.field (Schema.optional "code" Schema.text "" fields)
    |>.field (Schema.optional "references" Schema.texts [] fields)
    |>.field (Schema.optional "namespaces" Schema.texts [] fields)
    |>.field (Schema.optional "load_paths" Schema.texts [] fields)
  checked.mapError (Failure.invalid "FilePreProcessorResult")

/-- A pre-processed script as loose fields. -/
def toDatum (p : Preprocessed) : Datum :=
  .fields [
    ("code", .text p.code), ("references", .texts p.references),
    ("namespaces", .texts p.namespaces), ("load_paths", .texts p.loadPaths)]

end Preprocessed

end ScriptHost
