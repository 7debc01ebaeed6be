import ScriptHost.Text.Literal

/-!
# Faults raised by collaborators

An engine, a pack, a pre-processor or a file system may fail in ways of its own.  Such a fault
is carried through unchanged; all that is known of it is its kind and its text.
-/

namespace ScriptHost

/-- A fault by its kind and the text it was raised with. -/
structure Fault where
  kind : String
  text : String
  deriving DecidableEq, Repr, Inhabited

namespace Fault

/-- The text that a fault shows: a missing key is shown as a literal. -/
def message (f : Fault) : String :=
  if f.kind = "KeyError" then Text.literal f.text else f.text

/-- The kinds of the host's own errors. -/
def ownKinds : List String :=
  ["ScriptCoreError", "InvalidArgumentError", "SessionStateError", "PluginLoadError"]

/-- The kind of a fault as a report names it: those of the host with the place they come from. -/
def qualifiedKind (f : Fault) : String :=
  if ownKinds.contains f.kind then "scriptcore.core.errors." ++ f.kind else f.kind

/-- A fault in a report: its kind, and what it shows if that is not empty. -/
def report (f : Fault) : String :=
  let shown :=
    if f.kind = "SyntaxError" ∧ f.text.isEmpty then "<no detail available>" else f.message
  if shown.isEmpty then f.qualifiedKind else f.qualifiedKind ++ ": " ++ shown

end Fault

end ScriptHost
