import ScriptHost.Script.Plan

/-!
# Results of a script

What an engine answers: a value, or what went wrong in compiling or running the code, and
whether the code was complete.
-/

namespace ScriptHost

/-- What a script returned. -/
inductive ReturnValue where
  /-- The script was planned, not run. -/
  | plan (plan : Plan)
  | datum (value : Datum)
  deriving Repr, Inhabited

/-- What an engine answers. -/
structure ScriptResult where
  value : ReturnValue
  compileError : Option Fault
  executeError : Option Fault
  /-- Namespaces that the engine could not open. -/
  invalidNamespaces : List String
  /-- False when the engine expects more input. -/
  isComplete : Bool
  deriving Repr, Inhabited

namespace ScriptResult

/-- The result of a script that ran and returned a value. -/
def returning (value : ReturnValue) : ScriptResult := ⟨value, none, none, [], true⟩

/-- The result of a script that ran and returned nothing. -/
def nothing : ScriptResult := returning (.datum .null)

/-- Whether neither compiling nor running failed. -/
def isSuccess (r : ScriptResult) : Bool := r.compileError.isNone && r.executeError.isNone

/-- A result in one line: what failed first, or how it went. -/
def summary (r : ScriptResult) : String :=
  match r.compileError, r.executeError with
  | some fault, _ => "[COMPILE ERROR] " ++ fault.message
  | none, some fault => "[EXECUTION ERROR] " ++ fault.message
  | none, none => if r.isComplete then "[SUCCESS]" else "[INCOMPLETE] awaiting more input"

/-- A result from loose fields; the returned value is given by itself if it is a plan. -/
def ofFields (fields : Schema.Fields) (plan : Option Plan) : Except Failure ScriptResult :=
  let value : ReturnValue := match plan with
    | some plan => .plan plan
    | none => .datum ((Datum.entry? "return_value" fields).getD .null)
  let start : Schema.Checked _ := .ok (ScriptResult.mk value)
  let checked := start
    |>.field (Schema.optional "compile_error" Schema.optionalFault none fields)
    |>.field (Schema.optional "execute_error" Schema.optionalFault none fields)
    |>.field (Schema.optional "invalid_namespaces" Schema.texts [] fields)
    |>.field (Schema.optional "is_complete_submission" Schema.truth true fields)
  checked.mapError (Failure.invalid "ScriptResult")

theorem isSuccess_iff (r : ScriptResult) :
    r.isSuccess = true ↔ r.compileError = none ∧ r.executeError = none := by
  simp [isSuccess]

end ScriptResult

end ScriptHost
