import ScriptHost.Script.Result
import ScriptHost.Trail

/-!
# Engines

An engine runs code.  What it answers depends on what it is handed and on the calls made
before.  The dry-run engine runs nothing: it answers the plan of what it was handed.

## Main results

* `plans_execute` — every execution adds its plan behind the earlier ones.
-/

namespace ScriptHost

/-- A script engine. -/
structure Engine where
  kind : String
  /-- The answer to a submission, given the calls made before. -/
  run : List Call → Submission → Except Failure ScriptResult

namespace Submission

/-- A submission written down as a plan. -/
def plan (s : Submission) : Plan where
  fileName := s.desk.fileName
  baseDirectory := s.desk.baseDirectory
  cacheDirectory := s.desk.cacheDirectory
  code := s.code
  arguments := s.arguments
  references := s.paths
  moduleReferences := s.modules.map Module.name
  namespaces := s.namespaces
  packReferences := s.session.references
  packNamespaces := s.session.namespaces

end Submission

/-- The submissions that an engine has received, oldest first. -/
def submissions (calls : List Call) : List Submission :=
  (calls.filterMap fun | .execute s => some s | _ => none).reverse

namespace Engine

/-- The engine that plans instead of running.  The texts of a plan are texts of characters: what
becomes of a submission with a code without a character in it, `Engine.checked` says. -/
def dryRun : Engine where
  kind := "DryRunEngine"
  run _ s := .ok (.returning (.plan s.plan))

end Engine

/-- The plans of everything that an engine has received. -/
def plans (calls : List Call) : List Plan := (submissions calls).map Submission.plan

theorem plans_execute (calls : List Call) (s : Submission) :
    plans (.execute s :: calls) = plans calls ++ [s.plan] := by
  simp [plans, submissions]

end ScriptHost
