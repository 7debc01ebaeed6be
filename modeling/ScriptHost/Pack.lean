import ScriptHost.Trail

/-!
# Script packs

A pack takes part in a session: when the session starts it contributes references, namespaces
and data, then it may show a context to scripts, and when the session ends it is asked to stop.
Each of the three hooks may fail, at some calls and not at others.
-/

namespace ScriptHost

/-- A script pack. -/
structure Pack where
  label : PackLabel
  /-- What the pack does to a session that starts, given the calls made before. -/
  onStart : List Call → List PackAction
  /-- The context that the pack shows, if any. -/
  context : List Call → Except Failure (Option Context)
  /-- The failure with which the pack stops, if any. -/
  onStop : List Call → Option Failure

namespace Pack

/-- The name of a pack. -/
def name (p : Pack) : String := p.label.name

/-- A pack that does the same at every call and never fails to show its context or to stop. -/
def steady (label : PackLabel) (actions : List PackAction) (context : Option Context) : Pack :=
  ⟨label, fun _ => actions, fun _ => .ok context, fun _ => none⟩

end Pack

end ScriptHost
