import ScriptHost.Log.Level

/-!
# Log records

What an operation says about its progress.  Records are part of an operation's trail; where
they are shown or written is decided later.
-/

namespace ScriptHost.Log

/-- A record: how urgent it is, which part of the library speaks, and what it says. -/
structure Record where
  severity : Int
  logger : String
  message : String
  deriving DecidableEq, Repr

/-- A record at a named level. -/
def Record.ofLevel (level : Level) (logger message : String) : Record :=
  ⟨level.severity, logger, message⟩

/-- A record for those who look for a defect. -/
def Record.debug (logger message : String) : Record := .ofLevel .debug logger message

/-- One line for a record: its level, its logger and its message. -/
def Record.line (r : Record) : String :=
  severityName r.severity ++ " " ++ r.logger ++ ": " ++ r.message

end ScriptHost.Log
