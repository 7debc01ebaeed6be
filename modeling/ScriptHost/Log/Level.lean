import ScriptHost.Failure

/-!
# Levels of a log

Five named levels on a scale of numbers.  A record may lie between them; it is then named by
its number.
-/

namespace ScriptHost.Log

/-- The named levels. -/
inductive Level where
  | debug
  | info
  | warning
  | error
  | critical
  deriving DecidableEq, Repr, Inhabited

namespace Level

/-- All levels, least urgent first. -/
def all : List Level := [debug, info, warning, error, critical]

/-- The word for a level. -/
def word : Level → String
  | debug => "debug"
  | info => "info"
  | warning => "warning"
  | error => "error"
  | critical => "critical"

/-- The place of a level on the scale. -/
def severity : Level → Nat
  | debug => 10
  | info => 20
  | warning => 30
  | error => 40
  | critical => 50

/-- The level of a word, in lower case. -/
def ofWord (s : String) : Except Failure Level :=
  match all.find? fun l => l.word = s with
  | some l => .ok l
  | none => .error (.unknownWord (Text.literal s) "LogLevel")

theorem ofWord_word (l : Level) : ofWord l.word = .ok l := by cases l <;> rfl

theorem severity_injective {a b : Level} (h : a.severity = b.severity) : a = b := by
  cases a <;> cases b <;> first | rfl | (exact absurd h (by decide))

end Level

/-- The name of a place on the scale, as records show it. -/
def severityName (severity : Int) : String :=
  if severity = 0 then "NOTSET"
  else if severity = 10 then "DEBUG"
  else if severity = 20 then "INFO"
  else if severity = 30 then "WARNING"
  else if severity = 40 then "ERROR"
  else if severity = 50 then "CRITICAL"
  else "Level " ++ Number.intText severity

end ScriptHost.Log
