import ScriptHost.Json.Printer
import ScriptHost.Log.Message
import ScriptHost.Log.Record
import ScriptHost.Log.Stamp
import ScriptHost.Text.Case

/-!
# Lines of a log file

A record becomes one line: plain, with its parts separated by bars, or a JSON object.  What a
record carries besides its message is written over the usual members of the object, and the
report of a fault over everything else.
-/

namespace ScriptHost.Log

open Sequence (Entries)

/-- A record as one line of plain text. -/
def plainLine (stamp : Stamp) (r : Record) : String :=
  stamp.plain ++ " | " ++ severityName r.severity ++ " | " ++ r.logger ++ " | " ++ r.message

/-- The usual members of a record, by the name of its level and what stands for its logger. -/
def usualMembers (stamp : Stamp) (level : String) (logger : Json) (message : String) :
    Entries Json := [
  ("timestamp", .text stamp.iso),
  ("level", .text (Text.lower level)),
  ("logger", logger),
  ("message", .text message)]

/-- Members with what a record carries, and with the report of a fault over everything else. -/
def extended (usual : Entries Json) (extra : List (String × Json)) (report : Option String) :
    Entries Json :=
  let members := usual.putAll extra
  match report with
  | some text => members.put "exception" (.text text)
  | none => members

/-- The members of a record as a JSON object. -/
def jsonMembers (stamp : Stamp) (r : Record) (extra : List (String × Json))
    (report : Option String) : List (String × Json) :=
  extended (usualMembers stamp (severityName r.severity) (.text r.logger) r.message) extra report

/-- A record as one line of JSON. -/
def jsonLine (stamp : Stamp) (r : Record) (extra : List (String × Json))
    (report : Option String) : String :=
  (Json.obj (jsonMembers stamp r extra report)).print

/-- What is said about an execution that has ended. -/
def executionRecord (logger source : String) (success : Bool) (seconds : Number.Binary64)
    (error : Option String) : Record :=
  let source := "[magenta]" ++ source ++ "[/]"
  if success then
    .ofLevel .info logger (source ++ " completed in " ++ seconds.fixed 2 ++ "s")
  else
    let reason := match error with
      | none | some "" => "Unknown error"
      | some text => text
    .ofLevel .error logger (source ++ " failed: " ++ reason)

end ScriptHost.Log
