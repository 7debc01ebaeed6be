import ScriptHost.Datum
import ScriptHost.Failure
import ScriptHost.Number.Binary64

/-!
# Moments in a log

A record carries the moment at which it was made, as two texts: the one that begins a line of a
plain log file, and the one of a JSON log line.  Both are computed from the seconds since the
beginning of 1970, as the clocks of a time zone show them.

A clock counts the seconds in 64 bits and the years in 32.  A moment that is read from loose data
must lie within the years 1 to 9999, and so must the moment a day before it.  If the clocks were
turned back on that day, the moment that they showed in the same way is looked at as well.

## Main results

* `ofDatum_zero` — the beginning of 1970 can be shown in universal time.
-/

namespace ScriptHost.Log

open Number (Binary64 padded roundDiv)

/-- The texts of a moment. -/
structure Stamp where
  plain : String
  iso : String
  deriving DecidableEq, Repr

/-- A time zone: how many seconds its clocks are ahead of universal time, at a second of it. -/
structure Zone where
  ahead : Int → Int

namespace Zone

/-- The zone of universal time. -/
def universal : Zone := ⟨fun _ => 0⟩

/-- The second that the clocks of a zone show, at a second of universal time. -/
def clock (zone : Zone) (second : Int) : Int := second + zone.ahead second

end Zone

/-- Year, month and day of a day counted from the first day of 1970. -/
def civil (day : Int) : Int × Nat × Nat :=
  -- days are counted from the first of March of the year zero, in eras of 400 years
  let shifted := day + 719468
  let era := shifted.fdiv 146097
  let dayOfEra := (shifted.fmod 146097).toNat
  let yearOfEra :=
    (dayOfEra - dayOfEra / 1460 + dayOfEra / 36524 - dayOfEra / 146096) / 365
  let dayOfYear := dayOfEra - (365 * yearOfEra + yearOfEra / 4 - yearOfEra / 100)
  let monthFromMarch := (5 * dayOfYear + 2) / 153
  let dayOfMonth := dayOfYear - (153 * monthFromMarch + 2) / 5 + 1
  let month := if monthFromMarch < 10 then monthFromMarch + 3 else monthFromMarch - 9
  let year : Int := yearOfEra + era * 400
  (if month ≤ 2 then year + 1 else year, month, dayOfMonth)

/-- The count of days begins with the first day of 1970, and goes back as well. -/
example : civil 0 = (1970, 1, 1) ∧ civil (-1) = (1969, 12, 31) := by decide

/-- Whole seconds and microseconds of a moment. -/
def split (seconds : Binary64) : Int × Nat :=
  match seconds with
  | .finite negative mantissa exponent =>
    let (num, den) := Binary64.magnitude mantissa exponent
    let whole := num / den
    -- the fraction in microseconds is itself a double-precision number before it is rounded
    let micros := match Binary64.ofRatio false ((num % den) * 1000000) den with
      | .finite _ m e => let (n, d) := Binary64.magnitude m e; roundDiv n d
      | _ => 0
    if negative then
      if micros = 0 then (-(whole : Int), 0) else (-(whole : Int) - 1, 1000000 - micros)
    else if micros = 1000000 then (whole + 1, 0)
    else (whole, micros)
  | _ => (0, 0)

/-- The date of a moment, and its time of day. -/
def dateAndTime (second : Int) : String × String :=
  let (year, month, day) := civil (second.fdiv 86400)
  let rest := (second.fmod 86400).toNat
  let two (n : Nat) : String := String.ofList (padded 2 n)
  (String.ofList (padded 4 year.toNat) ++ "-" ++ two month ++ "-" ++ two day,
    two (rest / 3600) ++ ":" ++ two (rest / 60 % 60) ++ ":" ++ two (rest % 60))

namespace Stamp

/-- The texts of a moment in whole seconds of a clock and microseconds. -/
def ofParts (second : Int) (micros : Nat) : Stamp :=
  let (date, time) := dateAndTime second
  { plain := date ++ " " ++ time ++ "," ++ String.ofList (padded 3 (micros / 1000))
    iso := date ++ "T" ++ time ++
      (if micros = 0 then "" else "." ++ String.ofList (padded 6 micros)) }

/-- The texts of a moment in seconds. -/
def ofSeconds (zone : Zone) (seconds : Binary64) : Stamp :=
  let (second, micros) := split seconds
  ofParts (zone.clock second) micros

end Stamp

/-! ## Moments from loose data -/

/-- The failure of a moment that 64 bits of seconds do not reach. -/
def secondsOutside : Failure :=
  .raised ⟨"OverflowError", "timestamp out of range for platform time_t"⟩

/-- Whether 64 bits hold a number of seconds. -/
def checkSeconds (second : Int) : Except Failure Unit :=
  if -9223372036854775808 ≤ second ∧ second < 9223372036854775808 then .ok ()
  else .error secondsOutside

/-- A number as 32 bits show it. -/
def wrapped32 (n : Int) : Int := (n + 2147483648).emod 4294967296 - 2147483648

/-- Whether the year of a moment of a clock can be shown. -/
def checkYear (second : Int) : Except Failure Unit :=
  let year := (civil (second.fdiv 86400)).1
  if wrapped32 (year - 1900) ≠ year - 1900 then .error .momentTooFar
  else
    let shown := wrapped32 year
    if 1 ≤ shown ∧ shown ≤ 9999 then .ok ()
    else
      .error (.raised ⟨"ValueError", "year " ++ Number.intText shown ++ " is out of range"⟩)

/-- Whole seconds and microseconds of a moment that is read from loose data. -/
def partsOf : Datum → Except Failure (Int × Nat)
  | .bool b => .ok (if b then 1 else 0, 0)
  | .int i => (checkSeconds i).map fun () => (i, 0)
  | .real .notANumber => .error (.raised ⟨"ValueError", "Invalid value NaN (not a number)"⟩)
  | .real (.infinite _) => .error secondsOutside
  | .real r =>
    let (second, micros) := split r
    (checkSeconds second).map fun () => (second, micros)
  | _ => .error (.wrongType "an integer is required")

/-- The texts of a moment that is read from loose data. -/
def Stamp.ofDatum (zone : Zone) (d : Datum) : Except Failure Stamp := do
  let (second, micros) ← partsOf d
  let shown := zone.clock second
  let dayBefore := zone.clock (second - 86400)
  checkYear shown
  checkYear dayBefore
  let turned := shown - dayBefore - 86400
  if turned < 0 then checkYear (zone.clock (second + turned))
  return .ofParts shown micros

theorem ofDatum_zero : (Stamp.ofDatum .universal (.int 0)).toOption =
    some ⟨"1970-01-01 00:00:00,000", "1970-01-01T00:00:00"⟩ := by decide +kernel

end ScriptHost.Log
