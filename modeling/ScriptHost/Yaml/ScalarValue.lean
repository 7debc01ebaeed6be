import ScriptHost.Calendar
import ScriptHost.Datum
import ScriptHost.Number.Scientific
import ScriptHost.Text.Case
import ScriptHost.Yaml.Node

/-!
# Values of scalars

What the scalars of a YAML text stand for, by their tags.

A tag may be written where its type does not fit.  Most such values are not well formed; a
number or a date that cannot be read is a fault of its own.
-/

namespace ScriptHost.Yaml

open Number (Binary64 NumeralFault)

/-- A fault of a value that has the form of its type but no meaning. -/
def badValue {α : Type} (text : String) : Except Failure α :=
  .error (.raised ⟨"ValueError", text⟩)

/-! ## Numbers -/

/-- A text without underscores. -/
def dense (cs : List Char) : List Char := cs.filter (· != '_')

/-- What is left of a number without its sign; a number must have at least that or a digit. -/
def numberBody (cs : List Char) : Except Failure (Bool × List Char) :=
  if cs.isEmpty then .error (.raised ⟨"IndexError", "string index out of range"⟩)
  else .ok (Number.signOf cs)

/-- The most characters of a literal that a complaint about a whole number shows. -/
def longestShown : Nat := 200

/-- The whole number of a numeral in a base, which must be one. -/
def wholeIn (base : Nat) (cs : List Char) : Except Failure Int :=
  match Number.wholeOf base cs with
  | .ok n => .ok n
  | .error (.tooLong count) => .error (.raised (Number.tooLongFault count))
  | .error .unreadable =>
    badValue ("invalid literal for int() with base " ++ Number.natText base ++ ": " ++
      String.ofList ((Text.literalChars cs).take longestShown))

/-- The whole numbers of several numerals. -/
def wholesIn (base : Nat) : List (List Char) → Except Failure (List Int)
  | [] => .ok []
  | cs :: rest => do return (← wholeIn base cs) :: (← wholesIn base rest)

/-- The integer of a text. -/
def intOf (text : String) : Except Failure Int := do
  let (negative, cs) ← numberBody (dense text.toList)
  let n ←
    match cs with
    | [] => .error (.raised ⟨"IndexError", "string index out of range"⟩)
    | ['0'] => .ok 0
    | '0' :: 'b' :: ds => wholeIn 2 ds
    | '0' :: 'x' :: ds => wholeIn 16 ds
    | '0' :: _ => wholeIn 8 cs
    | _ =>
      if cs.contains ':' then do
        let parts ← wholesIn 10 (Text.pieces (· == ':') cs)
        pure (parts.foldl (fun n part => 60 * n + part) 0)
      else wholeIn 10 cs
  return if negative then -n else n

/-- The double-precision number of a numeral, which must be one. -/
def realIn (cs : List Char) : Except Failure Binary64 :=
  match Number.realOf? cs with
  | some r => .ok r
  | none => badValue ("could not convert string to float: " ++ Text.literal (String.ofList cs))

/-- The numbers of several numerals. -/
def realsIn : List (List Char) → Except Failure (List Binary64)
  | [] => .ok []
  | cs :: rest => do return (← realIn cs) :: (← realsIn rest)

/-- The sum of numbers in sixties, the last of them first; `weight` is what the first one counts.
Every step is rounded. -/
def sixties (sum : Binary64) (weight : Nat) : List Binary64 → Except Failure Binary64
  | [] => .ok sum
  | part :: parts =>
    match Binary64.ofInt weight with
    | .finite negative mantissa exponent =>
      sixties (sum.add (part.mul (.finite negative mantissa exponent))) (60 * weight) parts
    | _ => .error (.raised ⟨"OverflowError", "int too large to convert to float"⟩)

/-- The number with a point of a text. -/
def floatOf (text : String) : Except Failure Binary64 := do
  let (negative, cs) ← numberBody (Text.lower (String.ofList (dense text.toList))).toList
  let word := String.ofList cs
  let r ←
    if word = ".inf" then .ok (.infinite false)
    else if word = ".nan" then .ok .notANumber
    else if cs.contains ':' then do
      sixties (.finite false 0 0) 1 (← realsIn (Text.pieces (· == ':') cs)).reverse
    else realIn cs
  return if negative then r.negated else r

/-! ## Dates -/

/-- The rows of digits of a text. -/
def numbersOf (cs : List Char) : List Nat :=
  (Text.pieces (fun c => !c.isDigit) cs).filterMap Number.natOfDigits

/-- A distance in time by its days and seconds, for a person. -/
def distanceText (minutes : Int) : String :=
  let days := minutes.fdiv 1440
  let seconds := minutes.fmod 1440 * 60
  let parts := (if days = 0 then [] else ["days=" ++ Number.intText days]) ++
    (if seconds = 0 then [] else ["seconds=" ++ Number.intText seconds])
  "datetime.timedelta(" ++ ", ".intercalate parts ++ ")"

/-- The time zone at the end of a moment, in minutes, if it has a sign. -/
def zoneOf? (time : List Char) : Option Int :=
  let zone := time.dropWhile fun c => !(c == '-' || c == '+')
  match numbersOf zone with
  | hours :: rest =>
    let minutes : Int := hours * 60 + rest.headD 0
    some (if zone.head? = some '-' then -minutes else minutes)
  | [] => none

/-- Makes sure that a time zone is less than a day away. -/
def ensureZone (zone? : Option Int) : Except Failure Unit :=
  match zone? with
  | some minutes =>
    if minutes.natAbs < 1440 then .ok ()
    else badValue ("offset must be a timedelta strictly between -timedelta(hours=24) and " ++
      "timedelta(hours=24), not " ++ distanceText minutes ++ ".")
  | none => .ok ()

/-- Makes sure that there is a date. -/
def ensureDate (year month day : Nat) : Except Failure Unit :=
  if year = 0 then badValue "year 0 is out of range"
  else if month = 0 ∨ 12 < month then badValue "month must be in 1..12"
  else if day = 0 ∨ daysIn year month < day then badValue "day is out of range for month"
  else .ok ()

/-- Makes sure that there is a time of day. -/
def ensureTime (hour minute second : Nat) : Except Failure Unit :=
  if 23 < hour then badValue "hour must be in 0..23"
  else if 59 < minute then badValue "minute must be in 0..59"
  else if 59 < second then badValue "second must be in 0..59"
  else .ok ()

/-- A date, with or without a time of day. -/
def momentOf (text : String) : Except Failure Datum := do
  let cs := Tag.unended text.toList
  if !Tag.isMoment true cs then .error (.noAttribute "groupdict")
  else
    match numbersOf cs with
    | [year, month, day] =>
      ensureDate year month day
      return .moment text
    | year :: month :: day :: hour :: minute :: second :: _ =>
      ensureZone (zoneOf? (cs.drop 10))
      ensureDate year month day
      ensureTime hour minute second
      return .moment text
    | _ => malformed

/-! ## Byte strings -/

/-- The six bits of a character of base 64. -/
def sixBits? (c : Char) : Option Nat :=
  if 'A' ≤ c ∧ c ≤ 'Z' then some (c.toNat - 0x41)
  else if 'a' ≤ c ∧ c ≤ 'z' then some (c.toNat - 0x61 + 26)
  else if c.isDigit then some (c.toNat - 0x30 + 52)
  else if c = '+' then some 62
  else if c = '/' then some 63
  else none

/-- The bytes of base 64 from a place on: how many characters of the group under way were read,
the bits that the last of them left over, and how many padding signs stand behind it.  A group
ends with four characters, or where enough padding stands behind two or three of them, and then
nothing more is read; characters outside of base 64 and padding where no group can end are passed
over. -/
def bytesFrom (read left pads : Nat) : List Char → Option (List UInt8)
  | [] => if read = 0 then some [] else none
  | c :: cs =>
    if c = '=' then
      if 2 ≤ read then
        if 4 ≤ read + pads + 1 then some [] else bytesFrom read left (pads + 1) cs
      else bytesFrom read left pads cs
    else
      match sixBits? c with
      | none => bytesFrom read left pads cs
      | some bits =>
        match read with
        | 0 => bytesFrom 1 bits 0 cs
        | 1 => (bytesFrom 2 (bits % 16) 0 cs).map (UInt8.ofNat (left * 4 + bits / 16) :: ·)
        | 2 => (bytesFrom 3 (bits % 4) 0 cs).map (UInt8.ofNat (left * 16 + bits / 4) :: ·)
        | _ => (bytesFrom 0 0 0 cs).map (UInt8.ofNat (left * 64 + bits) :: ·)

/-- A byte string written in base 64. -/
def binaryOf (text : String) : Except Failure Datum :=
  let cs := text.toList
  match bytesFrom 0 0 0 cs with
  | some bytes => if cs.all (·.toNat < 0x80) then .ok (.bytes bytes) else malformed
  | none => malformed

/-- The value of a scalar. -/
def scalarValue (tag : Tag) (text : String) : Except Failure Datum :=
  match tag with
  | .null => .ok .null
  | .bool =>
    match Tag.boolWords.lookup (Text.lower text) with
    | some b => .ok (.bool b)
    | none => .error (.raised ⟨"KeyError", Text.lower text⟩)
  | .int => (intOf text).map .int
  | .float => (floatOf text).map .real
  | .text => .ok (.text text)
  | .binary => binaryOf text
  | .moment => momentOf text
  | _ => malformed

end ScriptHost.Yaml
