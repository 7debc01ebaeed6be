import ScriptHost.Calendar
import ScriptHost.Number.Arithmetic
import ScriptHost.Schema.Checked

/-!
# Moments in fields

A field for a moment takes a date, with or without a time of day behind it, or a number of
seconds since the beginning of 1970.  A number that is too large for that counts milliseconds.
Only whether the moment can be read matters here, so reading it gives nothing.

A text that is neither is judged as a date: what is wrong is what is wrong with its date.  The
year zero can be written but not read.
-/

namespace ScriptHost.Schema

/-! ## Dates -/

/-- Reads a number of a fixed count of digits. -/
def digitsAt (count : Nat) (fault : DateFault) (cs : List Char) :
    Except DateFault (Nat × List Char) :=
  let ds := cs.take count
  match if ds.length = count then Number.natOfDigits ds else none with
  | some n => .ok (n, cs.drop count)
  | none => .error fault

/-- Reads the dash between two parts of a date. -/
def dash : List Char → Except DateFault (List Char)
  | '-' :: cs => .ok cs
  | _ => .error .separator

/-- Reads a date at the front of a text, and answers its year and what stands behind it. -/
def date (s : String) : Except DateFault (Nat × List Char) := do
  if s.utf8ByteSize < 10 then throw .tooShort
  let (year, cs) ← digitsAt 4 .year s.toList
  let (month, cs) ← digitsAt 2 .month (← dash cs)
  let (day, cs) ← digitsAt 2 .day (← dash cs)
  if month = 0 ∨ 12 < month then throw .monthRange
  if day = 0 ∨ daysIn year month < day then throw .dayRange
  return (year, cs)

/-! ## Times of day -/

/-- The number of two digits, if it is below a limit. -/
def pair? (limit : Nat) (a b : Char) : Option Nat :=
  (Number.natOfDigits [a, b]).filter fun n => n < limit

/-- Whether characters are nothing or a time zone. -/
def isZone : List Char → Bool
  | [] | ['Z'] | ['z'] => true
  | [sign, a, b, c, d] | [sign, a, b, ':', c, d] =>
    ['+', '-', '\u2212'].contains sign && (pair? 24 a b).isSome && (pair? 60 c d).isSome
  | _ => false

/-- Whether characters are what may stand behind whole seconds. -/
def isAfterSeconds : List Char → Bool
  | '.' :: cs | ',' :: cs =>
    let ds := cs.takeWhile Char.isDigit
    !ds.isEmpty && isZone (cs.drop ds.length)
  | cs => isZone cs

/-- Whether characters are a time of day. -/
def isTime : List Char → Bool
  | a :: b :: ':' :: c :: d :: cs =>
    (pair? 24 a b).isSome && (pair? 60 c d).isSome &&
      match cs with
      | ':' :: e :: f :: cs => (pair? 60 e f).isSome && isAfterSeconds cs
      | cs => isZone cs
  | _ => false

/-! ## Numbers -/

/-- The largest number that counts seconds. -/
def lastSecond : Nat := 20000000000

/-- What is wrong with a moment that is given by a number and further millionths. -/
def numberFault? (n : Int) (millionths : Nat) : Option DateFault :=
  let (seconds, more) :=
    if lastSecond < n.natAbs then (n.fdiv 1000, 1000 * (n.fmod 1000).toNat) else (n, 0)
  let seconds := seconds + ((millionths + more) / 1000000 : Nat)
  if seconds < -62167219200 then some .tooEarly
  else if seconds < -62135596800 then some .yearZero
  else if 253402300799 < seconds then some .tooLate
  else none

/-- The number that a text spells, rounded down, and whether it was whole.  A whole number must
fit into 64 bits; a fraction may not go beyond millionths of a second. -/
def numberOf? (cs : List Char) : Option (Int × Bool) :=
  let negative := cs.head? == some '-'
  let unsigned := match cs with
    | '+' :: ds | '-' :: ds => ds
    | ds => ds
  let whole := unsigned.takeWhile Char.isDigit
  let n? := if whole.isEmpty then some 0 else Number.natOfDigits whole
  match n?, unsigned.drop whole.length with
  | none, _ => none
  | some n, [] =>
    if whole.isEmpty || n ≥ 9223372036854775808 then none
    else some (if negative then -(n : Int) else n, true)
  | some n, point :: fraction =>
    let kept := (fraction.reverse.dropWhile (· == '0')).reverse
    let isLong := lastSecond < n || (lastSecond == n && !kept.isEmpty)
    let isFraction := point == '.' && fraction.all Char.isDigit &&
      !(whole.isEmpty && fraction.isEmpty) && kept.length ≤ (if isLong then 3 else 6)
    if !isFraction then none
    else if negative then some (-(n : Int) - (if kept.isEmpty then 0 else 1), false)
    else some (n, false)

/-! ## Moments -/

/-- What is wrong with a text that should be a moment. -/
def momentComplaint? (s : String) : Option Complaint :=
  match date s with
  | .ok (year, rest) =>
    let isWhole := match rest with
      | [] => true
      | separator :: cs => ['T', 't', ' ', '_'].contains separator && isTime cs
    if !isWhole then some (.dateUnreadable .trailing)
    else if year = 0 then some (.momentOutside .yearZero)
    else none
  | .error fault =>
    match numberOf? s.toList with
    | none => some (.dateUnreadable fault)
    | some (n, isWhole) =>
      match numberFault? n 0 with
      | none => none
      | some .yearZero => some (.momentOutside .yearZero)
      | some outside => some (.dateUnreadable (if isWhole then outside else fault))

/-- Nothing, or a complaint. -/
def complainAbout : Option Complaint → Checked Unit
  | none => .ok ()
  | some complaint => Checked.complain complaint

/-- The millionths of a double-precision number behind its point. -/
def millionthsOf (r : Number.Binary64) : Nat :=
  match r with
  | .finite _ mantissa exponent =>
    let (num, den) := Number.Binary64.magnitude mantissa exponent
    Number.roundDiv (num % den * 1000000) den
  | _ => 0

/-- What is wrong with a moment that is given by a double-precision number. -/
def realFault? (r : Number.Binary64) : Option DateFault :=
  match r, r.floor? with
  | _, some n => numberFault? n (millionthsOf r)
  | .infinite true, none => some .tooEarly
  | .infinite false, none => some .tooLate
  | _, none => some .notANumber

/-- A moment. -/
def moment : Datum → Checked Unit
  | .text s =>
    if Text.isBroken s then Checked.complain .textUnreadable
    else complainAbout (momentComplaint? s)
  | .int i =>
    match Number.Binary64.ofInt i with
    | .infinite _ => Checked.complain .momentExpected
    | _ => complainAbout ((numberFault? i 0).map .momentOutside)
  | .real r => complainAbout ((realFault? r).map .momentOutside)
  | .moment _ => .ok ()
  | _ => Checked.complain .momentExpected

end ScriptHost.Schema
