import ScriptHost.Fault
import ScriptHost.Number.Arithmetic
import ScriptHost.Text.Blank
import ScriptHost.Text.Digit

/-!
# Numerals

Numbers that people write: with blanks around them, with a sign, with the digits of any script.
A whole number may be written in any base up to sixteen, and in bases other than ten with the
mark of the base in front of its digits.  In base ten a row of more than 4300 digits is refused,
whatever stands behind it, because reading it would take too long; an integer with more digits is
not written either.
-/

namespace ScriptHost.Number

/-- Why a text is no whole number. -/
inductive NumeralFault where
  | unreadable
  /-- There are more digits than are read. -/
  | tooLong (count : Nat)
  deriving DecidableEq, Repr

/-- The most decimal digits that are read and written. -/
def longestNumeral : Nat := 4300

/-- The fault of a numeral with too many digits. -/
def tooLongFault (count : Nat) : Fault :=
  ⟨"ValueError", "Exceeds the limit (" ++ natText longestNumeral ++
    " digits) for integer string conversion: value has " ++ natText count ++
    " digits; use sys.set_int_max_str_digits() to increase the limit"⟩

/-- Whether an integer has few enough digits to be written. -/
def isWritable (i : Int) : Bool := (digits i.natAbs).length ≤ longestNumeral

/-- The fault of an integer with too many digits to be written. -/
def unwritableFault : Fault :=
  ⟨"ValueError", "Exceeds the limit (" ++ natText longestNumeral ++
    " digits) for integer string conversion; " ++
    "use sys.set_int_max_str_digits() to increase the limit"⟩

/-- An integer in decimal digits, if there are not too many of them. -/
def written (i : Int) : Except Fault String :=
  if isWritable i then .ok (intText i) else .error unwritableFault

/-- The fault of a text that is no whole number. -/
def unreadableFault (base : Nat) (text : String) : Fault :=
  ⟨"ValueError", "invalid literal for int() with base " ++ natText base ++ ": " ++
    Text.literal text⟩

/-- Whether a character is a blank of ASCII that may stand around a numeral. -/
def isMargin (c : Char) : Bool := c == ' ' || (0x09 ≤ c.toNat && c.toNat ≤ 0x0d)

/-- A character of a numeral in ASCII: blanks and digits beyond it are replaced by their like,
and what is neither by a mark that belongs to no numeral. -/
def plainChar (c : Char) : Char :=
  if c.toNat < 0x7f then c
  else if Text.isBlank c then ' '
  else
    match Text.decimalValue? c with
    | some d => digitChar d
    | none => '?'

/-- A numeral in ASCII, without the blanks around it. -/
def plainNumeral (cs : List Char) : List Char :=
  let cs := (if cs.all (·.toNat < 0x80) then cs else cs.map plainChar).dropWhile isMargin
  (cs.reverse.dropWhile isMargin).reverse

/-- Whether a numeral has a minus sign, and what stands behind its sign. -/
def signOf : List Char → Bool × List Char
  | '-' :: cs => (true, cs)
  | '+' :: cs => (false, cs)
  | cs => (false, cs)

/-- The value of a digit in a base. -/
def digitIn? (base : Nat) (c : Char) : Option Nat :=
  let value :=
    if c.isDigit then some (c.toNat - 0x30)
    else if 'a' ≤ c ∧ c ≤ 'f' then some (c.toNat - 0x57)
    else if 'A' ≤ c ∧ c ≤ 'F' then some (c.toNat - 0x37)
    else none
  value.filter (· < base)

/-- The number that a row of digits spells in a base, if all of them are digits. -/
def natIn? (base : Nat) (cs : List Char) : Option Nat :=
  if cs.isEmpty then none
  else cs.foldl (fun n c => n.bind fun n => (digitIn? base c).map (base * n + ·)) (some 0)

/-- The digits of a numeral without the mark of its base. -/
def unmarked (base : Nat) (cs : List Char) : List Char :=
  match cs with
  | '0' :: mark :: ds =>
    let marks := [(2, "bB"), (8, "oO"), (16, "xX")].lookup base
    if marks.any fun m => m.toList.contains mark then ds else cs
  | _ => cs

/-- The whole number of a numeral in a base. -/
def wholeOf (base : Nat) (text : List Char) : Except NumeralFault Int :=
  let (negative, cs) := signOf (plainNumeral text)
  let ds := unmarked base cs
  let count := (ds.takeWhile fun c => (digitIn? base c).isSome).length
  if base = 10 ∧ longestNumeral < count then .error (.tooLong count)
  else
    match natIn? base ds with
    | some n => .ok (if negative then -(n : Int) else n)
    | none => .error .unreadable

/-- The exponent of a decimal, behind its mark. -/
def exponentOf? (cs : List Char) : Option Int :=
  let (negative, ds) := signOf cs
  (natOfDigits ds).map fun n => if negative then -(n : Int) else n

/-- The digits of a decimal without sign, as a number, and the power of ten behind them. -/
def decimalOf? (cs : List Char) : Option (Nat × Int) :=
  let digits := cs.takeWhile fun c => !(c == 'e' || c == 'E')
  let whole := digits.takeWhile (· != '.')
  let fraction := (digits.drop whole.length).drop 1
  let exponent? := match cs.drop digits.length with
    | [] => some 0
    | _ :: ds => exponentOf? ds
  exponent?.bind fun exponent =>
    (natOfDigits (whole ++ fraction)).map fun n => (n, exponent - fraction.length)

/-- The double-precision number of a numeral. -/
def realOf? (text : List Char) : Option Binary64 :=
  let (negative, cs) := signOf (plainNumeral text)
  let word := String.ofList (cs.map Char.toLower)
  if word = "inf" ∨ word = "infinity" then some (.infinite negative)
  else if word = "nan" then some .notANumber
  else (decimalOf? cs).map fun (digits, power) => .ofDecimal negative digits power

/-- Infinity is a word. -/
example : realOf? "inf".toList = some (.infinite false) := by decide +kernel

end ScriptHost.Number
