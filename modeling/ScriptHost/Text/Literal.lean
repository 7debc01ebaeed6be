import ScriptHost.Text.Surrogate
import ScriptHost.Text.Visible

/-!
# Quoted literals

The text of a string value as a literal.  Single quotes are used unless the text holds one
and no double quote.  The quote in use and the backslash are written behind a backslash, tab,
line feed and carriage return by their letters, any other character without a visible form by
its code in two, four or eight lower-case hexadecimal digits.
-/

namespace ScriptHost.Text

/-- The lower-case hexadecimal digit of a number below sixteen. -/
def hexDigit (n : Nat) : Char :=
  Char.ofNat (if n < 10 then 0x30 + n else 0x57 + n)

/-- The last `width` hexadecimal digits of a number. -/
def hexDigits : Nat → Nat → List Char
  | 0, _ => []
  | width + 1, n => hexDigits width (n / 16) ++ [hexDigit (n % 16)]

/-- The quote that a literal uses. -/
def literalQuote (cs : List Char) : Char :=
  if cs.contains '\x27' && !cs.contains '"' then '"' else '\x27'

/-- A character by its code; for a stand-in, the code that it stands for. -/
def codeChars (c : Char) : List Char :=
  let code := (surrogate? c).getD c.toNat
  if code < 0x100 then '\\' :: 'x' :: hexDigits 2 code
  else if code < 0x10000 then '\\' :: 'u' :: hexDigits 4 code
  else '\\' :: 'U' :: hexDigits 8 code

/-- One character inside a literal that uses the given quote. -/
def literalChar (quote c : Char) : List Char :=
  if c = quote ∨ c = '\\' then ['\\', c]
  else if c = '\t' then ['\\', 't']
  else if c = '\n' then ['\\', 'n']
  else if c = '\r' then ['\\', 'r']
  else if isVisible c then [c]
  else codeChars c

/-- A text as a quoted literal. -/
def literalChars (cs : List Char) : List Char :=
  let quote := literalQuote cs
  quote :: cs.flatMap (literalChar quote) ++ [quote]

/-- A string as a quoted literal. -/
def literal (s : String) : String := String.ofList (literalChars s.toList)

end ScriptHost.Text
