import ScriptHost.Json.Value
import ScriptHost.Number.Numeral
import ScriptHost.Text.Surrogate

/-!
# Reading JSON

A reader of JSON text over lists of characters.  Every step returns the characters it left, and
the depth of nesting is bounded by the length of the text.  An integer may not have more digits
than a numeral.  The three names of the numbers that
are no decimals (`NaN`, `Infinity`, `-Infinity`) are read too; a repeated member name replaces
the earlier value.
-/

namespace ScriptHost.Json

open ScriptHost.Number (Binary64 digitValue? natOfDigits)

/-- The characters that may stand between the parts of a text. -/
def isGap (c : Char) : Bool := c == ' ' || c == '\t' || c == '\n' || c == '\r'

/-- A text without the gap at its front. -/
def skipGap (cs : List Char) : List Char := cs.dropWhile isGap

/-- The text behind a word. -/
def afterWord? : List Char → List Char → Option (List Char)
  | [], cs => some cs
  | _ :: _, [] => none
  | w :: ws, c :: cs => if w = c then afterWord? ws cs else none

/-! ## Texts -/

/-- The UTF-16 unit that four hexadecimal digits spell, and the text behind them. -/
def unit? : List Char → Option (Nat × List Char)
  | a :: b :: c :: d :: cs => (Number.natIn? 16 [a, b, c, d]).map fun n => (n, cs)
  | _ => none

/-- The character that a letter behind a backslash stands for. -/
def shortEscape? (c : Char) : Option Char :=
  if c = '"' then some '"'
  else if c = '\\' then some '\\'
  else if c = '/' then some '/'
  else if c = 'b' then some '\x08'
  else if c = 'f' then some '\x0c'
  else if c = 'n' then some '\n'
  else if c = 'r' then some '\r'
  else if c = 't' then some '\t'
  else none

/-- The character for a unit that stands by itself; for half of a pair another one stands in. -/
def loneUnit (n : Nat) : Char := Text.charOf n

/-- The character at the front of a text in quotes, and the text behind it. -/
def textChar? : List Char → Option (Char × List Char)
  | [] => none
  | '\\' :: 'u' :: cs => do
    let (high, rest) ← unit? cs
    if 0xd800 ≤ high ∧ high ≤ 0xdbff then
      match rest with
      | '\\' :: 'u' :: ds =>
        match unit? ds with
        | some (low, rest') =>
          if 0xdc00 ≤ low ∧ low ≤ 0xdfff then
            pure (Char.ofNat (0x10000 + (high - 0xd800) * 0x400 + (low - 0xdc00)), rest')
          else pure (loneUnit high, rest)
        | none => none
      | _ => pure (loneUnit high, rest)
    else pure (loneUnit high, rest)
  | '\\' :: c :: cs => (shortEscape? c).map fun d => (d, cs)
  | c :: cs => if c = '\\' ∨ c.toNat < 0x20 then none else some (c, cs)

/-- The characters of a text up to its closing quote, and the text behind it. -/
def textBody? : Nat → List Char → Option (List Char × List Char)
  | 0, _ => none
  | _ + 1, '"' :: cs => some ([], cs)
  | fuel + 1, cs => do
    let (c, rest) ← textChar? cs
    let (body, rest) ← textBody? fuel rest
    pure (c :: body, rest)

/-! ## Numbers -/

/-- The digits at the front of a text, and the text behind them. -/
def spanDigits : List Char → List Char × List Char
  | [] => ([], [])
  | c :: cs =>
    if (digitValue? c).isSome then
      let (ds, rest) := spanDigits cs
      (c :: ds, rest)
    else ([], c :: cs)

/-- The digits before the point: no zero stands in front of others. -/
def wholePart? (cs : List Char) : Option (List Char × List Char) :=
  match cs with
  | '0' :: rest => some (['0'], rest)
  | _ =>
    match spanDigits cs with
    | ([], _) => none
    | spanned => some spanned

/-- The digits behind a point, if a point with digits follows. -/
def fractionPart (cs : List Char) : List Char × List Char :=
  match cs with
  | '.' :: rest =>
    match spanDigits rest with
    | ([], _) => ([], cs)
    | spanned => spanned
  | _ => ([], cs)

/-- The exponent, if a complete one follows. -/
def exponentPart (cs : List Char) : Option Int × List Char :=
  let unsigned (sign : Int) (rest : List Char) : Option Int × List Char :=
    match spanDigits rest with
    | (ds, behind) =>
      match natOfDigits ds with
      | some n => (some (sign * n), behind)
      | none => (none, cs)
  match cs with
  | e :: rest =>
    if e = 'e' ∨ e = 'E' then
      match rest with
      | '-' :: ds => unsigned (-1) ds
      | '+' :: ds => unsigned 1 ds
      | ds => unsigned 1 ds
    else (none, cs)
  | [] => (none, cs)

/-- A number without its sign, and the text behind it. -/
def number? (negative : Bool) (cs : List Char) : Option (Json × List Char) := do
  let (whole, rest) ← wholePart? cs
  let (fraction, rest) := fractionPart rest
  let (exponent, rest) := exponentPart rest
  let n ← natOfDigits (whole ++ fraction)
  if fraction.isEmpty && exponent.isNone then
    if whole.length > Number.longestNumeral then none
    else pure (int (if negative then -(n : Int) else n), rest)
  else
    pure (real (Binary64.ofDecimal negative n (exponent.getD 0 - fraction.length)), rest)

/-! ## Values -/

mutual

/-- The value at the front of a text, and the text behind it. -/
def value? : Nat → List Char → Option (Json × List Char)
  | 0, _ => none
  | fuel + 1, cs =>
    match cs with
    | '"' :: rest => do
      let (body, rest) ← textBody? (rest.length + 1) rest
      pure (text (String.ofList body), rest)
    | '[' :: rest =>
      match skipGap rest with
      | ']' :: rest => some (arr [], rest)
      | rest => do
        let (items, rest) ← items? fuel rest
        pure (arr items, rest)
    | '\x7b' :: rest =>
      match skipGap rest with
      | '\x7d' :: rest => some (obj [], rest)
      | rest => do
        let (members, rest) ← members? fuel rest
        pure (obj (Sequence.Entries.ofList members), rest)
    | 'n' :: rest => (afterWord? "ull".toList rest).map fun r => (null, r)
    | 't' :: rest => (afterWord? "rue".toList rest).map fun r => (bool true, r)
    | 'f' :: rest => (afterWord? "alse".toList rest).map fun r => (bool false, r)
    | 'N' :: rest => (afterWord? "aN".toList rest).map fun r => (real .notANumber, r)
    | 'I' :: rest => (afterWord? "nfinity".toList rest).map fun r => (real (.infinite false), r)
    | '-' :: 'I' :: rest =>
      (afterWord? "nfinity".toList rest).map fun r => (real (.infinite true), r)
    | '-' :: rest => number? true rest
    | cs => number? false cs

/-- The items of an array that is not empty, up to its closing bracket. -/
def items? : Nat → List Char → Option (List Json × List Char)
  | 0, _ => none
  | fuel + 1, cs => do
    let (j, rest) ← value? fuel (skipGap cs)
    match skipGap rest with
    | ']' :: rest => pure ([j], rest)
    | ',' :: rest =>
      let (js, rest) ← items? fuel rest
      pure (j :: js, rest)
    | _ => none

/-- The members of an object that is not empty, up to its closing brace. -/
def members? : Nat → List Char → Option (List (String × Json) × List Char)
  | 0, _ => none
  | fuel + 1, cs =>
    match skipGap cs with
    | '"' :: rest => do
      let (name, rest) ← textBody? (rest.length + 1) rest
      match skipGap rest with
      | ':' :: rest =>
        let (j, rest) ← value? fuel (skipGap rest)
        match skipGap rest with
        | '\x7d' :: rest => pure ([(String.ofList name, j)], rest)
        | ',' :: rest =>
          let (ms, rest) ← members? fuel rest
          pure ((String.ofList name, j) :: ms, rest)
        | _ => none
      | _ => none
    | _ => none

end

/-- The value that a whole text spells. -/
def parse? (s : String) : Option Json :=
  let cs := s.toList
  match value? (cs.length + 1) (skipGap cs) with
  | some (j, rest) => if (skipGap rest).isEmpty then some j else none
  | none => none

end ScriptHost.Json
