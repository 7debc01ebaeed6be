import ScriptHost.Datum
import ScriptHost.Failure
import ScriptHost.Number.Scientific
import ScriptHost.Text.Surrogate

/-!
# Messages with arguments

A record may be made of a format and arguments.  A directive begins with a percent sign and
takes the next argument, or the one of a name when a single mapping is given.  Without
arguments the format is the message as it stands, percent signs included.

A directive is read from left to right, and what is wrong with it is found in that order: a name
that the mapping lacks before a width that is too big, a width before a missing conversion.

## Main results

* `formatMessage_nil` — without arguments the format is the message.
-/

namespace ScriptHost.Log

open ScriptHost (Datum Failure Fault)
open Number (Binary64)

/-- A directive of a format. -/
structure Directive where
  left : Bool
  zero : Bool
  plus : Bool
  blank : Bool
  alternate : Bool
  width : Nat
  precision : Option Nat
  conversion : Char

/-- The arguments that are left, and the values by name if a mapping was given. -/
structure Arguments where
  rest : List Datum
  named : Option (List (Datum × Datum))

namespace Arguments

/-- The next argument. -/
def next (a : Arguments) : Except Failure (Datum × Arguments) :=
  match a.rest with
  | d :: ds => .ok (d, { a with rest := ds })
  | [] => .error (.wrongType "not enough arguments for format string")

/-- The next argument, which must be an integer between bounds. -/
def count (a : Arguments) (low high : Int) (word : String) : Except Failure (Int × Arguments) := do
  let (d, a) ← a.next
  let i ← match d with
    | .int i => .ok i
    | .bool b => .ok (if b then 1 else 0)
    | _ => .error (.wrongType "* wants int")
  if i < low ∨ high < i then
    throw (.raised ⟨"OverflowError", "Python int too large to convert to C " ++ word⟩)
  return (i, a)

/-- The arguments after a name: the value of that name. -/
def select (a : Arguments) (name : String) : Except Failure Arguments :=
  match a.named with
  | none => .error (.wrongType "format requires a mapping")
  | some entries =>
    match Datum.entry? name entries with
    | some value => .ok { a with rest := [value] }
    | none => .error (.raised ⟨"KeyError", name⟩)

/-- Makes sure that every argument was taken; what is named need not be. -/
def ensureTaken (a : Arguments) : Except Failure Unit :=
  if a.named.isSome || a.rest.isEmpty then .ok ()
  else .error (.wrongType "not all arguments converted during string formatting")

end Arguments

namespace Directive

/-! ## Reading directives -/

/-- The directive without any option. -/
def bare : Directive := ⟨false, false, false, false, false, 0, none, '%'⟩

/-- Reads the flags of a directive. -/
def flags (d : Directive) : List Char → Directive × List Char
  | '-' :: cs => flags { d with left := true } cs
  | '+' :: cs => flags { d with plus := true } cs
  | ' ' :: cs => flags { d with blank := true } cs
  | '#' :: cs => flags { d with alternate := true } cs
  | '0' :: cs => flags { d with zero := true } cs
  | cs => (d, cs)

/-- Reads a name in parentheses, which may nest; `depth` are open. -/
def name : Nat → List Char → Option (List Char × List Char)
  | _, [] => none
  | depth, c :: cs =>
    if c = ')' then
      if depth = 0 then some ([], cs)
      else (name (depth - 1) cs).map fun r => (c :: r.1, r.2)
    else if c = '(' then (name (depth + 1) cs).map fun r => (c :: r.1, r.2)
    else (name depth cs).map fun r => (c :: r.1, r.2)

/-- Reads the name of a directive, if it has one. -/
def key (a : Arguments) (cs : List Char) : Except Failure (Arguments × List Char) :=
  match cs with
  | '(' :: rest =>
    if a.named.isNone then .error (.wrongType "format requires a mapping")
    else
      match name 0 rest with
      | none => .error (.badFormat "incomplete format key")
      | some (key, rest) => (a.select (String.ofList key)).map fun a => (a, rest)
  | _ => .ok (a, cs)

/-- Reads a number that may not be larger than a limit. -/
def digits (limit : Nat) (complaint : String) (cs : List Char) :
    Except Failure (Option Nat × List Char) :=
  let ds := cs.takeWhile fun c => (Number.digitValue? c).isSome
  match Number.natOfDigits ds with
  | some n => if limit < n then .error (.badFormat complaint) else .ok (n, cs.drop ds.length)
  | none => .ok (none, cs)

/-- The largest width. -/
def widest : Nat := 9223372036854775807

/-- The largest precision. -/
def finest : Nat := 2147483647

/-- Reads the width of a directive; a negative one that is an argument aligns to the left. -/
def readWidth (d : Directive) (a : Arguments) (cs : List Char) :
    Except Failure (Directive × Arguments × List Char) :=
  match cs with
  | '*' :: rest => do
    let (i, a) ← a.count (-(widest : Int) - 1) widest "ssize_t"
    return ({ d with width := i.natAbs, left := d.left || i < 0 }, a, rest)
  | _ => do
    let (n, rest) ← digits widest "width too big" cs
    return ({ d with width := n.getD 0 }, a, rest)

/-- Reads the precision of a directive; a negative one that is an argument counts as zero. -/
def readPrecision (d : Directive) (a : Arguments) (cs : List Char) :
    Except Failure (Directive × Arguments × List Char) :=
  match cs with
  | '.' :: '*' :: rest => do
    let (i, a) ← a.count (-(finest : Int) - 1) finest "int"
    return ({ d with precision := some i.toNat }, a, rest)
  | '.' :: rest => do
    let (n, rest) ← digits finest "precision too big" rest
    return ({ d with precision := some (n.getD 0) }, a, rest)
  | _ => .ok (d, a, cs)

/-- The text behind a letter for the size of a number, which says nothing. -/
def afterSize (cs : List Char) : List Char :=
  match cs with
  | 'h' :: rest | 'l' :: rest | 'L' :: rest => rest
  | _ => cs

/-- Reads a directive behind its percent sign. -/
def read (a : Arguments) (cs : List Char) : Except Failure (Directive × Arguments × List Char) := do
  let (a, cs) ← key a cs
  let (d, cs) := bare.flags cs
  let (d, a, cs) ← d.readWidth a cs
  let (d, a, cs) ← d.readPrecision a cs
  match afterSize cs with
  | [] => .error (.badFormat "incomplete format")
  | c :: rest => return ({ d with conversion := c }, a, rest)

/-! ## Writing values -/

/-- The most characters that a value may be filled up to. -/
def capacity : Nat := 1000000000

/-- The failure of a value that would be filled up too far. -/
def noRoom {α : Type} : Except Failure α := .error (.raised ⟨"MemoryError", ""⟩)

/-- A text filled up to the width. -/
def filled (d : Directive) (cs : List Char) : Except Failure (List Char) :=
  let missing := d.width - cs.length
  if capacity < missing then noRoom
  else if d.left then .ok (cs ++ List.replicate missing ' ')
  else .ok (List.replicate missing ' ' ++ cs)

/-- The mark of a base behind the sign of a number, and what follows it. -/
def splitMark (d : Directive) (cs : List Char) : List Char × List Char :=
  if d.alternate && ['x', 'X', 'o'].contains d.conversion then (cs.take 2, cs.drop 2)
  else ([], cs)

/-- A number with its sign, filled up to the width; zeros stand between the sign and the mark of
its base on one side and the digits on the other. -/
def filledNumber (d : Directive) (cs : List Char) : Except Failure (List Char) :=
  let (sign, body) := match cs with
    | '-' :: rest => (['-'], rest)
    | _ => (if d.plus then ['+'] else if d.blank then [' '] else [], cs)
  let (mark, ds) := d.splitMark body
  let missing := d.width - (sign ++ body).length
  if capacity < missing then noRoom
  else if d.zero && !d.left then .ok (sign ++ mark ++ List.replicate missing '0' ++ ds)
  else d.filled (sign ++ body)

/-- The digits of a natural in a base. -/
def inBase (base : Nat) : Nat → Nat → List Char
  | 0, _ => []
  | fuel + 1, n =>
    (if n < base then [] else inBase base fuel (n / base)) ++ [Text.hexDigit (n % base)]

/-- Letters in upper case. -/
def upper (cs : List Char) : List Char := cs.map Char.toUpper

/-- The digits of an integer, at least as many as the precision. -/
def integer (d : Directive) (base : Nat) (mark : List Char) (i : Int) :
    Except Failure (List Char) :=
  let ds := if base = 10 then Number.digits i.natAbs
    else inBase base (Nat.log2 i.natAbs + 2) i.natAbs
  let least := d.precision.getD 0
  if finest - 3 < least then .error (.raised ⟨"OverflowError", "precision too large"⟩)
  else if base = 10 && !Number.isWritable i then .error (.raised Number.unwritableFault)
  else if capacity < least then noRoom
  else
    let ds := List.replicate (least - ds.length) '0' ++ ds
    let body := (if d.alternate then mark else []) ++ ds
    let body := if i < 0 then '-' :: body else body
    d.filledNumber (if d.conversion = 'X' then upper body else body)

/-- The integer of a number, its fraction dropped. -/
def wholeOf : Datum → Except Failure Int
  | .bool b => .ok (if b then 1 else 0)
  | .int i => .ok i
  | .real (.finite negative mantissa exponent) =>
    let (num, den) := Binary64.magnitude mantissa exponent
    .ok (if negative then -(num / den : Nat) else (num / den : Nat))
  | .real (.infinite _) =>
    .error (.raised ⟨"OverflowError", "cannot convert float infinity to integer"⟩)
  | .real .notANumber => .error (.badFormat "cannot convert float NaN to integer")
  | _ => .error (.wrongType "a real number is required")

/-- The integer of a value that is one. -/
def indexOf : Datum → Except Failure Int
  | .bool b => .ok (if b then 1 else 0)
  | .int i => .ok i
  | _ => .error (.wrongType "an integer is required")

/-- The double-precision number of a number. -/
def realOf (d : Datum) : Except Failure Binary64 :=
  match d with
  | .real r => .ok r
  | .bool b => .ok (.ofInt (if b then 1 else 0))
  | .int i =>
    match Binary64.ofInt i with
    | .infinite _ => .error (.raised ⟨"OverflowError", "int too large to convert to float"⟩)
    | r => .ok r
  | _ => .error (.wrongType "must be real number")

/-- A double-precision number as a form of it shows it; `show_` takes the precision and whether
the point and the zeros behind it are kept. -/
def real (d : Datum) (directive : Directive) (show_ : Nat → Bool → Binary64 → List Char) :
    Except Failure (List Char) := do
  let r ← realOf d
  let places := directive.precision.getD 6
  if capacity < places then noRoom
  else
    let cs := show_ places directive.alternate r
    directive.filledNumber (if directive.conversion.isUpper then upper cs else cs)

/-- A text with its characters beyond ASCII written by their codes. -/
def asciiChars (cs : List Char) : List Char :=
  cs.flatMap fun c => if c.toNat < 0x80 then [c] else Text.codeChars c

/-- The character of a value: a text of one, or the one of a code. -/
def characterOf : Datum → Except Failure Char
  | .text s =>
    match s.toList with
    | [c] => .ok c
    | _ => .error (.wrongType "%c requires int or char")
  | d =>
    match indexOf d with
    | .error f => .error f
    | .ok i =>
      if i < 0 ∨ 0x10ffff < i then
        .error (.raised ⟨"OverflowError", "%c arg not in range(0x110000)"⟩)
      else .ok (Text.charOf i.toNat)

/-- The complaint about a conversion that does not exist. -/
def unsupported (c : Char) (position : Nat) : Failure :=
  let code := (Text.surrogate? c).getD c.toNat
  let shown := if 31 ≤ code ∧ code ≤ 126 then c else '?'
  .badFormat ("unsupported format character '" ++ String.ofList [shown] ++ "' (0x" ++
    String.ofList (inBase 16 8 code) ++ ") at index " ++ Number.natText position)

/-- The characters of a value that may be unable to show itself. -/
def written (shown : Except Fault String) : Except Failure (List Char) :=
  (shown.mapError .raised).map String.toList

/-- The value of a directive at an argument. -/
def render (d : Directive) (position : Nat) (value : Datum) : Except Failure (List Char) :=
  let cut (cs : List Char) := match d.precision with
    | some n => cs.take n
    | none => cs
  match d.conversion with
  | 's' => (written value.plain).bind fun cs => d.filled (cut cs)
  | 'r' => (written value.display).bind fun cs => d.filled (cut cs)
  | 'a' => (written value.display).bind fun cs => d.filled (cut (asciiChars cs))
  | 'd' | 'i' | 'u' => (wholeOf value).bind (d.integer 10 [])
  | 'x' | 'X' => (indexOf value).bind (d.integer 16 ['0', 'x'])
  | 'o' => (indexOf value).bind (d.integer 8 ['0', 'o'])
  | 'f' | 'F' => real value d Binary64.fixedChars
  | 'e' | 'E' => real value d Binary64.scientificChars
  | 'g' | 'G' => real value d Binary64.generalChars
  | 'c' => (characterOf value).bind fun c => d.filled [c]
  | c => .error (unsupported c position)

end Directive

/-! ## Formats -/

/-- Formats characters with arguments; `length` is that of the whole format. -/
def formatFrom (length : Nat) : Nat → List Char → Arguments → Except Failure (List Char)
  | 0, _, _ => .ok []
  | _ + 1, [], a => do
    a.ensureTaken
    return []
  | fuel + 1, '%' :: '%' :: cs, a => do return '%' :: (← formatFrom length fuel cs a)
  | fuel + 1, '%' :: cs, a => do
    let (d, a, cs) ← Directive.read a cs
    let (value, a) ← a.next
    let shown ← d.render (length - cs.length - 1) value
    return shown ++ (← formatFrom length fuel cs a)
  | fuel + 1, c :: cs, a => do return c :: (← formatFrom length fuel cs a)

/-- A format with its arguments. -/
def formatted (format : String) (a : Arguments) : Except Failure String :=
  let cs := format.toList
  (formatFrom cs.length (cs.length + 1) cs a).map String.ofList

/-- A message of a format and its arguments. -/
def formatMessage (format : String) (arguments : List Datum) : Except Failure String :=
  match arguments with
  | [] => .ok format
  | [.dict (e :: es)] => formatted format ⟨arguments, some (e :: es)⟩
  | _ => formatted format ⟨arguments, none⟩

theorem formatMessage_nil (format : String) : formatMessage format [] = .ok format := rfl

end ScriptHost.Log
