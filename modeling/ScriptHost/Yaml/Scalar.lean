import ScriptHost.Number.Numeral
import ScriptHost.Text.Surrogate
import ScriptHost.Text.Utf8
import ScriptHost.Yaml.Cursor

/-!
# Scalars

The four ways in which a YAML text writes a single value.  A plain scalar has no marks around
it and ends where something else begins; a quoted scalar may hold anything; a block scalar
takes whole lines.  In all of them a single line break between two lines of text is read as a
space, and further breaks as line feeds, except in literal blocks, which keep every break.
-/

namespace ScriptHost.Yaml

/-! ## Quoted scalars -/

/-- The character behind a backslash in a quoted scalar. -/
def escaped? (c : Char) : Option Char :=
  [('0', '\x00'), ('a', '\x07'), ('b', '\x08'), ('t', '\t'), ('\t', '\t'), ('n', '\n'),
    ('v', '\x0b'), ('f', '\x0c'), ('r', '\r'), ('e', '\x1b'), (' ', ' '), ('"', '"'),
    ('\\', '\\'), ('/', '/'), ('N', '\x85'), ('_', '\xa0'), ('L', '\u2028'),
    ('P', '\u2029')].lookup c

/-- How many hexadecimal digits give a character, by the letter behind the backslash. -/
def codeLength? (c : Char) : Option Nat := [('x', 2), ('u', 4), ('U', 8)].lookup c

/-- The breaks between the lines of a quoted scalar, and the place behind them and the blanks
around them. -/
def quotedBreaks : Nat → Cursor → Except Failure (List Char × Cursor)
  | 0, _ => malformed
  | fuel + 1, c => do
    ensure (!c.atSeparator)
    let c := c.skipWhile fun ch => ch == ' ' || ch == '\t'
    if isBreak c.peek then
      let (break_, c) := c.lineBreak
      let (breaks, c) ← quotedBreaks fuel c
      return (break_ ++ breaks, c)
    else return ([], c)

/-- Two lines of text joined: one line feed is a space, more are one fewer. -/
def foldBreaks (first rest : List Char) : List Char :=
  if first != ['\n'] then first ++ rest
  else if rest.isEmpty then [' ']
  else rest

/-- The blanks and breaks within a quoted scalar. -/
def quotedSpaces (fuel : Nat) (c : Cursor) : Except Failure (List Char × Cursor) := do
  let (blanks, c) := c.takeWhile fun ch => ch == ' ' || ch == '\t'
  if isBreak c.peek then
    let (break_, c) := c.lineBreak
    let (breaks, c) ← quotedBreaks fuel c
    return (foldBreaks break_ breaks, c)
  else
    ensure (c.peek != '\x00')
    return (blanks, c)

/-- The character of a code, which may be one without a character. -/
def charOfCode (n : Nat) : Except Failure Char :=
  if n ≤ 0x10ffff then .ok (Text.charOf n)
  else if n < 0x80000000 then
    .error (.raised ⟨"ValueError", "chr() arg not in range(0x110000)"⟩)
  else .error (.raised ⟨"OverflowError", "Python int too large to convert to C int"⟩)

/-- The text of a quoted scalar up to a blank, a break or the closing quote. -/
def quotedText (double : Bool) : Nat → Cursor → Except Failure (List Char × Cursor)
  | 0, _ => malformed
  | fuel + 1, c => do
    let (run, c) := c.takeWhile fun ch =>
      !(ch == '\x27' || ch == '"' || ch == '\\' || isBlankOrEnd ch)
    let ch := c.peek
    if !double && ch == '\x27' && c.peekAt 1 == '\x27' then
      let (more, c) ← quotedText double fuel (c.forward 2)
      return (run ++ '\x27' :: more, c)
    else if (double && ch == '\x27') || (!double && (ch == '"' || ch == '\\')) then
      let (more, c) ← quotedText double fuel c.next
      return (run ++ ch :: more, c)
    else if double && ch == '\\' then
      let c := c.next
      let letter := c.peek
      match escaped? letter, codeLength? letter with
      | some e, _ =>
        let (more, c) ← quotedText double fuel c.next
        return (run ++ e :: more, c)
      | none, some length =>
        let c := c.next
        let digits := c.rest.take length
        match Number.natIn? 16 digits with
        | some n =>
          ensure (digits.length == length)
          let e ← charOfCode n
          let (more, c) ← quotedText double fuel (c.forward length)
          return (run ++ e :: more, c)
        | none => malformed
      | none, none =>
        ensure (isBreak letter)
        let (breaks, c) ← quotedBreaks fuel c.lineBreak.2
        let (more, c) ← quotedText double fuel c
        return (run ++ breaks ++ more, c)
    else return (run, c)

/-- The rest of a quoted scalar behind its first stretch of text. -/
def quotedRest (double : Bool) : Nat → Cursor → Except Failure (List Char × Cursor)
  | 0, _ => malformed
  | fuel + 1, c => do
    if c.peek == (if double then '"' else '\x27') then return ([], c.next)
    let (spaces, c) ← quotedSpaces fuel c
    let (text, c) ← quotedText double fuel c
    let (more, c) ← quotedRest double fuel c
    return (spaces ++ text ++ more, c)

/-- A quoted scalar. -/
def quotedScalar (double : Bool) (c : Cursor) : Except Failure (List Char × Cursor) := do
  let fuel := c.rest.length + 1
  let (text, c) ← quotedText double fuel c.next
  let (more, c) ← quotedRest double fuel c
  return (text ++ more, c)

/-! ## Plain scalars -/

/-- Whether a character ends a plain scalar; the next one is known, too. -/
def endsPlain (inFlow : Bool) (ch following : Char) : Bool :=
  let isFlowMark (c : Char) : Bool :=
    c == ',' || c == '[' || c == ']' || c == '\x7b' || c == '\x7d'
  isBlankOrEnd ch ||
    (ch == ':' && (isBlankOrEnd following || (inFlow && isFlowMark following))) ||
    (inFlow && (isFlowMark ch || ch == '?'))

/-- The characters of a plain scalar up to something that ends it. -/
def plainRun (inFlow : Bool) : List Char → List Char
  | [] => []
  | ch :: cs => if endsPlain inFlow ch (cs.headD '\x00') then [] else ch :: plainRun inFlow cs

/-- The breaks within a plain scalar, and the place behind them; nothing if a separator of
documents follows. -/
def plainBreaks : Nat → Cursor → Option (List Char) × Cursor
  | 0, c => (none, c)
  | fuel + 1, c =>
    if c.peek == ' ' then plainBreaks fuel c.next
    else if isBreak c.peek then
      let (break_, c) := c.lineBreak
      if c.atSeparator then (none, c)
      else
        let (breaks, c) := plainBreaks fuel c
        (breaks.map fun more => break_ ++ more, c)
    else (some [], c)

/-- The blanks and breaks within a plain scalar, the place behind them, and whether there was a
break. -/
def plainSpaces (fuel : Nat) (c : Cursor) : List Char × Cursor × Bool :=
  let (blanks, c) := c.takeWhile (· == ' ')
  if isBreak c.peek then
    let (break_, c) := c.lineBreak
    if c.atSeparator then ([], c, true)
    else
      match plainBreaks fuel c with
      | (none, c) => ([], c, true)
      | (some breaks, c) => (foldBreaks break_ breaks, c, true)
  else (blanks, c, false)

/-- A plain scalar whose lines are indented by at least `indent`; the text, the place behind it,
and whether there was a break behind its last line. -/
def plainScalar (inFlow : Bool) (indent : Nat) : Nat → Cursor → List Char × Cursor × Bool
  | 0, c => ([], c, false)
  | fuel + 1, c =>
    let run := if c.peek == '#' then [] else plainRun inFlow c.rest
    if run.isEmpty then ([], c, false)
    else
      let (spaces, c, broken) := plainSpaces (c.rest.length + 1) (c.forward run.length)
      if spaces.isEmpty || c.peek == '#' || (!inFlow && c.column < indent) then (run, c, broken)
      else
        match plainScalar inFlow indent fuel c with
        | ([], c, _) => (run, c, broken)
        | (more, c, later) => (run ++ spaces ++ more, c, later)

/-! ## Block scalars -/

/-- What is done with the breaks behind the last line of a block scalar. -/
inductive Chomping where
  | strip
  | clip
  | keep
  deriving DecidableEq, Repr

/-- The chomping of a mark. -/
def chomping? (c : Char) : Option Chomping :=
  if c == '+' then some .keep else if c == '-' then some .strip else none

/-- The indentation that a digit gives. -/
def blockIndent? (c : Char) : Option Nat := Number.digitIn? 10 c

/-- The two marks that may stand behind the sign of a block scalar, in either order. -/
def blockMarks (c : Cursor) : Except Failure (Chomping × Option Nat × Cursor) := do
  let (chomping, indent, c) :=
    match chomping? c.peek, blockIndent? c.peek with
    | some chomping, _ =>
      match blockIndent? (c.peekAt 1) with
      | some n => (chomping, some n, c.forward 2)
      | none => (chomping, none, c.next)
    | none, some n =>
      match chomping? (c.peekAt 1) with
      | some chomping => (chomping, some n, c.forward 2)
      | none => (.clip, some n, c.next)
    | none, none => (.clip, none, c)
  ensure (indent != some 0 && isSpaceOrEnd c.peek)
  return (chomping, indent, c)

/-- The empty lines before the first line of a block scalar, how far the furthest of them is
indented, and the place behind them. -/
def blockLead : Nat → Nat → Cursor → List Char × Nat × Cursor
  | 0, deepest, c => ([], deepest, c)
  | fuel + 1, deepest, c =>
    if c.peek == ' ' then blockLead fuel (max deepest c.next.column) c.next
    else if isBreak c.peek then
      let (break_, c) := c.lineBreak
      let (breaks, deepest, c) := blockLead fuel deepest c
      (break_ ++ breaks, deepest, c)
    else ([], deepest, c)

/-- The place behind spaces up to an indentation. -/
def indented (indent : Nat) (c : Cursor) : Cursor :=
  c.forward (min (indent - c.column) (c.rest.takeWhile (· == ' ')).length)

/-- The empty lines within a block scalar, and the place behind them. -/
def blockBreaks (indent : Nat) : Nat → Cursor → List Char × Cursor
  | 0, c => ([], c)
  | fuel + 1, c =>
    let c := indented indent c
    if isBreak c.peek then
      let (break_, c) := c.lineBreak
      let (breaks, c) := blockBreaks indent fuel c
      (break_ ++ breaks, c)
    else ([], c)

/-- The lines of a block scalar from the first on, given the empty lines before it: the text, the
break behind the last line, the empty lines behind it, and the place behind them. -/
def blockLines (folded : Bool) (indent : Nat) (breaks : List Char) :
    Nat → Cursor → List Char × List Char × List Char × Cursor
  | 0, c => ([], [], breaks, c)
  | fuel + 1, c =>
    if c.column == indent && c.peek != '\x00' then
      let isText (ch : Char) : Bool := !(ch == ' ' || ch == '\t')
      let startsText := isText c.peek
      let (line, c) := c.takeWhile fun ch => !isBreakOrEnd ch
      let (break_, c) := c.lineBreak
      let (more, c) := blockBreaks indent (c.rest.length + 1) c
      if c.column == indent && c.peek != '\x00' then
        let joint :=
          if folded && break_ == ['\n'] && startsText && isText c.peek then
            if more.isEmpty then [' '] else []
          else break_
        let (text, last, trail, c) := blockLines folded indent more fuel c
        (breaks ++ line ++ joint ++ text, last, trail, c)
      else (breaks ++ line, break_, more, c)
    else ([], [], breaks, c)

/-- A block scalar within a structure that is indented by one less than `least`. -/
def blockScalar (folded : Bool) (least : Nat) (c : Cursor) :
    Except Failure (List Char × Cursor) := do
  let (chomping, given, c) ← blockMarks c.next
  let c := c.skipComment
  ensure (isBreakOrEnd c.peek)
  let c := c.lineBreak.2
  let least := max least 1
  let fuel := c.rest.length + 1
  let (breaks, indent, c) := match given with
    | some n =>
      let indent := least + n - 1
      let (breaks, c) := blockBreaks indent fuel c
      (breaks, indent, c)
    | none =>
      let (breaks, deepest, c) := blockLead fuel 0 c
      (breaks, max least deepest, c)
  let (text, last, trail, c) := blockLines folded indent breaks fuel c
  return (match chomping with
    | .strip => text
    | .clip => text ++ last
    | .keep => text ++ last ++ trail, c)

end ScriptHost.Yaml
