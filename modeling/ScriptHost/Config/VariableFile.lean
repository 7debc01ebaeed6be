import ScriptHost.Sequence.Entries
import ScriptHost.Text.Blank

/-!
# Files of variables

A file of variables has a line for each of them: its name, an equals sign, and its value.  A name
may stand in single quotes and behind the word `export`; one without an equals sign has no value.
A value may stand in quotes, and then go on over several lines; a value without quotes ends with
its line, or with the blanks before a remark.  A line that is none of this is passed over.

In a value a name in braces behind a dollar sign stands for the value of that variable: of the one
that the file gave before, or else of the environment.  Behind a colon and a dash it says what it
stands for otherwise.
-/

namespace ScriptHost.VariableFile

open Sequence (Entries)
open Text (isBlank)

/-! ## Values -/

/-- The text up to the quote that closes it, and what follows.  A quote behind a backslash closes
the text only if no other one does. -/
def quotedPart (quote : Char) : List Char → Option (List Char × List Char)
  | [] => none
  | c :: cs =>
    if c = quote then some ([], cs)
    else if c = '\\' then
      match cs with
      | [] => none
      | d :: ds =>
        if d = quote then
          match quotedPart quote ds with
          | some (part, rest) => some (c :: d :: part, rest)
          | none => some ([c], ds)
        else (quotedPart quote (d :: ds)).map fun r => (c :: r.1, r.2)
    else (quotedPart quote cs).map fun r => (c :: r.1, r.2)

/-- The characters that may stand behind a backslash in single quotes, and what they stand for. -/
def singleEscapes : List (Char × Char) := [('\\', '\\'), ('\x27', '\x27')]

/-- The characters that may stand behind a backslash in double quotes, and what they stand for. -/
def doubleEscapes : List (Char × Char) :=
  [('\\', '\\'), ('\x27', '\x27'), ('"', '"'), ('a', '\x07'), ('b', '\x08'), ('f', '\x0c'),
    ('n', '\n'), ('r', '\r'), ('t', '\t'), ('v', '\x0b')]

/-- A text with what its escapes stand for. -/
def unescaped (escapes : List (Char × Char)) : List Char → List Char
  | [] => []
  | [c] => [c]
  | c :: d :: cs =>
    match if c = '\\' then escapes.lookup d else none with
    | some meant => meant :: unescaped escapes cs
    | none => c :: unescaped escapes (d :: cs)

/-- A text up to the blanks before a remark. -/
def withoutRemark : List Char → List Char
  | [] => []
  | c :: cs =>
    if isBlank c && (cs.dropWhile isBlank).head? == some '#' then [] else c :: withoutRemark cs

/-- What follows the blanks of a line. -/
def afterBlanks (cs : List Char) : List Char := cs.dropWhile fun c => isBlank c && c != '\n'

/-- Whether a character belongs to a line. -/
def isInLine (c : Char) : Bool := c != '\n'

/-- Reads a value; a quote that is not closed is where reading stops. -/
def value (cs : List Char) : Except (List Char) (String × List Char) :=
  let quoted (quote : Char) (escapes : List (Char × Char)) (rest : List Char) :=
    match quotedPart quote rest with
    | some (part, rest) => .ok (String.ofList (unescaped escapes part), rest)
    | none => .error cs
  match cs with
  | '\x27' :: rest => quoted '\x27' singleEscapes rest
  | '"' :: rest => quoted '"' doubleEscapes rest
  | _ => .ok (String.ofList (Text.stripRight (withoutRemark (cs.takeWhile isInLine))),
      cs.dropWhile isInLine)

/-! ## Lines -/

/-- What follows the word before a name, if it is there. -/
def afterExport (cs : List Char) : List Char :=
  let rest := cs.drop "export".length
  if "export".toList.isPrefixOf cs && afterBlanks rest != rest then afterBlanks rest else cs

/-- Reads a name; a line that is a remark has none. -/
def name (cs : List Char) : Except (List Char) (Option String × List Char) :=
  match cs with
  | '#' :: _ => .ok (none, cs)
  | '\x27' :: rest =>
    let part := rest.takeWhile fun c => c != '\x27'
    match part, rest.drop part.length with
    | _ :: _, _ :: rest => .ok (some (String.ofList part), rest)
    | _, _ => .error cs
  | _ =>
    let part := cs.takeWhile fun c => c != '=' && c != '#' && !isBlank c
    if part.isEmpty then .error cs else .ok (some (String.ofList part), cs.drop part.length)

/-- What follows the end of a line, before which a remark may stand. -/
def afterEnd (cs : List Char) : Except (List Char) (List Char) :=
  let rest := match afterBlanks cs with
    | '#' :: rest => rest.dropWhile isInLine
    | _ => afterBlanks cs
  match rest with
  | [] => .ok []
  | '\n' :: rest => .ok rest
  | _ => .error rest

/-- Reads a line. -/
def line (cs : List Char) : Except (List Char) ((Option String × Option String) × List Char) := do
  let (name, rest) ← name (afterExport cs)
  match afterBlanks rest with
  | '=' :: rest =>
    let (text, rest) ← value (afterBlanks rest)
    return ((name, some text), ← afterEnd rest)
  | rest => return ((name, none), ← afterEnd rest)

/-- The variables of a text, in order; every line takes one step. -/
def lines : Nat → List Char → List (String × Option String)
  | 0, _ => []
  | steps + 1, cs =>
    match cs.dropWhile isBlank with
    | [] => []
    | cs =>
      match line cs with
      | .ok ((some name, text), rest) => (name, text) :: lines steps rest
      | .ok ((none, _), rest) => lines steps rest
      | .error rest => lines steps ((rest.dropWhile isInLine).drop 1)

/-! ## Variables in values -/

/-- Reads a name in braces behind a dollar sign, and what it stands for otherwise. -/
def insert? (cs : List Char) : Option ((String × String) × List Char) :=
  match cs with
  | '$' :: '\x7b' :: rest =>
    let name := rest.takeWhile fun c => c != '\x7d' && c != ':'
    match rest.drop name.length with
    | '\x7d' :: rest => some ((String.ofList name, ""), rest)
    | ':' :: '-' :: rest =>
      let default := rest.takeWhile fun c => c != '\x7d'
      match rest.drop default.length with
      | _ :: rest => some ((String.ofList name, String.ofList default), rest)
      | [] => none
    | _ => none
  | _ => none

/-- A text with the values of its variables; every character takes one step. -/
def filled (look : String → Option (Option String)) : Nat → List Char → List Char
  | 0, cs => cs
  | _, [] => []
  | steps + 1, c :: cs =>
    match insert? (c :: cs) with
    | some ((name, default), rest) =>
      (((look name).getD (some default)).getD "").toList ++ filled look steps rest
    | none => c :: filled look steps cs

/-- The variables of a file, whose text has plain newlines, in an environment. -/
def read (environment : Entries String) (text : String) : Entries (Option String) :=
  (lines (text.length + 1) text.toList).foldl (fun given v =>
    let look (name : String) : Option (Option String) :=
      (given.get? name).or ((environment.get? name).map some)
    given.put v.1 (v.2.map fun s => String.ofList (filled look s.length s.toList))) []

end ScriptHost.VariableFile
