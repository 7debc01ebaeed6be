import ScriptHost.Yaml.Tag
import ScriptHost.Yaml.Cursor
import ScriptHost.Text.Literal

/-!
# Written values

How texts, truth values, lists of texts and named fields are written down as YAML, in block
style: every field on lines of its own, the fields of a field two columns further in, and the
items of a list behind hyphens under the name.

A text is written plainly where that reads back as the same text.  Otherwise it stands in single
quotes, or in double quotes where it holds anything but printable ASCII and line feeds.  A line
that has grown past column 80 is continued on the next one at a space.
-/

namespace ScriptHost.Yaml

/-- What can be written down. -/
inductive Block where
  | text (value : String)
  | truth (value : Bool)
  | texts (items : List String)
  | fields (entries : List (String × Block))
  deriving Repr

namespace Block

/-! ## The style of a text -/

/-- The styles of a written text. -/
inductive Style where
  | plain
  | single
  | double
  deriving DecidableEq, Repr

/-- Whether a character may stand in a text without double quotes. -/
def isOrdinary (c : Char) : Bool := c == '\n' || (0x20 ≤ c.toNat && c.toNat ≤ 0x7e)

/-- Whether a text begins like something else, given whether a blank or the end follows its
first character. -/
def opensBadly (c : Char) (alone : Bool) : Bool :=
  "#,[]\x7b\x7d&*!|>\x27\"%@\x60".toList.contains c || (alone && (c == '?' || c == ':' || c == '-'))

/-- Whether a blank or the end follows. -/
def endsHere : List Char → Bool
  | [] => true
  | c :: _ => isBlankOrEnd c

/-- Whether a text reads like the end of a name or the beginning of a comment behind its first
character, given whether a blank came before. -/
def breaksOff (blank : Bool) : List Char → Bool
  | [] => false
  | c :: cs => (c == ':' && endsHere cs) || (c == '#' && blank) || breaksOff (isBlankOrEnd c) cs

/-- Whether two characters follow each other somewhere. -/
def adjoin (a b : Char) : List Char → Bool
  | c :: d :: cs => (c == a && d == b) || adjoin a b (d :: cs)
  | _ => false

/-- Whether a text reads back from its characters alone. -/
def isPlain (s : String) : Bool :=
  match s.toList with
  | [] => false
  | c :: cs =>
    let edges := [c, cs.getLastD c]
    (c :: cs).all (fun c => c != '\n' && isOrdinary c) && !edges.contains ' ' &&
      !("---".toList.isPrefixOf (c :: cs)) && !("...".toList.isPrefixOf (c :: cs)) &&
      !opensBadly c (endsHere cs) && !breaksOff (isBlankOrEnd c) cs && Tag.ofPlain s = .text

/-- The style in which a text is written. -/
def styleOf (s : String) : Style :=
  let cs := s.toList
  if isPlain s then .plain
  else if cs.all isOrdinary && !adjoin ' ' '\n' cs && !adjoin '\n' ' ' cs then .single
  else .double

/-! ## Texts -/

/-- The column past which a line is continued on the next one. -/
def width : Nat := 80

/-- A new line, up to a column. -/
def newLine (indent : Nat) : List Char := '\n' :: List.replicate indent ' '

/-- Whether two characters belong to the same stretch: of spaces, of line feeds, or of others. -/
def sameStretch (a b : Char) : Bool :=
  (a == ' ') == (b == ' ') && (a == '\n') == (b == '\n')

/-- The characters of a plain or single-quoted text, from a column on, stretch by stretch.  One
space between two words becomes a new line past the width; line feeds are written once more. -/
def stretches (indent : Nat) (write : Char → List Char) (column : Nat) (first : Bool) :
    List (List Char) → List Char
  | [] => []
  | run :: runs =>
    match run.head? with
    | some '\n' => '\n' :: run ++ List.replicate indent ' ' ++
        stretches indent write indent false runs
    | some ' ' =>
      if run.length = 1 && width < column && !first && !runs.isEmpty then
        newLine indent ++ stretches indent write indent false runs
      else run ++ stretches indent write (column + run.length) false runs
    | _ =>
      let shown := run.flatMap write
      shown ++ stretches indent write (column + shown.length) false runs

/-- The stretches of a text. -/
def stretchesOf (cs : List Char) : List (List Char) := cs.splitBy sameStretch

/-- A character within single quotes. -/
def singleChar (c : Char) : List Char := if c = '\x27' then ['\x27', '\x27'] else [c]

/-- The letters that stand for characters within double quotes. -/
def letters : List (Char × Char) := [
  ('\x00', '0'), ('\x07', 'a'), ('\x08', 'b'), ('\t', 't'), ('\n', 'n'), ('\x0b', 'v'),
  ('\x0c', 'f'), ('\r', 'r'), ('\x1b', 'e'), ('"', '"'), ('\\', '\\'), ('\x85', 'N'),
  ('\xa0', '_'), ('\u2028', 'L'), ('\u2029', 'P')]

/-- The last hexadecimal digits of a number, in capitals. -/
def capitalDigits (width n : Nat) : List Char := (Text.hexDigits width n).map Char.toUpper

/-- How a character is written behind a backslash, if it must be. -/
def escape? (c : Char) : Option (List Char) :=
  match letters.lookup c with
  | some letter => some ['\\', letter]
  | none =>
    let n := c.toNat
    if 0x20 ≤ n ∧ n ≤ 0x7e then none
    else if n ≤ 0xff then some ('\\' :: 'x' :: capitalDigits 2 n)
    else if n ≤ 0xffff then some ('\\' :: 'u' :: capitalDigits 4 n)
    else some ('\\' :: 'U' :: capitalDigits 8 n)

/-- A new line within double quotes, up to a column; a space that follows is kept by a
backslash. -/
def continued (indent : Nat) (spaceFollows : Bool) : List Char :=
  '\\' :: newLine indent ++ if spaceFollows then ['\\'] else []

/-- The characters of a text within double quotes, from a column on.  `behind` says whether the
last character was written behind a backslash, `first` whether there was none. -/
def doubleChars (indent column : Nat) (behind first : Bool) : List Char → List Char
  | [] => []
  | c :: cs =>
    let within := !first && !cs.isEmpty
    match escape? c with
    | some e =>
      let column := column + e.length
      if within && width < column - 1 then
        let spaceFollows := cs.head? == some ' '
        e ++ continued indent spaceFollows ++
          doubleChars indent (indent + if spaceFollows then 1 else 0) true false cs
      else e ++ doubleChars indent column true false cs
    | none =>
      if within && (c == ' ' || behind) && width < column then
        let isSpace := c == ' '
        continued indent isSpace ++
          c :: doubleChars indent (indent + (if isSpace then 2 else 1)) false false cs
      else c :: doubleChars indent (column + 1) false false cs

/-- A text behind a space, at a column. -/
def textChars (indent column : Nat) (s : String) : List Char :=
  let cs := s.toList
  match styleOf s with
  | .plain => ' ' :: stretches indent (fun c => [c]) (column + 1) true (stretchesOf cs)
  | .single =>
    ' ' :: '\x27' :: stretches indent singleChar (column + 2) true (stretchesOf cs) ++ ['\x27']
  | .double => ' ' :: '"' :: doubleChars indent (column + 2) false true cs ++ ['"']

/-! ## Blocks -/

/-- The items of a list, each on lines of its own. -/
def itemChars (indent : Nat) (items : List String) : List Char :=
  items.flatMap fun s => newLine indent ++ '-' :: textChars (indent + 2) (indent + 1) s

mutual

/-- What stands behind the name of a field, at a column. -/
def chars (indent column : Nat) : Block → List Char
  | text s => textChars (indent + 2) column s
  | truth b => if b then " true".toList else " false".toList
  | texts [] => " []".toList
  | texts items => itemChars indent items
  | fields [] => " \x7b\x7d".toList
  | fields entries => '\n' :: entryChars (indent + 2) entries

/-- Fields, one below the other. -/
def entryChars (indent : Nat) : List (String × Block) → List Char
  | [] => []
  | [(name, b)] => List.replicate indent ' ' ++ name.toList ++ ':' ::
      chars indent (indent + name.length + 1) b
  | (name, b) :: es => List.replicate indent ' ' ++ name.toList ++ ':' ::
      chars indent (indent + name.length + 1) b ++ '\n' :: entryChars indent es

end

/-- Fields as a text of their own. -/
def print (entries : List (String × Block)) : String :=
  String.ofList (entryChars 0 entries ++ ['\n'])

end Block

end ScriptHost.Yaml
