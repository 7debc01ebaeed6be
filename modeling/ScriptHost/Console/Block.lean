import ScriptHost.Console.Wrap
import ScriptHost.Number.Digits
import ScriptHost.Text.Lines

/-!
# Blocks on the console

What is printed comes in blocks: a line of text, a panel with a title, or a table.  A block
becomes rows of characters: a panel is a heading and its rows, a table a title and the cells of
each row with a bar between them.  A text may hold line feeds, or not fit, and then takes several
rows; tabs lead to the next stop.

A panel is as wide as the console, or as its widest line.  A table is as wide as its cells; if
that is too wide the widest column gives way, and what its cells do not hold ends in an ellipsis.
-/

namespace ScriptHost.Console

/-- What is printed at once. -/
inductive Block where
  | line (text : String)
  | panel (title : String) (rows : List String)
  /-- A panel that is no wider than its text needs. -/
  | card (title text : String)
  | table (title : String) (columns : List String) (rows : List (List String))
  /-- Where in the code of the host a failure arose; that is nothing a caller could rely on, so it
  has no rows here. -/
  | traceback (kind : String)
  deriving DecidableEq, Repr

/-! ## Measures -/

/-- The cells of a row of the console. -/
def consoleWidth : Nat := 2000

/-- The cells of a row of a panel: without the border and a blank at either end. -/
def panelWidth : Nat := consoleWidth - 4

/-- The distance between the tab stops of ordinary text. -/
def tabWidth : Nat := 8

/-! ## Rows of a text -/

/-- The rows of a text in lines of a width. -/
def rows (o : Overflow) (width : Nat) (s : String) : List (List Char) :=
  (Text.pieces (· == '\n') s.toList).flatMap fun line =>
    wrapped o width (withoutTabs cells tabWidth line)

/-- The cells that a text asks for: those of its longest line, to which tabs add nothing. -/
def askedWidth (s : String) : Nat :=
  (Text.lineChars s.toList).foldl (fun n line => max n (cells line)) 0

/-! ## Rows of a block -/

/-- The rows of a text in lines of a width without the blanks around them, and without the empty
ones. -/
def trimmedRows (width : Nat) (s : String) : List String :=
  ((rows .fold width s).map Text.stripChars).filterMap fun cs =>
    if cs.isEmpty then none else some (String.ofList cs)

/-- The rows of a text in a panel of a width without the blanks behind them. -/
def panelRows (width : Nat) (s : String) : List String :=
  (rows .fold width s).map fun cs => String.ofList (Text.stripRight cs)

/-- The width of a card: the title keeps a blank and a piece of the border at either end. -/
def cardWidth (title text : String) : Nat :=
  min panelWidth (max (askedWidth text) (cells title.toList + 2))

/-- The columns of a table with their rows, as many as the longest of them has. -/
def columnsOf (table : List (List String)) : Nat → List (List String)
  | 0 => []
  | n + 1 => columnsOf table n ++ [table.map fun row => (row[n]?).getD ""]

/-- The width of a table with columns of some widths: each has a border and blanks around it. -/
def tableWidth (widths : List Nat) : Nat := widths.foldl (fun n w => n + w + 3) 1

/-- The width of every column: that of its widest cell, but the widest column is only as wide as
the console allows. -/
def columnWidths (columns : List (List String)) : List Nat :=
  let asked := columns.map fun column => column.foldl (fun n s => max n (askedWidth s)) 0
  let whole := tableWidth asked
  let widest := asked.foldl max 0
  asked.map fun w => if w = widest then w - (whole - consoleWidth) else w

/-- A row of a table, which is as high as its highest cell. -/
def tableRows (widths : List Nat) (row : List String) : List String :=
  let columns := (row.zip widths).map fun (cell, width) => rows .ellipsis width cell
  let height := columns.foldl (fun n column => max n column.length) 0
  (List.range height).map fun k =>
    " | ".intercalate <| columns.map fun column =>
      String.ofList (Text.stripChars ((column[k]?).getD []))

namespace Block

/-- The rows of a block. -/
def lines : Block → List String
  | line text => trimmedRows consoleWidth text
  | panel title rows => ("== " ++ title) :: rows.flatMap (panelRows panelWidth)
  | card title text => ("== " ++ title) :: panelRows (cardWidth title text) text
  | table title columns rows =>
    let widths := columnWidths (columnsOf (columns :: rows) columns.length)
    trimmedRows (tableWidth widths) title ++ (columns :: rows).flatMap (tableRows widths)
  | traceback _ => []

end Block

end ScriptHost.Console
