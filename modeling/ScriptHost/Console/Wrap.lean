import ScriptHost.Console.Cells
import ScriptHost.Text.Blank
import ScriptHost.Text.Pieces

/-!
# Lines that fit

A text is brought into lines of a width.  A tab leads to the next stop.  A line ends in front of
the first word that it does not hold, and the blanks behind a word belong to it; a word that no
line holds is folded, or its line ends in an ellipsis.

## Main results

* `wrapped_of_fits` — a text that fits is one line.
* `expandTabs_single` — a text without tabs is not changed by them.
-/

namespace ScriptHost.Console

/-! ## Tabs -/

/-- Pieces that were separated by tabs, the first of them at a column: each tab leads to the
next stop, which is one column away at least. -/
def expandTabs (measure : List Char → Nat) (stops column : Nat) : List (List Char) → List Char
  | [] => []
  | [piece] => piece
  | piece :: pieces =>
    let reached := column + measure piece
    let gap := stops - reached % stops
    piece ++ List.replicate gap ' ' ++ expandTabs measure stops (reached + gap) pieces

/-- A text with blanks for its tabs. -/
def withoutTabs (measure : List Char → Nat) (stops : Nat) (cs : List Char) : List Char :=
  expandTabs measure stops 0 (Text.pieces (· == '\t') cs)

theorem expandTabs_single (measure : List Char → Nat) (stops column : Nat) (piece : List Char) :
    expandTabs measure stops column [piece] = piece := rfl

/-! ## Words -/

/-- A text cut wherever a word begins behind a blank. -/
def cutAtWords : List Char → List (List Char)
  | [] => []
  | c :: cs =>
    match cutAtWords cs with
    | (d :: word) :: rest =>
      if Text.isBlank c && !Text.isBlank d then [c] :: (d :: word) :: rest
      else (c :: d :: word) :: rest
    | rest => [c] :: rest

/-- The words of a text, each with the blanks behind it, the first one with those in front of it
too. -/
def spacedWords (cs : List Char) : List (List Char) :=
  match cutAtWords cs with
  | first :: second :: rest =>
    if first.all Text.isBlank then (first ++ second) :: rest else first :: second :: rest
  | words => words

/-! ## Lines -/

/-- What becomes of a word that no line holds. -/
inductive Overflow where
  | fold
  | ellipsis
  deriving DecidableEq, Repr

/-- Lines in front of others, the first of them only if there is something in it. -/
def closing (line : List Char) (rest : List (List Char)) : List (List Char) :=
  if line.isEmpty then rest else line :: rest

/-- The lines that words fill, behind a line under way and the cells that it takes. -/
def filled (o : Overflow) (width : Nat) (line : List Char) (used : Nat) :
    List (List Char) → List (List Char)
  | [] => [line]
  | word :: rest =>
    let size := cells (Text.stripRight word)
    if used + size ≤ width then filled o width (line ++ word) (used + cells word) rest
    else if width < size && o == .fold then
      let parts := chopped width word
      let last := parts.getLast?.getD []
      closing line (parts.dropLast ++ filled o width last (cells last) rest)
    else closing line (filled o width word (cells word) rest)

/-- A line without as many of the blanks at its end as it has characters too many. -/
def trimmed (width : Nat) (line : List Char) : List Char :=
  let blanks := line.length - (Text.stripRight line).length
  line.take (line.length - min blanks (line.length - width))

/-- A line that fits. -/
def fitted (o : Overflow) (width : Nat) (line : List Char) : List Char :=
  if cells line ≤ width then line
  else
    match o with
    | .fold => cropTo width (glyphs line)
    | .ellipsis => cropTo (width - 1) (glyphs line) ++ ['…']

/-- The lines of a text without line feeds. -/
def wrapped (o : Overflow) (width : Nat) (cs : List Char) : List (List Char) :=
  if cells cs ≤ width then [cs]
  else (filled o width [] 0 (spacedWords cs)).map fun line => fitted o width (trimmed width line)

/-- A text that fits is one line. -/
theorem wrapped_of_fits (o : Overflow) {width : Nat} {cs : List Char} (h : cells cs ≤ width) :
    wrapped o width cs = [cs] := if_pos h

end ScriptHost.Console
