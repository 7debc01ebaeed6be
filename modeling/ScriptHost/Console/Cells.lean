import ScriptHost.Console.CellTable
import ScriptHost.Text.Visible

/-!
# Cells

A terminal shows a text in cells.  A glyph is a character with everything that joins it: marks,
whatever a joiner ties to it, and the selector that asks for a picture in colour, which widens
some characters.  A glyph is shown whole or not at all.

## Main results

* `cells_of_plain` — every visible character of ASCII takes one cell.
-/

namespace ScriptHost.Console

/-- The cells of a character by itself; a control character has none. -/
def charCells (c : Char) : Nat :=
  let n := c.toNat
  if n < 0x20 then 0
  else if n < 0x7f then 1
  else if n < 0xa0 then 0
  else if Text.coveredBy cellless n then 0
  else if Text.coveredBy wideIntervals n then 2
  else 1

/-- A character and what joins it, and the cells they take together. -/
structure Glyph where
  chars : List Char
  width : Nat
  deriving DecidableEq, Repr

namespace Glyph

/-- A glyph of one character. -/
def ofChar (c : Char) : Glyph := ⟨[c], charCells c⟩

/-- A glyph with more characters in the same cells. -/
def join (g : Glyph) (cs : List Char) : Glyph := { g with chars := g.chars ++ cs }

end Glyph

/-- The tie between two characters that are shown as one. -/
def joiner : Char := '\u200d'

/-- The selector of a picture in colour. -/
def colourSelector : Char := '\ufe0f'

/-- The glyphs of a text behind a glyph under way, given the character that the next selector
would widen. -/
def glyphsFrom (g : Glyph) (base : Option Char) : List Char → List Glyph
  | [] => [g]
  | c :: cs =>
    if c = joiner then
      match cs with
      | [] => [g.join [c]]
      | d :: ds => glyphsFrom (g.join [c, d]) base ds
    else if c = colourSelector then
      if base.any fun b => Text.coveredBy widenedIntervals b.toNat then
        glyphsFrom ⟨g.chars ++ [c], g.width + 1⟩ none cs
      else glyphsFrom (g.join [c]) base cs
    else if charCells c = 0 then glyphsFrom (g.join [c]) base cs
    else g :: glyphsFrom (.ofChar c) (some c) cs

/-- The glyphs of a text. -/
def glyphs : List Char → List Glyph
  | [] => []
  | c :: cs => glyphsFrom (.ofChar c) (if charCells c = 0 then none else some c) cs

/-- The cells that glyphs take. -/
def cellsOf : List Glyph → Nat
  | [] => 0
  | g :: gs => g.width + cellsOf gs

/-- The cells that a text takes. -/
def cells (cs : List Char) : Nat := cellsOf (glyphs cs)

/-- The beginning of a text that takes at most a number of cells; a glyph of which only a part
would fit leaves a blank. -/
def cropTo : Nat → List Glyph → List Char
  | _, [] => []
  | room, g :: gs =>
    if g.width ≤ room then g.chars ++ cropTo (room - g.width) gs
    else if room = 0 then [] else [' ']

/-- Glyphs cut into lines of at most a number of cells, behind the characters of the line under
way (newest first) and the cells that it takes. -/
def choppedFrom (width : Nat) (line : List Char) (used : Nat) : List Glyph → List (List Char)
  | [] => if used = 0 then [] else [line.reverse]
  | g :: gs =>
    if width < used + g.width then
      line.reverse :: choppedFrom width g.chars.reverse g.width gs
    else choppedFrom width (g.chars.reverse ++ line) (used + g.width) gs

/-- A text cut into lines of at most a number of cells. -/
def chopped (width : Nat) (cs : List Char) : List (List Char) :=
  choppedFrom width [] 0 (glyphs cs)

/-! ## Text of ASCII -/

/-- Whether a character is a visible one of ASCII, or the blank. -/
def isPlain (c : Char) : Bool := 0x20 ≤ c.toNat && c.toNat < 0x7f

theorem charCells_of_plain {c : Char} (h : isPlain c = true) : charCells c = 1 := by
  simp only [isPlain, Bool.and_eq_true, decide_eq_true_eq] at h
  simp only [charCells]
  rw [if_neg (by omega), if_pos h.2]

theorem glyphsFrom_of_plain (g : Glyph) (base : Option Char) {cs : List Char}
    (h : ∀ c ∈ cs, isPlain c = true) : glyphsFrom g base cs = g :: cs.map Glyph.ofChar := by
  induction cs generalizing g base with
  | nil => rfl
  | cons c cs ih =>
    have hc := h c List.mem_cons_self
    have hj : c ≠ joiner := by rintro rfl; exact absurd hc (by decide)
    have hs : c ≠ colourSelector := by rintro rfl; exact absurd hc (by decide)
    rw [glyphsFrom.eq_def]
    simp only [if_neg hj, if_neg hs, charCells_of_plain hc, Nat.one_ne_zero, if_false,
      List.map_cons, ih _ _ fun d hd => h d (List.mem_cons_of_mem c hd)]

/-- Every visible character of ASCII takes one cell. -/
theorem cells_of_plain {cs : List Char} (h : ∀ c ∈ cs, isPlain c = true) :
    cells cs = cs.length := by
  have hone : ∀ ds : List Char, (∀ d ∈ ds, isPlain d = true) →
      cellsOf (ds.map Glyph.ofChar) = ds.length := by
    intro ds hd
    induction ds with
    | nil => rfl
    | cons d ds ih =>
      have := ih fun e he => hd e (List.mem_cons_of_mem d he)
      simp only [List.map_cons, cellsOf, List.length_cons, this, Glyph.ofChar,
        charCells_of_plain (hd d List.mem_cons_self)]
      omega
  cases cs with
  | nil => rfl
  | cons c cs =>
    rw [cells, glyphs, glyphsFrom_of_plain _ _ fun d hd => h d (List.mem_cons_of_mem c hd)]
    exact hone (c :: cs) h

end ScriptHost.Console
