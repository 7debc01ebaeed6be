/-!
# Lines of a text

Two ways to look at the lines of a text.  `lines` cuts at every line boundary that a text may
hold: line feed, carriage return, the pair of both, vertical tab, form feed, the three
information separators, next line, and the two Unicode separators.  A boundary at the end of
the text does not begin another line.  `plainNewlines` is what happens to a file that is read
as text: a carriage return, alone or before a line feed, is read as one line feed.

## Main results

* `plainNewlineChars_eq_self` — a text without carriage returns is read as it is.
-/

namespace ScriptHost.Text

/-- The characters that end a line. -/
def isLineBoundary (c : Char) : Bool :=
  let n := c.toNat
  (0x0a ≤ n && n ≤ 0x0d) || (0x1c ≤ n && n ≤ 0x1e) || n == 0x85 || n == 0x2028 || n == 0x2029

/-- The lines of a text, given the characters of the line under way (newest first) and whether
there is one. -/
def linesFrom (line : List Char) (started : Bool) : List Char → List (List Char)
  | [] => if started then [line.reverse] else []
  | '\r' :: '\n' :: cs => line.reverse :: linesFrom [] false cs
  | c :: cs =>
    if isLineBoundary c then line.reverse :: linesFrom [] false cs
    else linesFrom (c :: line) true cs

/-- The lines of a text, without their boundaries. -/
def lineChars (cs : List Char) : List (List Char) := linesFrom [] false cs

/-- The lines of a string, without their boundaries. -/
def lines (s : String) : List String := (lineChars s.toList).map String.ofList

/-- The text with every carriage return, alone or before a line feed, read as a line feed. -/
def plainNewlineChars : List Char → List Char
  | [] => []
  | '\r' :: '\n' :: cs => '\n' :: plainNewlineChars cs
  | '\r' :: cs => '\n' :: plainNewlineChars cs
  | c :: cs => c :: plainNewlineChars cs

/-- The string with every carriage return, alone or before a line feed, read as a line feed. -/
def plainNewlines (s : String) : String := String.ofList (plainNewlineChars s.toList)

theorem plainNewlineChars_eq_self {cs : List Char} (h : '\r' ∉ cs) :
    plainNewlineChars cs = cs := by
  induction cs with
  | nil => rfl
  | cons c cs ih =>
    have hc : c ≠ '\r' := fun e => h (by simp [e])
    rw [plainNewlineChars]
    · rw [ih fun hm => h (by simp [hm])]
    · intro ds heq _; exact hc heq
    · exact hc

end ScriptHost.Text
