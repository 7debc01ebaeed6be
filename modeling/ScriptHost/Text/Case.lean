import ScriptHost.Text.CaseTable

/-!
# Case folding and lower case

`fold` is the form in which two names are compared: full case folding, which maps a sharp s
to `ss` and a ligature to its letters.  `lower` is the lower case of a word, with the one rule
that looks at the neighbours of a character: a capital sigma at the end of a word becomes a
final sigma.  ASCII letters move by arithmetic; everything else goes through the tables.

## Main results

* `foldChar_of_lt` — below 128, folding is ASCII lower case.
* `foldChars_append` — folding works character by character.
-/

namespace ScriptHost.Text

/-- The ASCII lower case of a character code. -/
def lowerAscii (code : Nat) : Nat :=
  if 0x41 ≤ code ∧ code ≤ 0x5a then code + 0x20 else code

/-- The case folding of one character. -/
def foldChar (c : Char) : List Char :=
  if c.toNat < 0x80 then
    [Char.ofNat (lowerAscii c.toNat)]
  else
    match longFolds.lookup c.toNat with
    | some codes => codes.map Char.ofNat
    | none => [Char.ofNat ((lookupRun foldRuns c.toNat).getD c.toNat)]

/-- The case folding of a text. -/
def foldChars (cs : List Char) : List Char := cs.flatMap foldChar

/-- The case folding of a string. -/
def fold (s : String) : String := String.ofList (foldChars s.toList)

theorem foldChars_append (xs ys : List Char) :
    foldChars (xs ++ ys) = foldChars xs ++ foldChars ys :=
  List.flatMap_append

theorem foldChar_of_lt {c : Char} (h : c.toNat < 0x80) :
    foldChar c = [Char.ofNat (lowerAscii c.toNat)] := by
  simp [foldChar, h]

/-! ## Lower case -/

/-- Whether the first character that case rules do not look through is cased. -/
def facesCased : List Char → Bool
  | [] => false
  | c :: cs =>
    if inIntervals ignorableIntervals c.toNat then facesCased cs
    else inIntervals casedIntervals c.toNat

/-- The lower case of a character between the text before it (nearest first) and the text
after it. -/
def lowerChar (before : List Char) (c : Char) (after : List Char) : List Char :=
  if c.toNat < 0x80 then
    [Char.ofNat (lowerAscii c.toNat)]
  else if c.toNat = 0x130 then
    [Char.ofNat 0x69, Char.ofNat 0x307]
  else if c.toNat = 0x3a3 then
    [Char.ofNat (if facesCased before && !facesCased after then 0x3c2 else 0x3c3)]
  else
    [Char.ofNat ((lookupRun lowerRuns c.toNat).getD c.toNat)]

/-- The lower case of a text that follows `before` (nearest character first). -/
def lowerChars (before : List Char) : List Char → List Char
  | [] => []
  | c :: after => lowerChar before c after ++ lowerChars (c :: before) after

/-- The lower case of a string. -/
def lower (s : String) : String := String.ofList (lowerChars [] s.toList)

end ScriptHost.Text
