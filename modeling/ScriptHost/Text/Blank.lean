/-!
# Blank characters

Names and folder settings are read without the blanks around them.  The set is wider than
ASCII: every character of the Unicode property of white space, and the four information
separators besides.  A zero-width space, a byte-order mark or a NUL is *not* blank, so a name
that begins with one of these is another name.

## Main results

* `stripChars_append_blanks`, `stripChars_blanks_append` — blanks around a text do not matter.
-/

namespace ScriptHost.Text

/-- The blank characters. -/
def isBlank (c : Char) : Bool :=
  let n := c.toNat
  (0x09 ≤ n && n ≤ 0x0d) || (0x1c ≤ n && n ≤ 0x20) || n == 0x85 || n == 0xa0 || n == 0x1680 ||
    (0x2000 ≤ n && n ≤ 0x200a) || n == 0x2028 || n == 0x2029 || n == 0x202f || n == 0x205f ||
    n == 0x3000

/-- A text without its leading blanks. -/
def stripLeft (cs : List Char) : List Char := cs.dropWhile isBlank

/-- A text without its trailing blanks. -/
def stripRight : List Char → List Char
  | [] => []
  | c :: cs =>
    match stripRight cs with
    | [] => if isBlank c then [] else [c]
    | d :: ds => c :: d :: ds

/-- A text without the blanks at either end. -/
def stripChars (cs : List Char) : List Char := stripRight (stripLeft cs)

/-- A string without the blanks at either end. -/
def strip (s : String) : String := String.ofList (stripChars s.toList)

theorem stripRight_blanks {ws : List Char} (h : ∀ c ∈ ws, isBlank c = true) :
    stripRight ws = [] := by
  induction ws with
  | nil => rfl
  | cons c cs ih =>
    have hc : isBlank c = true := h c (by simp)
    rw [stripRight, ih fun d hd => h d (by simp [hd])]
    simp [hc]

theorem stripRight_append_blanks (cs : List Char) {ws : List Char}
    (h : ∀ c ∈ ws, isBlank c = true) : stripRight (cs ++ ws) = stripRight cs := by
  induction cs with
  | nil => simpa [stripRight] using stripRight_blanks h
  | cons c cs ih => simp only [List.cons_append, stripRight, ih]

theorem stripLeft_blanks_append {ws : List Char} (cs : List Char)
    (h : ∀ c ∈ ws, isBlank c = true) : stripLeft (ws ++ cs) = stripLeft cs := by
  induction ws with
  | nil => rfl
  | cons w ws ih =>
    have hw : isBlank w = true := h w (by simp)
    simp only [stripLeft, List.cons_append, List.dropWhile_cons, hw, if_true]
    exact ih fun c hc => h c (by simp [hc])

theorem stripChars_blanks_append {ws : List Char} (cs : List Char)
    (h : ∀ c ∈ ws, isBlank c = true) : stripChars (ws ++ cs) = stripChars cs := by
  rw [stripChars, stripLeft_blanks_append cs h, stripChars]

theorem stripLeft_append_blanks (cs : List Char) {ws : List Char}
    (h : ∀ c ∈ ws, isBlank c = true) :
    stripRight (stripLeft (cs ++ ws)) = stripRight (stripLeft cs) := by
  induction cs with
  | nil =>
    have hws : stripLeft ws = [] := by simpa [stripLeft] using stripLeft_blanks_append [] h
    rw [List.nil_append, hws]
    rfl
  | cons c cs ih =>
    by_cases hc : isBlank c = true
    · simpa [stripLeft, hc] using ih
    · simp only [stripLeft, List.cons_append, List.dropWhile_cons, hc]
      exact stripRight_append_blanks (c :: cs) h

theorem stripChars_append_blanks (cs : List Char) {ws : List Char}
    (h : ∀ c ∈ ws, isBlank c = true) : stripChars (cs ++ ws) = stripChars cs :=
  stripLeft_append_blanks cs h

/-- What is taken off the end of a text is blank. -/
theorem exists_stripRight_append (cs : List Char) :
    ∃ ws, cs = stripRight cs ++ ws ∧ ∀ c ∈ ws, isBlank c = true := by
  induction cs with
  | nil => exact ⟨[], rfl, by simp⟩
  | cons c cs ih =>
    obtain ⟨ws, hcs, hws⟩ := ih
    rw [stripRight]
    split
    · next hnil =>
      rw [hnil, List.nil_append] at hcs
      split
      · next hc => exact ⟨c :: ws, by rw [hcs]; rfl, by simpa [hc] using hws⟩
      · exact ⟨ws, by rw [hcs]; rfl, hws⟩
    · next d ds hsome =>
      rw [hsome] at hcs
      exact ⟨ws, by rw [hcs]; rfl, hws⟩

theorem mem_of_mem_stripChars {cs : List Char} {c : Char} (h : c ∈ stripChars cs) : c ∈ cs := by
  obtain ⟨ws, hws, -⟩ := exists_stripRight_append (stripLeft cs)
  have hleft : c ∈ stripLeft cs := hws ▸ List.mem_append_left ws h
  exact (List.dropWhile_sublist isBlank).mem hleft

end ScriptHost.Text
