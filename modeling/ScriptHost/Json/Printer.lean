import ScriptHost.Json.Value
import ScriptHost.Number.Numeral
import ScriptHost.Text.Literal

/-!
# JSON as one line of ASCII

The text of a JSON value on one line of printable ASCII: a comma and a colon are followed by a
space, and every character outside printable ASCII is written by its UTF-16 units, so a
character beyond the first plane takes two of them.  A code without a character is written as the
one unit that it is.

An integer whose digits are more than those of a numeral may be has no text.

## Main results

* `escape_printable` — every character that a text is written with is printable ASCII.
-/

namespace ScriptHost.Json

open ScriptHost.Text (hexDigit hexDigits)

/-- One UTF-16 unit by its code. -/
def unit (n : Nat) : List Char := '\\' :: 'u' :: hexDigits 4 n

/-- One character inside a written text. -/
def escapeChar (c : Char) : List Char :=
  if c = '"' then ['\\', '"']
  else if c = '\\' then ['\\', '\\']
  else if c = '\n' then ['\\', 'n']
  else if c = '\r' then ['\\', 'r']
  else if c = '\t' then ['\\', 't']
  else if c = '\x08' then ['\\', 'b']
  else if c = '\x0c' then ['\\', 'f']
  else if 0x20 ≤ c.toNat ∧ c.toNat ≤ 0x7e then [c]
  else if c.toNat < 0x10000 then unit c.toNat
  else if let some code := Text.surrogate? c then unit code
  else
    unit (0xd800 + (c.toNat - 0x10000) / 0x400) ++ unit (0xdc00 + (c.toNat - 0x10000) % 0x400)

/-- A text in double quotes. -/
def quoted (s : String) : List Char := '"' :: s.toList.flatMap escapeChar ++ ['"']

/-- The text of a double-precision number. -/
def realChars : Number.Binary64 → List Char
  | .notANumber => ['N', 'a', 'N']
  | .infinite negative => (if negative then ['-'] else []) ++ "Infinity".toList
  | value => value.text.toList

mutual

/-- The text of a value. -/
def chars : Json → List Char
  | null => ['n', 'u', 'l', 'l']
  | bool true => ['t', 'r', 'u', 'e']
  | bool false => ['f', 'a', 'l', 's', 'e']
  | int i => (Number.intText i).toList
  | real r => realChars r
  | text s => quoted s
  | arr items => '[' :: itemChars items ++ [']']
  | obj members => '\x7b' :: memberChars members ++ ['\x7d']

/-- The texts of the items of an array. -/
def itemChars : List Json → List Char
  | [] => []
  | [j] => chars j
  | j :: js => chars j ++ ',' :: ' ' :: itemChars js

/-- The texts of the members of an object. -/
def memberChars : List (String × Json) → List Char
  | [] => []
  | [(name, j)] => quoted name ++ ':' :: ' ' :: chars j
  | (name, j) :: ms => quoted name ++ ':' :: ' ' :: (chars j ++ ',' :: ' ' :: memberChars ms)

end

/-- A value as one line of text. -/
def print (j : Json) : String := String.ofList (chars j)

/-- Whether an integer has few enough digits to be written. -/
def isShort : Json → Bool
  | int i => Number.isWritable i
  | _ => true

/-- A value as one line of text, if all its integers can be written. -/
def written (j : Json) : Except Fault String :=
  if j.every isShort then .ok j.print else .error Number.unwritableFault

/-! ## Printable ASCII -/

/-- A character of printable ASCII. -/
def IsPrintable (c : Char) : Prop := 0x20 ≤ c.toNat ∧ c.toNat ≤ 0x7e

instance (c : Char) : Decidable (IsPrintable c) := inferInstanceAs (Decidable (_ ∧ _))

theorem hexDigit_printable (n : Nat) : IsPrintable (hexDigit (n % 16)) := by
  have all : ∀ d, d < 16 → IsPrintable (hexDigit d) := by decide
  exact all _ (Nat.mod_lt _ (by decide))

theorem hexDigits_printable (width n : Nat) : ∀ c ∈ hexDigits width n, IsPrintable c := by
  induction width generalizing n with
  | zero => simp [hexDigits]
  | succ w ih =>
    intro c hc
    rw [hexDigits, List.mem_append, List.mem_singleton] at hc
    rcases hc with hc | rfl
    · exact ih _ c hc
    · exact hexDigit_printable n

theorem unit_printable (n : Nat) : ∀ c ∈ unit n, IsPrintable c := by
  intro c hc
  rw [unit, List.mem_cons, List.mem_cons] at hc
  rcases hc with rfl | rfl | hc
  · exact ⟨by decide, by decide⟩
  · exact ⟨by decide, by decide⟩
  · exact hexDigits_printable 4 n c hc

/-- A text is written in printable ASCII, whatever it holds. -/
theorem escape_printable (d : Char) : ∀ c ∈ escapeChar d, IsPrintable c := by
  have two : ∀ a b : Char, IsPrintable a → IsPrintable b → ∀ c ∈ [a, b], IsPrintable c := by
    intro a b ha hb c hc
    simp only [List.mem_cons, List.not_mem_nil, or_false] at hc
    rcases hc with rfl | rfl <;> assumption
  unfold escapeChar
  repeat' split
  all_goals first
    | exact two _ _ ⟨by decide, by decide⟩ ⟨by decide, by decide⟩
    | skip
  · next h =>
    intro c hc
    rw [List.mem_singleton] at hc
    exact hc ▸ h
  · exact unit_printable _
  · exact unit_printable _
  · intro c hc
    rcases List.mem_append.mp hc with hc | hc <;> exact unit_printable _ c hc

end ScriptHost.Json
