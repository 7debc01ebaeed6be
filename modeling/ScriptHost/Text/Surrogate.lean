/-!
# Codes without a character

The codes from `D800` to `DFFF` name no character, yet a text may be asked to hold one of them:
by an escape in a document, or by a format that writes a character by its code.  Such a code is
kept as a character of the last private plane that stands in for it, so that texts stay texts.
Wherever a text is read strictly, shown as a literal or written out, the stand-in is told from
other characters.

The 2048 private characters from `10D800` to `10DFFF` are given up for this: a text cannot hold one
of them in its own right, and what is said of texts is said of those without them.
-/

namespace ScriptHost.Text

/-- Whether a code is one of those that name no character. -/
def isSurrogate (code : Nat) : Bool := 0xd800 ≤ code && code ≤ 0xdfff

/-- The character that stands in for a code without a character. -/
def standIn (code : Nat) : Char := Char.ofNat (0x100000 + code)

/-- The code that a character stands in for, if it does. -/
def surrogate? (c : Char) : Option Nat :=
  if 0x10d800 ≤ c.toNat ∧ c.toNat ≤ 0x10dfff then some (c.toNat - 0x100000) else none

/-- The character of a code, or what stands in for it. -/
def charOf (code : Nat) : Char := if isSurrogate code then standIn code else Char.ofNat code

/-- Whether a text holds a code without a character. -/
def isBroken (s : String) : Bool := s.toList.any fun c => (surrogate? c).isSome

end ScriptHost.Text
