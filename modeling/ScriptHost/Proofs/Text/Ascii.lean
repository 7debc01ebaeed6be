import ScriptHost.Text.Utf8

/-!
# Files of ASCII

A text of ASCII has one byte for every character.  Reading such bytes gives the characters, and
it does so piece by piece as well, because no character lies across the end of a piece.

## Main results

* `encodeUtf8_of_ascii` — the bytes of a text of ASCII.
* `readPieces_encodeUtf8` — a file that a text of ASCII was written to is read as that text.
-/

namespace ScriptHost.Text

/-- Whether a character is one of ASCII. -/
def IsAscii (c : Char) : Prop := c.toNat < 0x80

instance (c : Char) : Decidable (IsAscii c) := inferInstanceAs (Decidable (_ < _))

/-- The byte of a character of ASCII. -/
def byteOf (c : Char) : UInt8 := UInt8.ofNat c.toNat

theorem toNat_byteOf {c : Char} (h : IsAscii c) : (byteOf c).toNat = c.toNat := by
  have hlt : c.toNat < 256 := Nat.lt_trans h (by decide)
  rw [byteOf, UInt8.toNat_ofNat']
  exact Nat.mod_eq_of_lt hlt

theorem byteOf_lt {c : Char} (h : IsAscii c) : byteOf c < 0x80 := by
  rw [UInt8.lt_iff_toNat_lt, toNat_byteOf h]
  exact h

theorem ofNat_byteOf {c : Char} (h : IsAscii c) : Char.ofNat (byteOf c).toNat = c := by
  rw [toNat_byteOf h]
  exact Char.ofNat_toNat c

/-- A text of ASCII is written byte by byte. -/
theorem encodeUtf8_of_ascii {s : String} (h : ∀ c ∈ s.toList, IsAscii c) :
    encodeUtf8 s = s.toList.map byteOf := by
  have hall : ∀ cs : List Char, (∀ c ∈ cs, IsAscii c) → cs.flatMap encodeChar = cs.map byteOf := by
    intro cs hcs
    induction cs with
    | nil => rfl
    | cons c cs ih =>
        have hc : c.toNat < 0x80 := hcs c List.mem_cons_self
        have hbyte : encodeChar c = [byteOf c] := by
          unfold encodeChar
          dsimp only
          rw [if_pos hc]
          rfl
        rw [List.flatMap_cons, hbyte, ih fun d hd => hcs d (List.mem_cons_of_mem _ hd)]
        rfl
  exact hall s.toList h

/-- A piece of ASCII is read to its end, between two characters. -/
theorem decodePiece_of_ascii {cs : List Char} (h : ∀ c ∈ cs, IsAscii c) (position : Nat) :
    decodePiece .ready position (cs.map byteOf) = .ok (cs, .ready) := by
  induction cs generalizing position with
  | nil => rfl
  | cons c cs ih =>
      have hc : IsAscii c := h c List.mem_cons_self
      rw [List.map_cons, decodePiece, if_pos (byteOf_lt hc),
        ih fun d hd => h d (List.mem_cons_of_mem _ hd)]
      simp only [Except.map, ofNat_byteOf hc]

/-- A file of ASCII is read piece by piece, whole and without a fault, if there is fuel for its
pieces and for its end. -/
theorem decodePieces_of_ascii {fuel : Nat} {cs : List Char} (h : ∀ c ∈ cs, IsAscii c)
    (hfuel : cs.length < fuel) : decodePieces fuel .ready (cs.map byteOf) = (cs, none) := by
  induction fuel generalizing cs with
  | zero => exact absurd hfuel (Nat.not_lt_zero _)
  | succ fuel ih =>
      rw [decodePieces]
      dsimp only [Utf8State.resumed]
      split
      · next hempty =>
        have hnil : cs = [] := by simpa using hempty
        rw [hnil]
        rfl
      · next hsome =>
        have hpos : 0 < cs.length := by
          cases cs with
          | nil => exact absurd rfl hsome
          | cons c cs => exact Nat.succ_pos _
        have hfirst : ∀ c ∈ cs.take pieceLength, IsAscii c :=
          fun c hc => h c (List.mem_of_mem_take hc)
        have hrest : ∀ c ∈ cs.drop pieceLength, IsAscii c :=
          fun c hc => h c (List.mem_of_mem_drop hc)
        -- every piece takes at least one byte, so what is left needs less fuel
        have hless : (cs.drop pieceLength).length < fuel := by
          rw [List.length_drop, pieceLength]
          omega
        rw [← List.map_take, decodePiece_of_ascii hfirst, ← List.map_drop]
        dsimp only
        rw [ih hrest hless]
        dsimp only
        rw [List.take_append_drop]

/-- A file that a text of ASCII was written to is read as that text. -/
theorem readPieces_encodeUtf8 {s : String} (h : ∀ c ∈ s.toList, IsAscii c) :
    readPieces (encodeUtf8 s) = (s.toList, none) := by
  rw [encodeUtf8_of_ascii h, readPieces]
  apply decodePieces_of_ascii h
  rw [List.length_map]
  omega

end ScriptHost.Text
