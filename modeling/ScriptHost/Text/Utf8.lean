/-!
# Reading bytes as UTF-8

Strict UTF-8: no overlong forms, no surrogates, nothing above the last code point.  A sequence
that cannot be read is described as precisely as a person needs to find it: its first byte, the
position, how many bytes belong to the broken sequence, and what is wrong with it.  `encode`
is the inverse for characters, so a text can be written and read back.
-/

namespace ScriptHost.Text

/-- What is wrong with a byte sequence. -/
inductive Utf8Reason where
  /-- The byte cannot begin a character. -/
  | badStart
  /-- A byte that should continue a character does not. -/
  | badContinuation
  /-- The bytes end within a character. -/
  | truncated
  deriving DecidableEq, Repr

/-- Where and why bytes are not UTF-8. -/
structure Utf8Fault where
  /-- The first byte of the sequence. -/
  byte : UInt8
  /-- The position of that byte. -/
  position : Nat
  /-- How many bytes belong to the sequence. -/
  length : Nat
  reason : Utf8Reason
  deriving DecidableEq, Repr

/-- How a lead byte begins a character: the bits it carries, the number of continuation bytes,
and the interval of the first of these. -/
def leadByte? (b : UInt8) : Option (Nat × Nat × Nat × Nat) :=
  let n := b.toNat
  if 0xc2 ≤ n ∧ n ≤ 0xdf then some (n - 0xc0, 1, 0x80, 0xbf)
  else if n = 0xe0 then some (0, 2, 0xa0, 0xbf)
  else if n = 0xed then some (0xd, 2, 0x80, 0x9f)
  else if 0xe1 ≤ n ∧ n ≤ 0xef then some (n - 0xe0, 2, 0x80, 0xbf)
  else if n = 0xf0 then some (0, 3, 0x90, 0xbf)
  else if n = 0xf4 then some (4, 3, 0x80, 0x8f)
  else if 0xf1 ≤ n ∧ n ≤ 0xf3 then some (n - 0xf0, 3, 0x80, 0xbf)
  else none

/-- What a byte does to a reading under way. -/
inductive Utf8State where
  /-- Between characters. -/
  | ready
  /-- Within a character: its first byte, that byte's position, the bytes read so far, the bits
  read so far, the continuation bytes still to come, and the interval of the next one. -/
  | within (lead : UInt8) (start read bits left low high : Nat)

/-- The characters of a byte sequence from a position on. -/
def decodeFrom : Utf8State → Nat → List UInt8 → Except Utf8Fault (List Char)
  | .ready, _, [] => .ok []
  | .within lead start read .., _, [] => .error ⟨lead, start, read, .truncated⟩
  | .ready, position, b :: bs =>
    if b < 0x80 then (Char.ofNat b.toNat :: ·) <$> decodeFrom .ready (position + 1) bs
    else
      match leadByte? b with
      | none => .error ⟨b, position, 1, .badStart⟩
      | some (bits, left, low, high) =>
        decodeFrom (.within b position 1 bits left low high) (position + 1) bs
  | .within lead start read bits left low high, position, b :: bs =>
    if low ≤ b.toNat ∧ b.toNat ≤ high then
      let bits := bits * 0x40 + b.toNat % 0x40
      match left with
      | 0 | 1 => (Char.ofNat bits :: ·) <$> decodeFrom .ready (position + 1) bs
      | left + 1 =>
        decodeFrom (.within lead start (read + 1) bits left 0x80 0xbf) (position + 1) bs
    else .error ⟨lead, start, read, .badContinuation⟩

/-- The text of a byte sequence. -/
def decodeUtf8 (bytes : List UInt8) : Except Utf8Fault String :=
  String.ofList <$> decodeFrom .ready 0 bytes

/-! ## Piece by piece -/

/-- The characters of a piece of a byte sequence, and where the reading is behind it. -/
def decodePiece : Utf8State → Nat → List UInt8 → Except Utf8Fault (List Char × Utf8State)
  | state, _, [] => .ok ([], state)
  | .ready, position, b :: bs =>
    if b < 0x80 then
      (decodePiece .ready (position + 1) bs).map fun r => (Char.ofNat b.toNat :: r.1, r.2)
    else
      match leadByte? b with
      | none => .error ⟨b, position, 1, .badStart⟩
      | some (bits, left, low, high) =>
        decodePiece (.within b position 1 bits left low high) (position + 1) bs
  | .within lead start read bits left low high, position, b :: bs =>
    if low ≤ b.toNat ∧ b.toNat ≤ high then
      let bits := bits * 0x40 + b.toNat % 0x40
      match left with
      | 0 | 1 => (decodePiece .ready (position + 1) bs).map fun r => (Char.ofNat bits :: r.1, r.2)
      | left + 1 =>
        decodePiece (.within lead start (read + 1) bits left 0x80 0xbf) (position + 1) bs
    else .error ⟨lead, start, read, .badContinuation⟩

/-- How many bytes of a file are read at once. -/
def pieceLength : Nat := 8192

/-- The state in which the next piece is read, and the position of its first byte: positions are
counted anew in every piece, from the first byte of a character that was begun before. -/
def Utf8State.resumed : Utf8State → Utf8State × Nat
  | .ready => (.ready, 0)
  | .within lead _ read bits left low high => (.within lead 0 read bits left low high, read)

/-- The characters of a file that is read piece by piece, up to the piece in which something is
wrong, and what it is. -/
def decodePieces : Nat → Utf8State → List UInt8 → List Char × Option Utf8Fault
  | 0, _, _ => ([], none)
  | fuel + 1, state, bytes =>
    let (state, position) := state.resumed
    if bytes.isEmpty then
      match decodeFrom state position [] with
      | .ok _ => ([], none)
      | .error fault => ([], some fault)
    else
      match decodePiece state position (bytes.take pieceLength) with
      | .error fault => ([], some fault)
      | .ok (cs, state) =>
        let (more, fault?) := decodePieces fuel state (bytes.drop pieceLength)
        (cs ++ more, fault?)

/-- The characters of a file, as far as it can be read, and what is wrong behind them. -/
def readPieces (bytes : List UInt8) : List Char × Option Utf8Fault :=
  decodePieces (bytes.length + 2) .ready bytes

/-- The bytes of one character. -/
def encodeChar (c : Char) : List UInt8 :=
  let n := c.toNat
  let tail (k : Nat) : UInt8 := UInt8.ofNat (0x80 + n / k % 0x40)
  if n < 0x80 then [UInt8.ofNat n]
  else if n < 0x800 then [UInt8.ofNat (0xc0 + n / 0x40), tail 1]
  else if n < 0x10000 then [UInt8.ofNat (0xe0 + n / 0x1000), tail 0x40, tail 1]
  else [UInt8.ofNat (0xf0 + n / 0x40000), tail 0x1000, tail 0x40, tail 1]

/-- The bytes of a string. -/
def encodeUtf8 (s : String) : List UInt8 := s.toList.flatMap encodeChar

end ScriptHost.Text
