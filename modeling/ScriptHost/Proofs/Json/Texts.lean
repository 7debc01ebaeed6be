import ScriptHost.Json.Parser
import ScriptHost.Json.Printer

/-!
# Texts that are read back

A text between quotes is read back character by character.  Most characters are told by
themselves, or by the escape they are written with.  Two units in a row are one character if the
first is the first half of a pair and the second the second half of one; so a code without a
character is read back only if what follows does not complete it.  This is the one way in which a
text may be lost: two codes that stand by themselves, and would make a pair, are read as the
character of the pair.

## Main results

* `unit?_hexDigits` — a unit is read back.
* `escaped`, `Escaped.textChar?` — how a character is written, and that it is read back unless what
  follows completes it.
* `textBody?_escaped` — a text in which no pair is split is read back.
-/

namespace ScriptHost

namespace Json

open Text (hexDigit hexDigits isSurrogate surrogate?)

/-! ## Units -/

theorem digitIn?_hexDigit (n : Nat) : Number.digitIn? 16 (hexDigit (n % 16)) = some (n % 16) := by
  have hall : ∀ d, d < 16 → Number.digitIn? 16 (hexDigit d) = some d := by decide
  exact hall _ (Nat.mod_lt _ (by decide))

/-- A unit is read back from its four digits. -/
theorem unit?_hexDigits {n : Nat} (h : n < 0x10000) (rest : List Char) :
    unit? (hexDigits 4 n ++ rest) = some (n, rest) := by
  have hvalue : 16 * (16 * (16 * (n / 16 / 16 / 16 % 16) + n / 16 / 16 % 16) + n / 16 % 16) +
      n % 16 = n := by omega
  simp only [hexDigits, List.nil_append, List.cons_append, unit?, Number.natIn?, List.isEmpty_cons,
    List.foldl_cons, List.foldl_nil, digitIn?_hexDigit, Option.bind_some, Option.map_some,
    Nat.mul_zero, Nat.zero_add, hvalue]
  rfl

/-! ## Halves of pairs -/

/-- Whether a character stands for the first half of a pair. -/
def isHigh (c : Char) : Bool := (surrogate? c).any fun code => code ≤ 0xdbff

/-- Whether a character stands for the second half of a pair. -/
def isLow (c : Char) : Bool := (surrogate? c).any fun code => 0xdc00 ≤ code

/-- Whether no first half of a pair stands directly in front of a second half. -/
def isWhole : List Char → Bool
  | c :: d :: cs => !(isHigh c && isLow d) && isWhole (d :: cs)
  | _ => true

theorem surrogate?_eq_some {c : Char} {code : Nat} (h : surrogate? c = some code) :
    0xd800 ≤ code ∧ code ≤ 0xdfff ∧ c.toNat = 0x100000 + code := by
  unfold surrogate? at h
  split at h
  · have hcode := Option.some.inj h
    omega
  · cases h

theorem ofNat_toNat_eq {c : Char} {n : Nat} (h : c.toNat = n) : Char.ofNat n = c := by
  rw [← h, Char.ofNat_toNat]

/-- The code of a stand-in leads back to it. -/
theorem loneUnit_surrogate {c : Char} {code : Nat} (h : surrogate? c = some code) :
    loneUnit code = c := by
  obtain ⟨hlow, hhigh, hc⟩ := surrogate?_eq_some h
  have hcode : isSurrogate code = true := by simp [isSurrogate, hlow, hhigh]
  rw [loneUnit, Text.charOf, if_pos hcode, Text.standIn, ofNat_toNat_eq hc]

theorem toNat_range (c : Char) : c.toNat < 0xd800 ∨ 0xdfff < c.toNat ∧ c.toNat < 0x110000 :=
  c.valid

/-- No character has one of the codes without a character. -/
theorem isSurrogate_toNat (c : Char) : isSurrogate c.toNat = false := by
  have hrange := toNat_range c
  rw [isSurrogate, Bool.and_eq_false_iff, decide_eq_false_iff_not, decide_eq_false_iff_not]
  omega

theorem loneUnit_toNat (c : Char) : loneUnit c.toNat = c := by
  rw [loneUnit, Text.charOf, isSurrogate_toNat, if_neg (by decide), Char.ofNat_toNat]

/-! ## Characters -/

/-- Whether no second half of a pair is written at the front of a text, nor a unit that cannot be
read. -/
def NoLowUnit (cs : List Char) : Prop :=
  ∀ ds, cs = '\\' :: 'u' :: ds →
    ∃ n rest, unit? ds = some (n, rest) ∧ ¬ (0xdc00 ≤ n ∧ n ≤ 0xdfff)

theorem noLowUnit_quote (rest : List Char) : NoLowUnit ('"' :: rest) :=
  fun ds h => by cases h

theorem noLowUnit_unit {n : Nat} (h : n < 0x10000) (hn : ¬ (0xdc00 ≤ n ∧ n ≤ 0xdfff))
    (rest : List Char) : NoLowUnit (unit n ++ rest) := by
  intro ds hds
  have htail : hexDigits 4 n ++ rest = ds := by
    simpa only [unit, List.cons_append, List.cons.injEq, true_and] using hds
  exact ⟨n, rest, htail ▸ unit?_hexDigits h rest, hn⟩

/-- A unit that is no half of a pair, or a second half, is read by itself. -/
theorem textChar?_unit {n : Nat} (h : n < 0x10000) (hn : ¬ (0xd800 ≤ n ∧ n ≤ 0xdbff))
    (rest : List Char) : textChar? (unit n ++ rest) = some (loneUnit n, rest) := by
  simp only [unit, List.cons_append, textChar?, unit?_hexDigits h, Option.bind_eq_bind,
    Option.bind_some, if_neg hn]
  rfl

/-- So is a first half that nothing completes. -/
theorem textChar?_high {n : Nat} (h : 0xd800 ≤ n ∧ n ≤ 0xdbff) {rest : List Char}
    (hrest : NoLowUnit rest) : textChar? (unit n ++ rest) = some (loneUnit n, rest) := by
  simp only [unit, List.cons_append, textChar?, unit?_hexDigits (show n < 0x10000 by omega),
    Option.bind_eq_bind, Option.bind_some, if_pos h]
  split
  · next ds =>
    obtain ⟨low, behind, hlow, hnot⟩ := hrest ds rfl
    simp only [hlow, if_neg hnot]
    rfl
  · rfl

/-- The two halves of a pair are read as one character. -/
theorem textChar?_pair {high low : Nat} (hhigh : 0xd800 ≤ high ∧ high ≤ 0xdbff)
    (hlow : 0xdc00 ≤ low ∧ low ≤ 0xdfff) (rest : List Char) :
    textChar? (unit high ++ (unit low ++ rest)) =
      some (Char.ofNat (0x10000 + (high - 0xd800) * 0x400 + (low - 0xdc00)), rest) := by
  simp only [unit, List.cons_append, textChar?, unit?_hexDigits (show high < 0x10000 by omega),
    unit?_hexDigits (show low < 0x10000 by omega), Option.bind_eq_bind, Option.bind_some,
    if_pos hhigh, if_pos hlow]
  rfl

/-- A character that needs no escape is read by itself. -/
theorem textChar?_plain {c : Char} (hc : c ≠ '\\') (h : 0x20 ≤ c.toNat) (rest : List Char) :
    textChar? (c :: rest) = some (c, rest) := by
  unfold textChar?
  split
  · next heq => cases heq
  · next heq => exact absurd (List.cons.inj heq).1 hc
  · next heq => exact absurd (List.cons.inj heq).1 hc
  · next heq =>
    obtain ⟨rfl, rfl⟩ := List.cons.inj heq
    rw [if_neg]
    rintro (hc' | hlt)
    · exact hc hc'
    · omega

/-- The ways in which a character may be written. -/
inductive Escaped (c : Char) : List Char → Prop
  /-- By a letter behind a backslash. -/
  | short (e : Char) (he : e ≠ 'u') (hc : shortEscape? e = some c) : Escaped c ['\\', e]
  /-- By itself. -/
  | plain (hquote : c ≠ '"') (hslash : c ≠ '\\') (hc : 0x20 ≤ c.toNat) : Escaped c [c]
  /-- By one unit, which is half of a pair only if the character stands for one. -/
  | unit (n : Nat) (hn : n < 0x10000) (hc : loneUnit n = c)
      (hhigh : 0xd800 ≤ n ∧ n ≤ 0xdbff → isHigh c = true)
      (hlow : 0xdc00 ≤ n ∧ n ≤ 0xdfff → isLow c = true) : Escaped c (Json.unit n)
  /-- By the two units of a pair. -/
  | pair (high low : Nat) (hhigh : 0xd800 ≤ high ∧ high ≤ 0xdbff)
      (hlow : 0xdc00 ≤ low ∧ low ≤ 0xdfff)
      (hc : Char.ofNat (0x10000 + (high - 0xd800) * 0x400 + (low - 0xdc00)) = c) :
      Escaped c (Json.unit high ++ Json.unit low)

/-- Every character is written in one of these ways. -/
theorem escaped (c : Char) : Escaped c (escapeChar c) := by
  have hrange := toNat_range c
  unfold escapeChar
  split
  · next h => exact .short '"' (by decide) (by rw [h]; rfl)
  split
  · next h => exact .short '\\' (by decide) (by rw [h]; rfl)
  split
  · next h => exact .short 'n' (by decide) (by rw [h]; rfl)
  split
  · next h => exact .short 'r' (by decide) (by rw [h]; rfl)
  split
  · next h => exact .short 't' (by decide) (by rw [h]; rfl)
  split
  · next h => exact .short 'b' (by decide) (by rw [h]; rfl)
  split
  · next h => exact .short 'f' (by decide) (by rw [h]; rfl)
  next hquote hslash _ _ _ _ _ =>
  split
  · next h => exact .plain hquote hslash h.1
  split
  · next h =>
    exact .unit c.toNat h (loneUnit_toNat c) (by omega) (by omega)
  split
  · next code h =>
    obtain ⟨hlow, hhigh, -⟩ := surrogate?_eq_some h
    exact .unit code (by omega) (loneUnit_surrogate h) (fun hn => by simp [isHigh, h, hn.2])
      (fun hn => by simp [isLow, h, hn.1])
  · exact .pair _ _ (by omega) (by omega) (ofNat_toNat_eq (by omega))

namespace Escaped

variable {c : Char} {cs : List Char}

/-- A character is read back, unless it is the first half of a pair that is completed. -/
theorem textChar? (hcs : Escaped c cs) {rest : List Char} (h : isHigh c = true → NoLowUnit rest) :
    Json.textChar? (cs ++ rest) = some (c, rest) := by
  cases hcs with
  | short e he hc =>
      have hread : Json.textChar? ('\\' :: e :: rest) =
          (shortEscape? e).map fun d => (d, rest) := by
        rw [Json.textChar?]
        exact he
      rw [List.cons_append, List.singleton_append, hread, hc]
      rfl
  | plain _ hslash hc => exact textChar?_plain hslash hc rest
  | unit n hn hc hhigh _ =>
      by_cases hhalf : 0xd800 ≤ n ∧ n ≤ 0xdbff
      · rw [textChar?_high hhalf (h (hhigh hhalf)), hc]
      · rw [textChar?_unit hn hhalf, hc]
  | pair high low hhigh hlow hc =>
      rw [List.append_assoc, textChar?_pair hhigh hlow, hc]

theorem length_pos (hcs : Escaped c cs) : 0 < cs.length := by
  cases hcs <;> exact Nat.succ_pos _

/-- What is written begins with no quote. -/
theorem head? (hcs : Escaped c cs) (rest : List Char) : (cs ++ rest).head? ≠ some '"' := by
  cases hcs with
  | short e _ _ => simp
  | plain hquote _ _ => simpa using hquote
  | unit n _ _ _ _ => simp [Json.unit]
  | pair high low _ _ _ => simp [Json.unit]

/-- Only a second half of a pair is written as one. -/
theorem noLowUnit (hcs : Escaped c cs) (h : isLow c = false) (rest : List Char) :
    NoLowUnit (cs ++ rest) := by
  cases hcs with
  | short e he _ =>
      intro ds hds
      simp only [List.cons_append, List.cons.injEq, true_and] at hds
      exact absurd hds.1 he
  | plain _ hslash _ =>
      intro ds hds
      exact absurd (List.cons.inj hds).1 hslash
  | unit n hn _ _ hlow =>
      refine noLowUnit_unit hn (fun hhalf => ?_) rest
      rw [hlow hhalf] at h
      cases h
  | pair high low hhigh _ _ =>
      rw [List.append_assoc]
      exact noLowUnit_unit (by omega) (by omega) _

end Escaped

/-! ## Texts -/

/-- A text is no shorter written than it is. -/
theorem length_le_escaped (cs : List Char) : cs.length ≤ (cs.flatMap escapeChar).length := by
  induction cs with
  | nil => exact Nat.le_refl 0
  | cons c cs ih =>
      have hc := (escaped c).length_pos
      rw [List.flatMap_cons, List.length_cons, List.length_append]
      omega

theorem textBody?_succ {cs : List Char} (h : cs.head? ≠ some '"') (fuel : Nat) :
    textBody? (fuel + 1) cs =
      (textChar? cs).bind fun p => (textBody? fuel p.2).map fun q => (p.1 :: q.1, q.2) := by
  rw [textBody?]
  · simp only [Option.bind_eq_bind, Option.pure_def, Option.map_eq_bind]
    rfl
  · exact fun _ heq => h (heq ▸ rfl)

/-- A text in which no pair is split is read back. -/
theorem textBody?_escaped {cs : List Char} (h : isWhole cs = true) {fuel : Nat}
    (hfuel : cs.length < fuel) (rest : List Char) :
    textBody? fuel (cs.flatMap escapeChar ++ '"' :: rest) = some (cs, rest) := by
  induction cs generalizing fuel with
  | nil =>
      obtain ⟨fuel, rfl⟩ := Nat.exists_eq_add_one_of_ne_zero (Nat.ne_zero_of_lt hfuel)
      rfl
  | cons c cs ih =>
      obtain ⟨fuel, rfl⟩ := Nat.exists_eq_add_one_of_ne_zero (Nat.ne_zero_of_lt hfuel)
      have hlength : cs.length < fuel := Nat.lt_of_succ_lt_succ hfuel
      have htail : isWhole cs = true := by
        cases cs with
        | nil => rfl
        | cons d ds => exact (Bool.and_eq_true _ _ ▸ h).2
      have hnext : isHigh c = true → NoLowUnit (cs.flatMap escapeChar ++ '"' :: rest) := by
        intro hhigh
        cases cs with
        | nil => exact noLowUnit_quote rest
        | cons d ds =>
            have hlow : isLow d = false := by
              simp only [isWhole, hhigh, Bool.true_and, Bool.and_eq_true, Bool.not_eq_true'] at h
              exact h.1
            rw [List.flatMap_cons, List.append_assoc]
            exact (escaped d).noLowUnit hlow _
      rw [List.flatMap_cons, List.append_assoc, textBody?_succ ((escaped c).head? _),
        (escaped c).textChar? hnext, Option.bind_some, ih htail hlength]
      rfl

/-- The text at the front of others, where what follows its opening quote is long enough to be its
own fuel. -/
theorem textBody?_quoted {s : String} (h : isWhole s.toList = true) (rest : List Char) :
    textBody? ((s.toList.flatMap escapeChar ++ '"' :: rest).length + 1)
      (s.toList.flatMap escapeChar ++ '"' :: rest) = some (s.toList, rest) := by
  have hlength := length_le_escaped s.toList
  refine textBody?_escaped h ?_ rest
  rw [List.length_append]
  omega

end Json

end ScriptHost
