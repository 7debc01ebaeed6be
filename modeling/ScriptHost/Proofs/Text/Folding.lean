import ScriptHost.Proofs.Text.Lower
import ScriptHost.Text.Blank

/-!
# Case folding of single characters

Folding never makes a character vanish, and what it makes of a character is the character itself or
lies behind the capitals of ASCII.  So the signs and the digits of ASCII in a folded text stood
there before, and a text that is not empty has a folding that is not empty.  The capitals of ASCII
and their small letters fold alike.

## Main results

* `mem_foldChar` — what a folding is made of.
* `foldChars_eq_nil_iff` — only the empty text has an empty folding.
* `foldChar_toLower` — a letter of ASCII folds as its small letter does.
-/

namespace ScriptHost.Text

/-! ## The tables -/

/-- Whether a run leads to characters behind the capitals of ASCII. -/
def CaseRun.leadsUp (run : CaseRun) : Bool :=
  let last := run.image + (run.last - run.first)
  0x61 ≤ run.image && (last < 0xd800 || (0xdfff < run.image && last < 0x110000))

/-- Whether a long folding is made of characters behind the capitals of ASCII. -/
def leadsUp (codes : List Nat) : Bool :=
  !codes.isEmpty && codes.all fun code => 0x61 ≤ code && code < 0xd800

theorem foldRuns_leadUp : foldRuns.all CaseRun.leadsUp = true := by decide

theorem longFolds_leadUp : (longFolds.all fun entry => leadsUp entry.2) = true := by decide

theorem lookupRun_of_leadsUp {runs : List CaseRun} (h : runs.all CaseRun.leadsUp = true)
    {code image : Nat} (hlook : lookupRun runs code = some image) :
    0x61 ≤ (Char.ofNat image).toNat := by
  induction runs with
  | nil => cases hlook
  | cons run runs ih =>
      rw [List.all_cons, Bool.and_eq_true] at h
      rw [lookupRun] at hlook
      split at hlook
      · next found happly =>
        cases hlook
        unfold CaseRun.apply? at happly
        split at happly
        · next hcovers =>
          have hrun := h.1
          simp only [CaseRun.leadsUp, Bool.or_eq_true, Bool.and_eq_true, decide_eq_true_eq] at hrun
          cases happly
          rw [toNat_ofNat]
          · omega
          · rcases hrun.2 with hlow | hhigh
            · exact .inl (by omega)
            · exact .inr ⟨by omega, by omega⟩
        · cases happly
      · exact ih h.2 hlook

theorem leadsUp_of_lookup {code : Nat} {codes : List Nat}
    (h : longFolds.lookup code = some codes) : leadsUp codes = true := by
  obtain ⟨before, after, heq, -⟩ := List.lookup_eq_some_iff.mp h
  have hmem : (code, codes) ∈ longFolds := by
    rw [heq]
    exact List.mem_append_right _ List.mem_cons_self
  exact List.all_eq_true.mp longFolds_leadUp _ hmem

/-! ## Characters -/

/-- What a folding is made of: the character itself, or characters behind the capitals of ASCII. -/
theorem mem_foldChar {c d : Char} (h : d ∈ foldChar c) : d = c ∨ 0x61 ≤ d.toNat := by
  unfold foldChar at h
  split at h
  · next hascii =>
    have hd := List.mem_singleton.mp h
    unfold lowerAscii at hd
    split at hd
    · have hvalid : (c.toNat + 0x20).isValidChar := .inl (by omega)
      rw [hd, toNat_ofNat hvalid]
      omega
    · rw [Char.ofNat_toNat] at hd
      exact .inl hd
  · split at h
    · next codes hlook =>
      obtain ⟨code, hcode, rfl⟩ := List.mem_map.mp h
      have hup := leadsUp_of_lookup hlook
      rw [leadsUp, Bool.and_eq_true] at hup
      have hrange := List.all_eq_true.mp hup.2 code hcode
      rw [Bool.and_eq_true, decide_eq_true_eq, decide_eq_true_eq] at hrange
      rw [toNat_ofNat (.inl hrange.2)]
      exact .inr hrange.1
    · rw [List.mem_singleton.mp h]
      cases hlook : lookupRun foldRuns c.toNat with
      | none =>
          rw [Option.getD_none, Char.ofNat_toNat]
          exact .inl rfl
      | some image => exact .inr (lookupRun_of_leadsUp foldRuns_leadUp hlook)

theorem foldChar_ne_nil (c : Char) : foldChar c ≠ [] := by
  unfold foldChar
  split
  · exact List.cons_ne_nil _ _
  · split
    · next codes hlook =>
      have hup := leadsUp_of_lookup hlook
      rw [leadsUp, Bool.and_eq_true] at hup
      intro hnil
      rw [List.map_eq_nil_iff.mp hnil] at hup
      exact absurd hup.1 (by decide)
    · exact List.cons_ne_nil _ _

/-- Only the empty text has an empty folding. -/
theorem foldChars_eq_nil_iff {cs : List Char} : foldChars cs = [] ↔ cs = [] := by
  rw [foldChars, List.flatMap_eq_nil_iff]
  constructor
  · intro h
    cases cs with
    | nil => rfl
    | cons c cs => exact absurd (h c List.mem_cons_self) (foldChar_ne_nil c)
  · rintro rfl
    exact nofun

/-! ## Letters of ASCII -/

theorem toNat_toLower (c : Char) : c.toLower.toNat = lowerAscii c.toNat := by
  unfold Char.toLower lowerAscii
  have hcapital : (c.val ≥ 'A'.val ∧ c.val ≤ 'Z'.val) ↔ 0x41 ≤ c.toNat ∧ c.toNat ≤ 0x5a :=
    Iff.rfl
  by_cases h : c.val ≥ 'A'.val ∧ c.val ≤ 'Z'.val
  · rw [dif_pos h, if_pos (hcapital.mp h)]
    have hbound := (hcapital.mp h).2
    have hsum : (c.val + ('a'.val - 'A'.val)).toNat = (c.toNat + 0x20) % 2 ^ 32 := rfl
    have hsmall : (c.toNat + 0x20) % 2 ^ 32 = c.toNat + 0x20 := Nat.mod_eq_of_lt (by omega)
    exact hsum.trans hsmall
  · rw [dif_neg h, if_neg fun hc => h (hcapital.mpr hc)]

theorem toLower_of_not_capital {c : Char} (h : ¬ (0x41 ≤ c.toNat ∧ c.toNat ≤ 0x5a)) :
    c.toLower = c :=
  dif_neg h

/-- A letter of ASCII folds as its small letter does. -/
theorem foldChar_toLower (c : Char) : foldChar c.toLower = foldChar c := by
  by_cases hcapital : 0x41 ≤ c.toNat ∧ c.toNat ≤ 0x5a
  · have hlower : lowerAscii c.toNat = c.toNat + 0x20 := if_pos hcapital
    have hsmall : c.toLower.toNat = c.toNat + 0x20 := (toNat_toLower c).trans hlower
    have hsame : lowerAscii (c.toNat + 0x20) = c.toNat + 0x20 := if_neg (by omega)
    rw [foldChar_of_lt (by omega : c.toLower.toNat < 0x80),
      foldChar_of_lt (by omega : c.toNat < 0x80), hsmall, hsame, hlower]
  · rw [toLower_of_not_capital hcapital]

theorem isBlank_toLower (c : Char) : isBlank c.toLower = isBlank c := by
  by_cases hcapital : 0x41 ≤ c.toNat ∧ c.toNat ≤ 0x5a
  · have hlower : lowerAscii c.toNat = c.toNat + 0x20 := if_pos hcapital
    have hsmall : c.toLower.toNat = c.toNat + 0x20 := (toNat_toLower c).trans hlower
    rw [Bool.eq_iff_iff]
    simp only [isBlank, Bool.or_eq_true, Bool.and_eq_true, decide_eq_true_eq, beq_iff_eq, hsmall]
    omega
  · rw [toLower_of_not_capital hcapital]

end ScriptHost.Text
