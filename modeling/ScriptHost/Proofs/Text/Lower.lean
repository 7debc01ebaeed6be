import ScriptHost.Text.Case

/-!
# Lower case of lower case

A character of a text in lower case is no capital of ASCII, and it is not the sign for kelvin, the
only character besides the capitals whose lower case is an ASCII letter.  So a text made of such
characters has a lower case of ASCII only if it is that lower case already.

## Main results

* `isLow_lower` — what characters a text in lower case has.
* `eq_of_lower` — a part of a text in lower case is told from its lower case in ASCII.
-/

namespace ScriptHost.Text

/-- The sign for kelvin, whose lower case is the letter k. -/
def kelvin : Nat := 0x212a

/-- Whether a character is neither a capital of ASCII nor the sign for kelvin. -/
def IsLow (c : Char) : Prop := ¬ (0x41 ≤ c.toNat ∧ c.toNat ≤ 0x5a) ∧ c.toNat ≠ kelvin

theorem toNat_ofNat {code : Nat} (h : code.isValidChar) : (Char.ofNat code).toNat = code := by
  have hchar : Char.ofNat code = Char.ofNatAux code h := dif_pos h
  rw [hchar]
  rfl

/-! ## The table -/

/-- A run leads to characters beyond ASCII other than the sign for kelvin, unless it is the run of
that sign. -/
def CaseRun.leadsOn (run : CaseRun) : Bool :=
  let last := run.image + (run.last - run.first)
  (0x80 ≤ run.image && (last < kelvin || kelvin < run.image) &&
      (last < 0xd800 || (0xdfff < run.image && last < 0x110000))) ||
    (run.first == kelvin && run.last == kelvin)

theorem lowerRuns_leadOn : lowerRuns.all CaseRun.leadsOn = true := by decide

theorem lookupRun_of_leadsOn {runs : List CaseRun} (h : runs.all CaseRun.leadsOn = true)
    {code image : Nat} (hlook : lookupRun runs code = some image) :
    (0x80 ≤ (Char.ofNat image).toNat ∧ (Char.ofNat image).toNat ≠ kelvin) ∨ code = kelvin := by
  induction runs with
  | nil => cases hlook
  | cons run runs ih =>
      rw [List.all_cons, Bool.and_eq_true] at h
      rw [lookupRun] at hlook
      split at hlook
      · next found happly =>
        cases hlook
        unfold CaseRun.apply? at happly
        split at happly
        · next hcovers =>
          have hrun := h.1
          simp only [CaseRun.leadsOn, Bool.or_eq_true, Bool.and_eq_true, decide_eq_true_eq,
            beq_iff_eq] at hrun
          cases happly
          rcases hrun with ⟨⟨hbeyond, hpast⟩, hvalid⟩ | hkelvin
          · left
            rw [toNat_ofNat]
            · omega
            · rcases hvalid with hlow | hhigh
              · exact .inl (by omega)
              · exact .inr ⟨by omega, by omega⟩
          · right
            omega
        · cases happly
      · exact ih h.2 hlook

/-! ## Characters -/

theorem toNat_lowerAscii {c : Char} (h : c.toNat < 0x80) :
    (Char.ofNat (lowerAscii c.toNat)).toNat = lowerAscii c.toNat := by
  apply toNat_ofNat
  left
  unfold lowerAscii
  split <;> omega

theorem isLow_lowerChar (before : List Char) (c : Char) (after : List Char) :
    ∀ d ∈ lowerChar before c after, IsLow d := by
  intro d hd
  unfold lowerChar at hd
  split at hd
  · next hascii =>
    rw [List.mem_singleton.mp hd, IsLow, toNat_lowerAscii hascii]
    unfold lowerAscii kelvin
    split <;> omega
  · next hbeyond =>
    split at hd
    · rcases List.mem_cons.mp hd with rfl | hd
      · exact ⟨by decide, by decide⟩
      · rw [List.mem_singleton.mp hd]
        exact ⟨by decide, by decide⟩
    · split at hd
      · rw [List.mem_singleton.mp hd]
        split
        · exact ⟨by decide, by decide⟩
        · exact ⟨by decide, by decide⟩
      · rw [List.mem_singleton.mp hd]
        cases hlook : lookupRun lowerRuns c.toNat with
        | some image =>
            -- the table leads beyond ASCII, except from the sign for kelvin to its letter
            rcases lookupRun_of_leadsOn lowerRuns_leadOn hlook with ⟨himage, hother⟩ | hkelvin
            · rw [Option.getD_some]
              exact ⟨by omega, hother⟩
            · have hletter : lookupRun lowerRuns kelvin = some 0x6b := by decide
              rw [hkelvin, hletter] at hlook
              cases hlook
              rw [Option.getD_some]
              exact ⟨by decide, by decide⟩
        | none =>
            have hkelvin : c.toNat ≠ kelvin := by
              intro heq
              have hletter : lookupRun lowerRuns kelvin = some 0x6b := by decide
              rw [heq, hletter] at hlook
              cases hlook
            rw [Option.getD_none, Char.ofNat_toNat]
            exact ⟨by omega, hkelvin⟩

/-- Characters of lower case stay as they are if they become ASCII. -/
theorem lowerChar_of_low {before after : List Char} {c : Char} (h : IsLow c)
    (hascii : ∀ d ∈ lowerChar before c after, d.toNat < 0x80) :
    lowerChar before c after = [c] := by
  unfold lowerChar at hascii ⊢
  split at hascii
  · next hsmall =>
    rw [if_pos hsmall, lowerAscii, if_neg h.1, Char.ofNat_toNat]
  · next hbeyond =>
    rw [if_neg hbeyond]
    split at hascii
    · have hdot := hascii (Char.ofNat 0x307) (by simp)
      exact absurd hdot (by decide)
    · split at hascii
      · have hsigma := hascii _ (List.mem_singleton.mpr rfl)
        split at hsigma
        · exact absurd hsigma (by decide)
        · exact absurd hsigma (by decide)
      · have hsmall := hascii _ (List.mem_singleton.mpr rfl)
        cases hlook : lookupRun lowerRuns c.toNat with
        | some image =>
            rw [hlook, Option.getD_some] at hsmall
            rcases lookupRun_of_leadsOn lowerRuns_leadOn hlook with ⟨himage, -⟩ | hkelvin
            · omega
            · exact absurd hkelvin h.2
        | none =>
            rw [hlook, Option.getD_none, Char.ofNat_toNat] at hsmall
            exact absurd hsmall hbeyond

/-! ## Texts -/

theorem isLow_lowerChars (before cs : List Char) : ∀ d ∈ lowerChars before cs, IsLow d := by
  induction cs generalizing before with
  | nil => exact fun d hd => absurd hd List.not_mem_nil
  | cons c after ih =>
      intro d hd
      rcases List.mem_append.mp hd with hd | hd
      · exact isLow_lowerChar before c after d hd
      · exact ih (c :: before) d hd

/-- A text in lower case has characters of lower case only. -/
theorem isLow_lower (s : String) : ∀ d ∈ (lower s).toList, IsLow d := by
  rw [lower, String.toList_ofList]
  exact isLow_lowerChars [] s.toList

theorem lowerChars_of_low {cs : List Char} (h : ∀ c ∈ cs, IsLow c) (before : List Char)
    (hascii : ∀ d ∈ lowerChars before cs, d.toNat < 0x80) : lowerChars before cs = cs := by
  induction cs generalizing before with
  | nil => rfl
  | cons c after ih =>
      have hhead := lowerChar_of_low (h c List.mem_cons_self)
        fun d hd => hascii d (List.mem_append_left _ hd)
      have htail := ih (fun d hd => h d (List.mem_cons_of_mem c hd)) (c :: before)
        fun d hd => hascii d (List.mem_append_right _ hd)
      rw [lowerChars, hhead, htail]
      rfl

/-- A text of lower-case characters whose lower case is a text of ASCII is that text. -/
theorem eq_of_lower {s t : String} (h : ∀ c ∈ s.toList, IsLow c) (hlower : lower s = t)
    (hascii : ∀ d ∈ t.toList, d.toNat < 0x80) : s = t := by
  have hchars : lowerChars [] s.toList = t.toList := by
    rw [← hlower, lower, String.toList_ofList]
  rw [← hchars] at hascii
  rw [← String.toList_inj, ← hchars, lowerChars_of_low h [] hascii]

end ScriptHost.Text
