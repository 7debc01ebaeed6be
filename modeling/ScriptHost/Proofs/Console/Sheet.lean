import ScriptHost.Number.Digits
import ScriptHost.Proofs.Console.Labels
import ScriptHost.Proofs.Console.Literal

/-!
# Texts with several labels

A text that consists of labels, each in a style of its own and with other text behind it, is shown
as the labels and the texts by themselves if each of them is taken for nothing but text.  If one is
not, less is shown, or nothing at all.  Such a text is often made of rows with a name and a value
each, some of which have another label in place of a value that is not there.

## Main results

* `shown_sheet_iff`, `part_shown_iff` — the labels and the texts are shown just if nothing is lost
  and nothing would move the cursor.
* `isKept_of_plain` — nothing is lost of plain texts.
-/

namespace ScriptHost.Console

/-- A label in a style, and the text behind it. -/
structure Labelled where
  style : List Char
  label : List Char
  text : List Char

/-- The markup of labels and the texts behind them. -/
def sheet : List Labelled → List Char
  | [] => []
  | l :: ls => heading l.style l.label (l.text ++ sheet ls)

/-- The characters of labels and of the texts behind them. -/
def sheetText : List Labelled → List Char
  | [] => []
  | l :: ls => l.label ++ l.text ++ sheetText ls

/-- Whether labels and the texts behind them are taken for nothing but text.  A backslash at the end
of one would make the tag behind it text as well. -/
def isKept : List Labelled → Bool
  | [] => true
  | l :: ls => stands [] l.label "[/]".toList && stands [] l.text (sheet ls) && isKept ls

/-- Whether the style of a label can be opened. -/
def Labelled.IsStyled (l : Labelled) : Prop := ∃ c body, l.style = c :: body ∧ IsStyle c body

theorem bracket_of_sheet (ls : List Labelled) : ∀ c ∈ (sheet ls).head?, c = '[' := by
  cases ls with
  | nil => simp [sheet]
  | cons l ls => simp [sheet, heading]

/-! ## What is shown -/

theorem isKept_cons {l : Labelled} {ls : List Labelled} :
    isKept (l :: ls) = true ↔
      (isLiteral l.label = true ∧ l.label.getLast? ≠ some '\\') ∧
        (isLiteral l.text = true ∧ (sheet ls = [] ∨ l.text.getLast? ≠ some '\\')) ∧
          isKept ls = true := by
  have hclose : "[/]".toList ≠ [] := by decide
  rw [isKept, Bool.and_eq_true, Bool.and_eq_true, stands_nil_iff, stands_nil_iff, and_assoc]
  simp only [hclose, false_or]

theorem showPieces_sheet {ls : List Labelled} (h : ∀ l ∈ ls, l.IsStyled) (hkept : isKept ls = true)
    (position : Nat) (run : List Char) :
    showPieces withPictures [] (piecesFrom position run 0 (sheet ls)) =
        .ok (stretch run.reverse ++ sheetText ls) ∧
      (piecesFrom position run 0 (sheet ls)).forM checkStyle = .ok () := by
  induction ls generalizing run position with
  | nil =>
      have hpieces : piecesFrom position run 0 (sheet []) = plainBefore run.reverse [] := rfl
      rw [hpieces, showPieces_plainBefore withPictures [] rfl, checkStyles_plainBefore]
      exact ⟨rfl, rfl⟩
  | cons l ls ih =>
      obtain ⟨c, body, hbody, hstyle⟩ := h l List.mem_cons_self
      obtain ⟨⟨hlabel, hlast⟩, ⟨htext, hend⟩, hkept⟩ := isKept_cons.mp hkept
      obtain ⟨hlabel, hlabel'⟩ := isLiteral_iff.mp hlabel
      obtain ⟨htext, htext'⟩ := isLiteral_iff.mp htext
      obtain ⟨later, hshow, hcheck⟩ := showPieces_heading hstyle hlabel hlast withPictures rfl []
        position run (l.text ++ sheet ls)
      obtain ⟨hrest, hchecked⟩ := ih (fun l' hl' => h l' (List.mem_cons_of_mem l hl')) hkept
        (later + l.text.length) l.text.reverse
      have huntagged := piecesFrom_untagged htext (bracket_of_sheet ls) hend later []
      rw [List.append_nil] at huntagged
      rw [huntagged, hrest, List.reverse_reverse, htext', ← hbody] at hshow
      rw [huntagged, hchecked, ← hbody] at hcheck
      change _ = ((Except.ok _).map (stretch l.label ++ ·)).map (stretch run.reverse ++ ·) at hshow
      rw [hlabel'] at hshow
      refine ⟨hshow.trans ?_, hcheck⟩
      rw [sheetText, List.append_assoc l.label]
      rfl

/-- Labels and texts of which nothing is lost are shown, without what would move the cursor. -/
theorem shown_sheet_of_kept {ls : List Labelled} (h : ∀ l ∈ ls, l.IsStyled)
    (hkept : isKept ls = true) {s : String} (hs : s.toList = sheet ls) :
    shown s = .ok (String.ofList (still (sheetText ls))) := by
  obtain ⟨hshow, hcheck⟩ := showPieces_sheet h hkept 0 []
  rw [← hs] at hshow hcheck
  exact shown_eq_ok hshow hcheck

/-! ## What is lost -/

/-- Whether the style of a label can be opened, and is made of none of the characters that can be
lost. -/
structure Labelled.IsMild (l : Labelled) : Prop where
  style : l.IsStyled
  slash : '\\' ∉ l.style
  colon : ':' ∉ l.style

theorem isLabelTag_of_style {c : Char} {body : List Char} (h : IsStyle c body)
    (hslash : '\\' ∉ c :: body) (hcolon : ':' ∉ c :: body) : IsLabelTag (c :: body) :=
  ⟨isTagBody_of_opens h.opens h.bare.1 h.bare.2, hslash, hcolon⟩

theorem isLabelTag_close : IsLabelTag ['/'] :=
  ⟨⟨fun _ => rfl, by decide⟩, by decide, by decide⟩

/-- What is visible of labels and texts weighs no more than they do, and less if something is
lost. -/
theorem follows_sheet {ls : List Labelled} (h : ∀ l ∈ ls, l.IsMild) :
    Follows (sheet ls) (weight (sheetText ls)) (loss (isKept ls)) := by
  induction ls with
  | nil => exact .nil
  | cons l ls ih =>
      have hl := h l List.mem_cons_self
      obtain ⟨c, body, hbody, hstyle⟩ := hl.style
      have hslash := hl.slash
      have hcolon := hl.colon
      rw [hbody] at hslash hcolon
      have hrest := ih fun l' hl' => h l' (List.mem_cons_of_mem l hl')
      have htext : ∀ position, weight (visibleFrom position [] (l.text ++ sheet ls)) +
          (loss (isKept ls) + loss (stands [] l.text (sheet ls))) ≤
            weight l.text + weight (sheetText ls) := by
        intro position
        have hle := hrest.weight_le l.text position []
        have hnil : weight [] = 0 := rfl
        omega
      have hclosed := Follows.tag isLabelTag_close htext
      have hlost : loss (isKept (l :: ls)) ≤ loss (isKept ls) +
          loss (stands [] l.text (sheet ls)) + loss (stands [] l.label "[/]".toList) := by
        rw [isKept]
        cases stands [] l.label "[/]".toList <;> cases stands [] l.text (sheet ls) <;> simp [loss]
      rw [sheet, heading, hbody]
      apply Follows.tag (isLabelTag_of_style hstyle hslash hcolon)
      intro position
      have hle : weight (visibleFrom position [] (l.label ++ '[' :: '/' :: ']' ::
          (l.text ++ sheet ls))) + _ + loss (stands [] l.label "[/]".toList) ≤ _ :=
        hclosed.weight_le l.label position []
      have hnil : weight [] = 0 := rfl
      rw [sheetText, weight_append, weight_append]
      omega

theorem plainText_of_shown {s text : String} (h : shown s = .ok text) :
    ∃ cs, showPieces withPictures [] (markupPieces s.toList) = .ok cs ∧ text.toList = still cs := by
  rw [shown, plainText] at h
  cases hpieces : showPieces withPictures [] (markupPieces s.toList) with
  | error f =>
      rw [hpieces] at h
      cases h
  | ok cs =>
      rw [hpieces] at h
      change (checkStyles s >>= fun _ => pure (asText (String.ofList cs))) = _ at h
      cases hstyles : checkStyles s with
      | error f =>
          rw [hstyles] at h
          cases h
      | ok _ =>
          rw [hstyles] at h
          cases h
          exact ⟨cs, rfl, by rw [asText, String.toList_ofList, String.toList_ofList]⟩

/-- What would move the cursor weighs nothing. -/
theorem weight_still (cs : List Char) : weight (still cs) = weight cs := by
  have hcount : ∀ c, isControl c = false → (still cs).count c = cs.count c := by
    intro c hc
    rw [still, List.count_filter]
    rw [hc]
    rfl
  rw [weight, weight, hcount _ (by decide), hcount _ (by decide), hcount _ (by decide)]

theorem weight_of_shown {ls : List Labelled} (h : ∀ l ∈ ls, l.IsMild) {s text : String}
    (hs : s.toList = sheet ls) (htext : shown s = .ok text) :
    weight text.toList + loss (isKept ls) ≤ weight (sheetText ls) := by
  obtain ⟨cs, hcs, htext⟩ := plainText_of_shown htext
  have hvisible := visible_of_shown hcs
  have hle := (follows_sheet h).visible 0 []
  have hnil : weight (stretch [].reverse) = 0 := rfl
  rw [hs] at hvisible
  rw [htext, weight_still, hvisible]
  change weight (visibleFrom 0 [] (sheet ls)) + _ ≤ _
  omega

/-- A text among labels that weigh hardly anything is part of what is shown just if nothing of it is
lost and it is still. -/
theorem part_shown_iff {ls : List Labelled} (h : ∀ l ∈ ls, l.IsMild) {s : String}
    (hs : s.toList = sheet ls) {text : List Char} (hpart : text <:+: sheetText ls)
    (hweight : weight (sheetText ls) < weight text + 2) :
    (∃ row, shown s = .ok row ∧ text <:+: row.toList) ↔
      isKept ls = true ∧ isStill text = true := by
  constructor
  · rintro ⟨row, hrow, hinfix⟩
    have hle := weight_of_shown h hs hrow
    have hless := weight_le_of_infix hinfix
    obtain ⟨cs, -, hstill⟩ := plainText_of_shown hrow
    refine ⟨?_, isStill_of_infix (hstill ▸ hinfix)⟩
    cases hkept : isKept ls with
    | true => rfl
    | false =>
        rw [hkept, loss, if_neg Bool.false_ne_true] at hle
        omega
  · rintro ⟨hkept, hstill⟩
    have hall := shown_sheet_of_kept (fun l hl => (h l hl).style) hkept hs
    refine ⟨_, hall, ?_⟩
    rw [String.toList_ofList]
    exact infix_still hpart hstill

/-- Labels and texts are shown as they stand just if nothing of them is lost and they are still. -/
theorem shown_sheet_iff {ls : List Labelled} (h : ∀ l ∈ ls, l.IsMild) {s text : String}
    (hs : s.toList = sheet ls) (htext : text.toList = sheetText ls) :
    shown s = .ok text ↔ isKept ls = true ∧ isStill (sheetText ls) = true := by
  constructor
  · intro hshown
    have hpart : sheetText ls <:+: text.toList := htext ▸ List.infix_refl _
    exact (part_shown_iff h hs (List.infix_refl _) (by omega)).mp ⟨text, hshown, hpart⟩
  · rintro ⟨hkept, hstill⟩
    rw [shown_sheet_of_kept (fun l hl => (h l hl).style) hkept hs, still_eq_self_iff.mpr hstill,
      ← htext, String.ofList_toList]

/-- Whether a label and the text behind it are plain. -/
structure Labelled.IsPlain (l : Labelled) : Prop where
  label : Console.IsPlain l.label
  label_last : l.label.getLast? ≠ some '\\'
  text : Console.IsPlain l.text
  text_last : l.text.getLast? ≠ some '\\'

theorem Labelled.isPlain_of {style label text : List Char} (hlabel : Console.IsPlain label)
    (hlast : label.getLast? ≠ some '\\') (htext : Console.IsPlain text)
    (hend : text.getLast? ≠ some '\\') : Labelled.IsPlain ⟨style, label, text⟩ :=
  ⟨hlabel, hlast, htext, hend⟩

/-- Nothing is lost of plain labels and texts. -/
theorem isKept_of_plain {ls : List Labelled} (h : ∀ l ∈ ls, l.IsPlain) : isKept ls = true := by
  induction ls with
  | nil => rfl
  | cons l ls ih =>
      have hl := h l List.mem_cons_self
      exact isKept_cons.mpr ⟨⟨hl.label.isLiteral, hl.label_last⟩,
        ⟨hl.text.isLiteral, .inr hl.text_last⟩, ih fun l' hl' => h l' (List.mem_cons_of_mem l hl')⟩

/-- Plain labels and texts are still. -/
theorem isStill_of_plain {ls : List Labelled} (h : ∀ l ∈ ls, l.IsPlain) :
    isStill (sheetText ls) = true := by
  induction ls with
  | nil => rfl
  | cons l ls ih =>
      have hl := h l List.mem_cons_self
      rw [sheetText, isStill_append, isStill_append, hl.label.still, hl.text.still,
        ih fun l' hl' => h l' (List.mem_cons_of_mem l hl')]
      rfl

/-! ## Rows -/

theorem IsPlain.append_line {cs ds : List Char} (hcs : IsPlain cs) (hds : IsPlain ('\n' :: ds)) :
    IsPlain (cs ++ '\n' :: ds) := by
  have hrest : IsPlain ds := by
    constructor
    case bare => exact fun hmem => hds.bare (List.mem_cons_of_mem _ hmem)
    case pictureless =>
      have hpictureless := hds.pictureless
      rw [isPictureless, Bool.and_eq_true] at hpictureless
      exact hpictureless.2
    case still =>
      have hstill := hds.still
      rw [isStill, List.all_cons, Bool.and_eq_true] at hstill
      exact hstill.2
  exact hcs.append_blank hrest (by decide) (by decide) (by decide) (by decide)

/-- A row, behind the row before it. -/
def row (name value : String) : List Char :=
  '\n' :: (("  " ++ name ++ ":").toList ++ ' ' :: value.toList)

theorem row_append (name value : String) : row name "" ++ value.toList = row name value := by
  simp [row]

theorem getLast?_row_empty (name : String) : (row name "").getLast? = some ' ' := by
  have hrow : row name "" = ('\n' :: ("  " ++ name ++ ":").toList) ++ [' '] := by simp [row]
  rw [hrow, List.getLast?_concat]

theorem isPlain_row (name : String) {value : String} (hname : IsPlain ("  " ++ name ++ ":").toList)
    (hvalue : IsPlain value.toList) : IsPlain (row name value) := by
  have hnil : IsPlain [] := by decide
  have hline := hname.append_blank hvalue (c := ' ') (by decide) (by decide) (by decide)
    (by decide)
  exact hnil.append_blank hline (by decide) (by decide) (by decide) (by decide)

theorem IsPlain.append_row {cs : List Char} (hcs : IsPlain cs) (name : String) {value : String}
    (hname : IsPlain ("  " ++ name ++ ":").toList) (hvalue : IsPlain value.toList) :
    IsPlain (cs ++ row name value) :=
  hcs.append_line (isPlain_row name hname hvalue)

theorem IsPlain.append_gap {cs : List Char} (h : IsPlain cs) : IsPlain (cs ++ ['\n', '\n']) :=
  h.append_line (by decide)

/-- A label with a value behind it, or with another label if there is no value. -/
def orLabel (l : Labelled) (value placeholder : String) (after : List Char) : List Labelled :=
  if value.isEmpty then [l, ⟨"dim".toList, placeholder.toList, after⟩]
  else [{ l with text := l.text ++ (value.toList ++ after) }]

theorem dim_isStyle : IsStyle 'd' "im".toList :=
  ⟨rfl, by decide, by decide, by decide, "dim", rfl⟩

/-- Whatever the value is, its labels can be opened. -/
theorem isMild_orLabel {l : Labelled} (hl : l.IsMild) (value placeholder : String)
    (after : List Char) : ∀ l' ∈ orLabel l value placeholder after, l'.IsMild := by
  intro l' hl'
  unfold orLabel at hl'
  split at hl'
  · rcases List.mem_cons.mp hl' with rfl | hl'
    · exact hl
    · rw [List.mem_singleton.mp hl']
      have hslash : '\\' ∉ "dim".toList := by decide
      have hcolon : ':' ∉ "dim".toList := by decide
      exact ⟨⟨'d', "im".toList, rfl, dim_isStyle⟩, hslash, hcolon⟩
  · rw [List.mem_singleton.mp hl']
    exact ⟨hl.style, hl.slash, hl.colon⟩

theorem isPlain_orLabel {l : Labelled} {value placeholder : String} {after : List Char}
    (hl : l.IsPlain) (hvalue : IsPlain (l.text ++ value.toList))
    (hplaceholder : IsPlain placeholder.toList) (hlast : placeholder.toList.getLast? ≠ some '\\')
    (hafter : IsPlain after) (hline : after.head? = some '\n')
    (hend : after.getLast? ≠ some '\\') :
    ∀ l' ∈ orLabel l value placeholder after, l'.IsPlain := by
  obtain ⟨more, rfl⟩ := List.head?_eq_some_iff.mp hline
  intro l' hl'
  unfold orLabel at hl'
  split at hl'
  · rcases List.mem_cons.mp hl' with rfl | hl'
    · exact hl
    · rw [List.mem_singleton.mp hl']
      exact ⟨hplaceholder, hlast, hafter, hend⟩
  · rw [List.mem_singleton.mp hl']
    refine ⟨hl.label, hl.label_last, ?_, ?_⟩
    · rw [← List.append_assoc]
      exact hvalue.append_line hafter
    · rw [← List.append_assoc, List.getLast?_append]
      rw [List.getLast?_cons] at hend ⊢
      exact hend

/-- What would move the cursor is no digit. -/
theorem digitValue?_of_control {c : Char} (h : isControl c = true) :
    Number.digitValue? c = none := by
  apply if_neg
  rintro ⟨hzero, -⟩
  have hlow : 48 ≤ c.toNat := hzero
  simp only [isControl, Bool.or_eq_true, beq_iff_eq, Bool.and_eq_true, decide_eq_true_eq] at h
  omega

/-- The digits of a number are plain. -/
theorem isPlain_natText (n : Nat) : IsPlain (Number.natText n).toList := by
  have hdigit : ∀ (n : Nat) (rest : List Char), ∀ c ∈ Number.digitsOnto n rest,
      (Number.digitValue? c).isSome = true ∨ c ∈ rest := by
    intro n rest
    fun_induction Number.digitsOnto n rest with
    | case1 n rest h =>
        intro c hc
        rcases List.mem_cons.mp hc with rfl | hc
        · exact .inl (by rw [Number.digitValue?_digitChar]; rfl)
        · exact .inr hc
    | case2 n rest h ih =>
        intro c hc
        rcases ih c hc with hsome | hmem
        · exact .inl hsome
        · rcases List.mem_cons.mp hmem with rfl | hc
          · exact .inl (by rw [Number.digitValue?_digitChar]; rfl)
          · exact .inr hc
  have hno : ∀ c, Number.digitValue? c = none → c ∉ (Number.natText n).toList := by
    intro c hnone hmem
    rw [Number.natText, String.toList_ofList] at hmem
    rcases hdigit n [] c hmem with hsome | hnil
    · rw [hnone] at hsome
      cases hsome
    · cases hnil
  have hstill : isStill (Number.natText n).toList = true := by
    rw [isStill, List.all_eq_true]
    intro c hc
    by_contra hcontrol
    exact hno c (digitValue?_of_control (by simpa using hcontrol)) hc
  exact ⟨hno '[' (by decide), isPictureless_of_no_colon (hno ':' (by decide)), hstill⟩

end ScriptHost.Console
