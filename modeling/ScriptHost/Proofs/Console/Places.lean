import ScriptHost.Proofs.Console.Sheet

/-!
# Places of texts

The texts that commands show as they come — the name of a script and its arguments, the value that
it returned, the names of namespaces, the path of a library, what was wrong with a configuration —
are put into markup at a place each.  Most stand behind a label; the name of a script and the
failure of a configuration stand within a style, which a backslash at their end keeps from being
closed.  Whatever the place, what would move the cursor is not shown.

## Main results

* `Place.shown_iff`, `Place.displays_iff` — a text is shown as it stands just if it is taken for
  nothing but text and moves no cursor.
* `Place.shown_of_stray` — a text in which a closing tag comes first is not shown behind a label.
-/

namespace ScriptHost.Console

/-- A place at which a text is put into markup. -/
inductive Place where
  | file
  | arguments
  | value
  | namespaces
  | library (isThere : Bool)
  | loading
  deriving DecidableEq, Repr

namespace Place

/-- The markup of a text at a place. -/
def markup (text : String) : Place → String
  | file => "[bold]File:[/] [script]" ++ text ++ "[/]"
  | arguments => "[bold]Args:[/] " ++ text
  | value => "[bold]Return value:[/] " ++ text
  | namespaces => "[warning]Invalid namespaces:[/] " ++ text
  | library true => "[success]Script library found:[/] " ++ text
  | library false => "[info]No script library at:[/] " ++ text
  | loading => "[red]Error loading config: " ++ text ++ "[/]"

/-- What is shown in front of a text at a place. -/
def front : Place → String
  | file => "File: "
  | arguments => "Args: "
  | value => "Return value: "
  | namespaces => "Invalid namespaces: "
  | library true => "Script library found: "
  | library false => "No script library at: "
  | loading => "Error loading config: "

/-- Whether the text at a place stands within a style. -/
def isWithin : Place → Bool
  | file | loading => true
  | _ => false

/-- Whether a text is taken for nothing but text at a place, and nothing in it moves the cursor. -/
def Keeps (p : Place) (text : String) : Prop :=
  isLiteral text.toList = true ∧ (p.isWithin = true → text.toList.getLast? ≠ some '\\') ∧
    isStill text.toList = true

/-! ## Places as sheets -/

/-- A label with a text behind it. -/
def behind (style label : String) (text : List Char) : List Labelled :=
  [⟨style.toList, label.toList, ' ' :: text⟩]

/-- The labels of a text at a place. -/
def parts (text : List Char) : Place → List Labelled
  | file => [⟨"bold".toList, "File:".toList, [' ']⟩, ⟨"script".toList, text, []⟩]
  | arguments => behind "bold" "Args:" text
  | value => behind "bold" "Return value:" text
  | namespaces => behind "warning" "Invalid namespaces:" text
  | library true => behind "success" "Script library found:" text
  | library false => behind "info" "No script library at:" text
  | loading => [⟨"red".toList, "Error loading config: ".toList ++ text, []⟩]

theorem markup_eq_sheet (p : Place) (text : String) :
    (p.markup text).toList = sheet (p.parts text.toList) := by
  unfold markup parts
  split <;> simp [String.toList_append, sheet, heading, behind]

theorem sheetText_parts (p : Place) (text : List Char) :
    sheetText (p.parts text) = p.front.toList ++ text := by
  unfold front parts
  split <;> simp [sheetText, behind]

theorem red_isStyle : IsStyle 'r' "ed".toList :=
  ⟨rfl, by decide, by decide, by decide,
    normalName_of_word (by decide) (by decide) (by decide) (by decide)⟩

/-- A label that is plain, in a style that can be opened and of which nothing can be lost. -/
structure IsLabel (style label : String) : Prop where
  opened : ∃ c body, style.toList = c :: body ∧ IsStyle c body
  slash : '\\' ∉ style.toList
  colon : ':' ∉ style.toList
  plain : IsPlain label.toList
  last : label.toList.getLast? ≠ some '\\'

/-- A text that does not stand within a style stands behind a label. -/
theorem exists_label {p : Place} (h : p.isWithin = false) :
    ∃ style label, IsLabel style label ∧ ∀ text, p.parts text = behind style label text := by
  have hplain : ∀ label : String, '[' ∉ label.toList → isPictureless label.toList = true →
      isStill label.toList = true → IsPlain label.toList :=
    fun label hbare hpictureless hstill => ⟨hbare, hpictureless, hstill⟩
  cases p with
  | file => cases h
  | arguments =>
      exact ⟨"bold", "Args:", ⟨⟨_, _, rfl, bold_isStyle⟩, by decide, by decide,
        hplain _ (by decide) (by decide) (by decide), by decide⟩, fun _ => rfl⟩
  | value =>
      exact ⟨"bold", "Return value:", ⟨⟨_, _, rfl, bold_isStyle⟩, by decide, by decide,
        hplain _ (by decide) (by decide) (by decide), by decide⟩, fun _ => rfl⟩
  | namespaces =>
      exact ⟨"warning", "Invalid namespaces:", ⟨⟨_, _, rfl, warning_isStyle⟩, by decide,
        by decide, hplain _ (by decide) (by decide) (by decide), by decide⟩, fun _ => rfl⟩
  | library isThere =>
      cases isThere with
      | true =>
          exact ⟨"success", "Script library found:", ⟨⟨_, _, rfl, success_isStyle⟩, by decide,
            by decide, hplain _ (by decide) (by decide) (by decide), by decide⟩, fun _ => rfl⟩
      | false =>
          exact ⟨"info", "No script library at:", ⟨⟨_, _, rfl, info_isStyle⟩, by decide,
            by decide, hplain _ (by decide) (by decide) (by decide), by decide⟩, fun _ => rfl⟩
  | loading => cases h

/-- The labels of a place can be opened, whatever the text. -/
theorem isMild_parts (p : Place) (text : List Char) : ∀ l ∈ p.parts text, l.IsMild := by
  intro l hl
  cases hwithin : p.isWithin with
  | false =>
      obtain ⟨style, label, hlabel, hparts⟩ := exists_label hwithin
      rw [hparts, behind, List.mem_singleton] at hl
      rw [hl]
      exact ⟨hlabel.opened, hlabel.slash, hlabel.colon⟩
  | true =>
      cases p with
      | file =>
          rcases List.mem_cons.mp hl with rfl | hl
          · exact ⟨⟨_, _, rfl, bold_isStyle⟩, by decide, by decide⟩
          · have hslash : '\\' ∉ "script".toList := by decide
            have hcolon : ':' ∉ "script".toList := by decide
            rw [List.mem_singleton.mp hl]
            exact ⟨⟨_, _, rfl, script_isStyle⟩, hslash, hcolon⟩
      | loading =>
          have hslash : '\\' ∉ "red".toList := by decide
          have hcolon : ':' ∉ "red".toList := by decide
          rw [List.mem_singleton.mp hl]
          exact ⟨⟨_, _, rfl, red_isStyle⟩, hslash, hcolon⟩
      | _ => cases hwithin

theorem isKept_parts (p : Place) (text : String) :
    isKept (p.parts text.toList) = true ↔
      isLiteral text.toList = true ∧ (p.isWithin = true → text.toList.getLast? ≠ some '\\') := by
  have hblank : isLiteral (' ' :: text.toList) = isLiteral text.toList :=
    isLiteral_behind ⟨List.not_mem_nil, rfl, rfl⟩ text.toList
  cases hwithin : p.isWithin with
  | false =>
      obtain ⟨style, label, hlabel, hparts⟩ := exists_label hwithin
      rw [hparts, behind, isKept_cons]
      simp [hblank, hlabel.plain.isLiteral, hlabel.last, sheet, isKept]
  | true =>
      cases p with
      | file =>
          rw [parts, isKept_cons, isKept_cons]
          constructor
          · rintro ⟨-, -, ⟨hliteral, hlast⟩, -⟩
            exact ⟨hliteral, fun _ => hlast⟩
          · rintro ⟨hliteral, hlast⟩
            exact ⟨⟨by decide, by decide⟩, ⟨by decide, .inr (by decide)⟩,
              ⟨hliteral, hlast rfl⟩, ⟨rfl, .inl rfl⟩, rfl⟩
      | loading =>
          have hfront : isLiteral ("Error loading config: ".toList ++ text.toList) =
              isLiteral text.toList := by
            have hplain : IsPlain "Error loading config:".toList := by decide
            have hblank : "Error loading config: ".toList =
                "Error loading config:".toList ++ [' '] := by decide
            rw [hblank, List.append_assoc]
            exact isLiteral_behind hplain text.toList
          have hend : ("Error loading config: ".toList ++ text.toList).getLast? ≠ some '\\' ↔
              text.toList.getLast? ≠ some '\\' := by
            rw [List.getLast?_append]
            cases text.toList.getLast? with
            | none => simp
            | some c => simp
          rw [parts, isKept_cons, hfront, hend]
          constructor
          · rintro ⟨⟨hliteral, hlast⟩, -⟩
            exact ⟨hliteral, fun _ => hlast⟩
          · rintro ⟨hliteral, hlast⟩
            exact ⟨⟨hliteral, hlast rfl⟩, ⟨rfl, .inl rfl⟩, rfl⟩
      | _ => cases hwithin

/-! ## What is shown at a place -/

variable (p : Place)

/-- What is said in front of a text moves no cursor. -/
theorem isStill_front : isStill p.front.toList = true := by
  unfold front
  split <;> decide

/-- A text is shown as it stands just if it is taken for nothing but text and moves no cursor. -/
theorem shown_iff (text : String) :
    shown (p.markup text) = .ok (p.front ++ text) ↔ p.Keeps text := by
  have htext : (p.front ++ text).toList = sheetText (p.parts text.toList) := by
    rw [sheetText_parts, String.toList_append]
  rw [shown_sheet_iff (p.isMild_parts text.toList) (p.markup_eq_sheet text) htext, isKept_parts,
    sheetText_parts, isStill_append, p.isStill_front, Bool.true_and, and_assoc, Keeps]

/-- If it is not, it is no part of what is shown, if anything is. -/
theorem displays_iff (text : String) :
    (∃ row, shown (p.markup text) = .ok row ∧ text.toList <:+: row.toList) ↔ p.Keeps text := by
  have hpart : text.toList <:+: sheetText (p.parts text.toList) := by
    rw [sheetText_parts]
    exact (List.suffix_append _ _).isInfix
  have hfront : weight p.front.toList = 1 := by
    unfold front
    split <;> rfl
  have hweight : weight (sheetText (p.parts text.toList)) < weight text.toList + 2 := by
    rw [sheetText_parts, weight_append, hfront]
    omega
  rw [part_shown_iff (p.isMild_parts text.toList) (p.markup_eq_sheet text) hpart hweight,
    isKept_parts, and_assoc, Keeps]

/-- A text in which a closing tag comes first is not shown behind a label. -/
theorem shown_of_stray {p : Place} (h : p.isWithin = false) {before name : String}
    (hbefore : '[' ∉ before.toList) (hlast : before.toList.getLast? ≠ some '\\')
    (hname : '[' ∉ name.toList ∧ ']' ∉ name.toList) (rest : String) :
    ∃ failure, shown (p.markup (before ++ "[/" ++ name ++ "]" ++ rest)) = .error failure := by
  obtain ⟨style, label, hlabel, hparts⟩ := exists_label h
  obtain ⟨c, body, hstyle, hopened⟩ := hlabel.opened
  have hbefore' : '[' ∉ ' ' :: before.toList := by simpa using hbefore
  have hlast' : (' ' :: before.toList).getLast? ≠ some '\\' := by
    rw [List.getLast?_cons]
    cases hend : before.toList.getLast? with
    | none => simp
    | some d =>
        rw [hend] at hlast
        exact hlast
  apply shown_heading_of_stray hopened (isUntagged_of_no_bracket hlabel.plain.bare) hlabel.last
    hbefore' hlast' hname rest.toList
  rw [markup_eq_sheet, hparts, behind, sheet, sheet, hstyle]
  simp [String.toList_append]

end Place

end ScriptHost.Console
