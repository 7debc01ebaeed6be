import ScriptHost.Proofs.Console.Pictures
import ScriptHost.Proofs.Console.Tags

/-!
# Which markup can be shown

Whatever stands between tags can be shown; a text can be shown as a whole if every tag in it can be
opened or closed where it stands.  A text in which no bracket begins a tag is a single stretch, and
so can be shown behind any label.  A closing tag in front of which nothing is open cannot be shown,
whatever stands behind it.

## Main results

* `showPieces_heading` — a label is shown by itself, and what stands behind it as if it stood alone.
* `labelled_of_tagless`, `shown_file_of_tagless` — texts without tags are shown behind labels.
* `shown_heading_of_stray` — a text in which a closing tag comes first cannot be shown behind a
  label.
-/

namespace ScriptHost.Console

/-! ## Opening and closing -/

section Showing

variable (pictures : List Char → List Char) (tags : List Tag)

theorem showPieces_plainBefore (hnil : pictures [] = []) (text : List Char) (ps : List Piece) :
    showPieces pictures tags (plainBefore text ps) =
      (showPieces pictures tags ps).map fun rest => pictures (unescape text) ++ rest := by
  unfold plainBefore
  split
  · next h =>
    have hempty : text = [] := by simpa using h
    rw [hempty, unescape, hnil]
    cases showPieces pictures tags ps with
    | error f => rfl
    | ok rest => rfl
  · rfl

theorem exists_shown_plainBefore {pictures : List Char → List Char} {tags : List Tag}
    {ps : List Piece} (text : List Char) (h : ∃ shown, showPieces pictures tags ps = .ok shown) :
    ∃ shown, showPieces pictures tags (plainBefore text ps) = .ok shown := by
  obtain ⟨shown, hshown⟩ := h
  unfold plainBefore
  split
  · exact ⟨shown, hshown⟩
  · rw [showPieces, hshown]
    exact ⟨_, rfl⟩

/-- Stretches between tags ask for no style. -/
theorem checkStyles_plainBefore (text : List Char) (ps : List Piece) :
    (plainBefore text ps).forM checkStyle = ps.forM checkStyle := by
  unfold plainBefore
  split
  · rfl
  · rfl

theorem checkStyles_tag (name : String) (position : Nat) (ps : List Piece) :
    (Piece.tag ⟨name, none⟩ position :: ps).forM checkStyle = ps.forM checkStyle := rfl

/-- The style of a label: the name of a tag that opens a style and says nothing else. -/
structure IsStyle (c : Char) (body : List Char) : Prop where
  opens : opensTag c = true
  slash : c ≠ '/'
  bare : '[' ∉ body ∧ ']' ∉ body
  equals : '=' ∉ c :: body
  normal : ∃ name, normalName (String.ofList (c :: body)) = .ok name

theorem ofBody_of_no_equals {body : List Char} (h : '=' ∉ body) :
    Tag.ofBody body = ⟨String.ofList body, none⟩ := by
  have htake : body.takeWhile (· != '=') = body := by
    apply List.takeWhile_eq_self_iff.mpr
    intro c hc
    have hne : c ≠ '=' := fun e => h (e ▸ hc)
    simpa using hne
  rw [Tag.ofBody, htake]
  simp

/-- A style is opened. -/
theorem showPieces_style {c : Char} {body : List Char} (h : IsStyle c body) (position : Nat) :
    ∃ name, ∀ ps,
      showPieces pictures tags (.tag ⟨String.ofList (c :: body), none⟩ position :: ps) =
        showPieces pictures (⟨name, none⟩ :: tags) ps := by
  obtain ⟨name, hname⟩ := h.normal
  refine ⟨name, fun ps => ?_⟩
  have hpass : passTag tags ⟨String.ofList (c :: body), none⟩ position =
      .ok (⟨name, none⟩ :: tags) := by
    rw [passTag, String.toList_ofList]
    split
    · next heq =>
      cases heq
      exact absurd rfl h.slash
    · rw [hname]
      rfl
  rw [showPieces, hpass]

/-- A closing tag without a name closes the last tag. -/
theorem showPieces_close (name : String) (position : Nat) (ps : List Piece) :
    showPieces pictures (⟨name, none⟩ :: tags) (.tag ⟨"/", none⟩ position :: ps) =
      showPieces pictures tags ps := rfl

end Showing

/-! ## Labels -/

/-- A label in a style of its own, and what stands behind it. -/
def heading (style label rest : List Char) : List Char :=
  '[' :: (style ++ ']' :: (label ++ '[' :: '/' :: ']' :: rest))

theorem piecesFrom_heading {c : Char} {body label : List Char} (hstyle : IsStyle c body)
    (hlabel : isUntagged label = true) (hlast : label.getLast? ≠ some '\\') (position : Nat)
    (run rest : List Char) :
    ∃ middle later, piecesFrom position run 0 (heading (c :: body) label rest) =
      plainBefore run.reverse (.tag ⟨String.ofList (c :: body), none⟩ position ::
        plainBefore label (.tag ⟨"/", none⟩ middle :: piecesFrom later [] 0 rest)) := by
  have hpieces := piecesFrom_tag hstyle.opens hstyle.bare.1 hstyle.bare.2 position run
    (label ++ '[' :: '/' :: ']' :: rest)
  have hclose : ∀ d ∈ ('[' :: '/' :: ']' :: rest).head?, d = '[' := by simp
  rw [piecesFrom_untagged hlabel hclose (.inr hlast), piecesFrom_close, List.append_nil,
    List.reverse_reverse, ofBody_of_no_equals hstyle.equals] at hpieces
  exact ⟨_, _, hpieces⟩

/-- A label in a style is shown by itself, and what stands behind it as if it stood alone. -/
theorem showPieces_heading {c : Char} {body label : List Char} (hstyle : IsStyle c body)
    (hlabel : isUntagged label = true) (hlast : label.getLast? ≠ some '\\')
    (pictures : List Char → List Char) (hnil : pictures [] = []) (tags : List Tag)
    (position : Nat) (run rest : List Char) :
    ∃ later,
      showPieces pictures tags (piecesFrom position run 0 (heading (c :: body) label rest)) =
        ((showPieces pictures tags (piecesFrom later [] 0 rest)).map
          (pictures (unescape label) ++ ·)).map (pictures (unescape run.reverse) ++ ·) ∧
      (piecesFrom position run 0 (heading (c :: body) label rest)).forM checkStyle =
        (piecesFrom later [] 0 rest).forM checkStyle := by
  obtain ⟨middle, later, hpieces⟩ := piecesFrom_heading hstyle hlabel hlast position run rest
  obtain ⟨name, hname⟩ := showPieces_style pictures tags hstyle position
  refine ⟨later, ?_, ?_⟩
  · rw [hpieces, showPieces_plainBefore pictures tags hnil, hname,
      showPieces_plainBefore pictures _ hnil, showPieces_close]
  · rw [hpieces, checkStyles_plainBefore, checkStyles_tag, checkStyles_plainBefore,
      checkStyles_tag]

/-! ## Closing what is open -/

/-- In front of a closing tag a text without tags either begins no tag, or is all backslashes, and
the tag is the closing one. -/
theorem tagAt?_before_close {cs : List Char} (h : isTagless cs = true) :
    tagAt? (cs ++ ['[', '/', ']']) = none ∨
      tagAt? (cs ++ ['[', '/', ']']) = some (cs.length, ['/']) := by
  have hclose : ∀ c ∈ ['[', '/', ']'].head?, c = '[' := by simp
  refine (tagAt?_append_none hclose (tagAt?_of_tagless h)).imp_right ?_
  rintro ⟨k, rfl⟩
  rw [tagAt?_replicate, List.length_replicate]
  rfl

/-- In a style that is open, a text without tags can be shown up to the closing tag: that tag closes
the style, unless backslashes make it text. -/
theorem closed_shows (pictures : List Char → List Char) (name : String) (tags : List Tag)
    {cs : List Char} (h : isTagless cs = true) (position : Nat) (run : List Char) :
    (∃ text, showPieces pictures (⟨name, none⟩ :: tags)
        (piecesFrom position run 0 (cs ++ ['[', '/', ']'])) = .ok text) ∧
      (piecesFrom position run 0 (cs ++ ['[', '/', ']'])).forM checkStyle = .ok () := by
  induction cs generalizing position run with
  | nil =>
      have hpieces := piecesFrom_close position run []
      have hend : piecesFrom (position + 3) [] 0 [] = [] := rfl
      rw [hend] at hpieces
      rw [List.nil_append, hpieces, checkStyles_plainBefore]
      exact ⟨exists_shown_plainBefore run.reverse ⟨[], rfl⟩, rfl⟩
  | cons c cs ih =>
      rw [List.cons_append, piecesFrom]
      rcases tagAt?_before_close h with hnone | hsome
      · rw [List.cons_append] at hnone
        rw [hnone]
        exact ih (isTagless_cons h).2 (position + 1) (c :: run)
      -- only backslashes are left in front of the closing tag, which is the end of the text
      · rw [List.cons_append] at hsome
        rw [hsome]
        have hend : piecesFrom (position + 1) [] ((c :: cs).length + ['/'].length + 1)
            (cs ++ ['[', '/', ']']) = [] := by
          have hskip := piecesFrom_skip (position + 1) [] (cs ++ ['[', '/', ']']) []
          have hlength : (cs ++ ['[', '/', ']']).length = (c :: cs).length + ['/'].length + 1 := by
            simp
          rwa [List.append_nil, hlength] at hskip
        simp only [hend]
        rw [checkStyles_plainBefore, checkStyles_plainBefore]
        split
        · exact ⟨exists_shown_plainBefore _ (exists_shown_plainBefore _ ⟨_, rfl⟩), rfl⟩
        · exact ⟨exists_shown_plainBefore _ (exists_shown_plainBefore _ ⟨[], rfl⟩), rfl⟩

/-! ## Rows with labels -/

theorem shown_eq_ok {s : String} {text : List Char}
    (htext : showPieces withPictures [] (markupPieces s.toList) = .ok text)
    (hstyles : (markupPieces s.toList).forM checkStyle = .ok ()) :
    shown s = .ok (String.ofList (still text)) := by
  rw [shown, plainText, htext]
  change (checkStyles s >>= fun _ => pure (asText (String.ofList text))) = _
  rw [checkStyles, hstyles, asText, String.toList_ofList]
  rfl

theorem shown_eq_error {s : String} {f : Failure}
    (h : showPieces withPictures [] (markupPieces s.toList) = .error f) : shown s = .error f := by
  rw [shown, plainText, h]
  rfl

theorem bold_isStyle : IsStyle 'b' "old".toList :=
  ⟨rfl, by decide, by decide, by decide, "bold", rfl⟩

theorem isColour_of_no_mixture {word : String} (h : between? "rgb(" word.toList ')' = none) :
    ∃ isOne, isColour word = .ok isOne := by
  simp only [isColour, h]
  split
  · exact ⟨true, rfl⟩
  · exact ⟨false, rfl⟩

/-- The words of a style that say something about the next one. -/
def Style.keywords : List String := ["on", "not", "link"]

/-- A single word in lower case that does not begin a mixture of colours has a normal form, be it
the name of a style or not. -/
theorem normalName_of_word {word : String} (hwords : words word = [word])
    (hlower : Text.lower word = word) (hkeyword : word ∉ Style.keywords)
    (hmixture : between? "rgb(" word.toList ')' = none) :
    ∃ name, normalName word = .ok name := by
  have hread : ∃ style, Style.plain.readWords [word] = .ok style := by
    obtain ⟨isOne, hcolour⟩ := isColour_of_no_mixture hmixture
    simp only [Style.keywords, List.mem_cons, List.not_mem_nil, or_false, not_or] at hkeyword
    rw [Style.readWords, hlower]
    simp only [hkeyword, if_false, hcolour]
    cases attribute? word with
    | some a => exact ⟨_, rfl⟩
    | none =>
        cases isOne with
        | true => exact ⟨_, rfl⟩
        | false => exact ⟨_, rfl⟩
  have hstyle : ∃ style, style? word = .ok style := by
    unfold style?
    split
    · exact ⟨_, rfl⟩
    · rw [hwords]
      exact hread
  obtain ⟨style, hstyle⟩ := hstyle
  rw [normalName, normalize, hstyle]
  exact ⟨_, rfl⟩

theorem warning_isStyle : IsStyle 'w' "arning".toList :=
  ⟨rfl, by decide, by decide, by decide,
    normalName_of_word (by decide) (by decide) (by decide) (by decide)⟩

theorem success_isStyle : IsStyle 's' "uccess".toList :=
  ⟨rfl, by decide, by decide, by decide,
    normalName_of_word (by decide) (by decide) (by decide) (by decide)⟩

theorem info_isStyle : IsStyle 'i' "nfo".toList :=
  ⟨rfl, by decide, by decide, by decide,
    normalName_of_word (by decide) (by decide) (by decide) (by decide)⟩

theorem error_isStyle : IsStyle 'e' "rror".toList :=
  ⟨rfl, by decide, by decide, by decide,
    normalName_of_word (by decide) (by decide) (by decide) (by decide)⟩

theorem script_isStyle : IsStyle 's' "cript".toList :=
  ⟨rfl, by decide, by decide, by decide,
    normalName_of_word (by decide) (by decide) (by decide) (by decide)⟩

/-- A text without tags is shown behind a label. -/
theorem shown_heading_of_tagless {c : Char} {body label : List Char} (hstyle : IsStyle c body)
    (hopen : '[' ∉ label) (hlast : label.getLast? ≠ some '\\') {text : List Char}
    (htext : isTagless text = true) {s : String}
    (hs : s.toList = heading (c :: body) label text) : ∃ row, shown s = .ok row := by
  obtain ⟨later, hshow, hcheck⟩ :=
    showPieces_heading hstyle (isUntagged_of_no_bracket hopen) hlast withPictures rfl [] 0 [] text
  rw [piecesFrom_of_untagged (isUntagged_of_tagless htext),
    showPieces_plainBefore withPictures [] rfl] at hshow
  rw [piecesFrom_of_untagged (isUntagged_of_tagless htext), checkStyles_plainBefore] at hcheck
  rw [← hs] at hshow hcheck
  exact ⟨_, shown_eq_ok hshow hcheck⟩

/-- A text without tags is shown behind its label. -/
theorem labelled_of_tagless {label text : String} (hopen : '[' ∉ label.toList)
    (htext : isTagless text.toList = true) : ∃ row, labelled label text = .ok row := by
  have hopen' : '[' ∉ label.toList ++ [':'] := by simpa using hopen
  have hlast : (label.toList ++ [':']).getLast? ≠ some '\\' := by simp
  have htext' : isTagless (' ' :: text.toList) = true := by
    rw [isTagless, htext]
    rfl
  apply shown_heading_of_tagless bold_isStyle hopen' hlast htext'
  simp [heading, String.toList_append]

/-- Names without tags are shown behind the warning about them. -/
theorem shown_warning_of_tagless {text : String} (htext : isTagless text.toList = true) :
    ∃ row, shown ("[warning]Invalid namespaces:[/] " ++ text) = .ok row := by
  have htext' : isTagless (' ' :: text.toList) = true := by
    rw [isTagless, htext]
    rfl
  have hopen : '[' ∉ "Invalid namespaces:".toList := by decide
  apply shown_heading_of_tagless warning_isStyle hopen (by decide) htext'
  simp [heading, String.toList_append]

/-- The name of a file is shown in its style if no tag begins in it. -/
theorem shown_file_of_tagless {name : String} (hname : isTagless name.toList = true) :
    ∃ row, shown ("[bold]File:[/] [script]" ++ name ++ "[/]") = .ok row := by
  have hs : ("[bold]File:[/] [script]" ++ name ++ "[/]").toList =
      heading "bold".toList "File:".toList
        ([' '] ++ '[' :: 's' :: ("cript".toList ++ ']' :: (name.toList ++ ['[', '/', ']']))) := by
    simp [heading, String.toList_append]
  have hlabel : isUntagged "File:".toList = true := by decide
  obtain ⟨later, hshow, hcheck⟩ := showPieces_heading bold_isStyle hlabel (by decide)
    withPictures rfl [] 0 []
    ([' '] ++ '[' :: 's' :: ("cript".toList ++ ']' :: (name.toList ++ ['[', '/', ']'])))
  have hs' : _ = heading ('b' :: "old".toList) _ _ := hs
  rw [← hs', piecesFrom_run (by decide) (by decide),
    piecesFrom_tag script_isStyle.opens script_isStyle.bare.1 script_isStyle.bare.2,
    ofBody_of_no_equals script_isStyle.equals] at hshow hcheck
  obtain ⟨style, hstyle⟩ := showPieces_style withPictures [] script_isStyle
    (later + [' '].length)
  obtain ⟨⟨text, htext⟩, hchecked⟩ := closed_shows withPictures style [] hname
    (later + [' '].length + ('s' :: "cript".toList).length + 2) []
  rw [showPieces_plainBefore withPictures [] rfl, hstyle, htext] at hshow
  rw [checkStyles_plainBefore, checkStyles_tag, hchecked] at hcheck
  exact ⟨_, shown_eq_ok hshow hcheck⟩

/-! ## Stray closing tags -/

/-- Where nothing is open, no closing tag can be passed. -/
theorem passTag_stray (name : List Char) (position : Nat) :
    ∃ failure, passTag [] (Tag.ofBody ('/' :: name)) position = .error failure := by
  have hname : (Tag.ofBody ('/' :: name)).name.toList = '/' :: name.takeWhile (· != '=') := by
    simp [Tag.ofBody]
  have hclose : ∀ closing : String, ∃ failure,
      closeTag [] (Tag.ofBody ('/' :: name)) closing position = .error failure := by
    intro closing
    by_cases hempty : closing.isEmpty
    · exact ⟨_, by rw [closeTag, if_pos hempty]⟩
    · rw [closeTag, if_neg hempty]
      cases normalName closing with
      | error failure => exact ⟨failure, rfl⟩
      | ok closed => exact ⟨_, rfl⟩
  obtain ⟨failure, hfailure⟩ := hclose (Text.strip (String.ofList (name.takeWhile (· != '='))))
  rw [passTag, hname]
  simp only [hfailure]
  exact ⟨failure, rfl⟩

/-- A text in which a closing tag comes first cannot be shown behind a label: the label is closed
before the text begins, so nothing is open at its first tag. -/
theorem shown_heading_of_stray {c : Char} {body label : List Char} (hstyle : IsStyle c body)
    (hlabel : isUntagged label = true) (hend : label.getLast? ≠ some '\\')
    {before name : List Char} (hbefore : '[' ∉ before) (hlast : before.getLast? ≠ some '\\')
    (hname : '[' ∉ name ∧ ']' ∉ name) (rest : List Char) {s : String}
    (hs : s.toList =
      heading (c :: body) label (before ++ '[' :: '/' :: (name ++ ']' :: rest))) :
    ∃ failure, shown s = .error failure := by
  obtain ⟨later, hshow, -⟩ := showPieces_heading hstyle hlabel hend withPictures rfl [] 0 []
    (before ++ '[' :: '/' :: (name ++ ']' :: rest))
  obtain ⟨failure, hstray⟩ := passTag_stray name (later + before.length)
  rw [← hs, piecesFrom_run hbefore hlast, piecesFrom_tag (c := '/') rfl hname.1 hname.2,
    showPieces_plainBefore withPictures [] rfl, showPieces, hstray] at hshow
  exact ⟨failure, shown_eq_error hshow⟩

end ScriptHost.Console
