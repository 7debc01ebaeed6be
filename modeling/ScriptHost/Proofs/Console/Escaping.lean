import ScriptHost.Proofs.Console.Labels
import ScriptHost.Proofs.Console.Literal

/-!
# Escaped texts

An escaped text has no tags, so it can be shown behind any label.  It is shown as it stands if it
has no pictures, nothing in it moves the cursor, and no backslash stands before a bracket in it: of
those that do, only the ones before a tag are doubled.  A backslash at its end is doubled as well,
although no tag follows.

## Main results

* `escaped_pieces` — an escaped text consists of text.
* `shown_escaped` — what is shown of an escaped text behind a label.
-/

namespace ScriptHost.Console

/-! ## Escaping tags -/

theorem escapeFrom_skip (cs rest : List Char) :
    escapeFrom cs.length (cs ++ rest) = escapeFrom 0 rest := by
  induction cs with
  | nil => rfl
  | cons c cs ih => rw [List.length_cons, List.cons_append, escapeFrom, ih]

theorem escapeFrom_of_none {c : Char} {cs : List Char} (h : tagAt? (c :: cs) = none) :
    escapeFrom 0 (c :: cs) = c :: escapeFrom 0 cs := by
  rw [escapeFrom, h]

/-- The backslashes before a tag are doubled, and one more is written. -/
theorem escapeFrom_tagAt {body : List Char} (h : IsTagBody body) (k : Nat) (rest : List Char) :
    escapeFrom 0 (List.replicate k '\\' ++ '[' :: (body ++ ']' :: rest)) =
      List.replicate (2 * k + 1) '\\' ++ '[' :: (body ++ ']' :: escapeFrom 0 rest) := by
  obtain ⟨c, tagged, hall, hlength⟩ := exists_tagged k body rest
  have htag := tagAt?_replicate k (body ++ ']' :: rest)
  have hskip := escapeFrom_skip tagged rest
  rw [hlength] at hskip
  rw [h.read, hall] at htag
  rw [hall, escapeFrom, htag]
  simp only [Option.map_some, hskip]
  simp

/-- A text begins with a tag, with backslashes before it, or it does not. -/
theorem tagAt?_cases (cs : List Char) :
    tagAt? cs = none ∨ ∃ k body rest,
      cs = List.replicate k '\\' ++ '[' :: (body ++ ']' :: rest) ∧ IsTagBody body := by
  cases h : tagAt? cs with
  | none => exact .inl rfl
  | some t =>
      obtain ⟨rest, hcs, hbody⟩ := tagAt?_eq_some h
      exact .inr ⟨t.1, t.2, rest, hcs, hbody⟩

/-! ## No tags are left -/

theorem upToBracket?_slashes (k : Nat) (cs : List Char) :
    upToBracket? (List.replicate k '\\' ++ '[' :: cs) = none := by
  induction k with
  | zero => rfl
  | succ k ih =>
      rw [List.replicate_succ, List.cons_append, upToBracket?, ih]
      rfl

section Tail

variable {tail : List Char} (hopen : '[' ∉ tail) (hclose : ']' ∉ tail)
include hopen hclose

theorem upToBracket?_of_no_bracket : upToBracket? tail = none := by
  induction tail with
  | nil => rfl
  | cons c cs ih =>
      rw [List.mem_cons, not_or] at hopen hclose
      rw [upToBracket?, if_neg (Ne.symm hclose.1), if_neg (Ne.symm hopen.1),
        ih hopen.2 hclose.2]
      rfl

theorem upToBracket?_escape {cs : List Char} (h : upToBracket? cs = none) :
    upToBracket? (escapeFrom 0 cs ++ tail) = none := by
  induction cs with
  | nil => exact upToBracket?_of_no_bracket hopen hclose
  | cons c cs ih =>
      rcases tagAt?_cases (c :: cs) with hnone | ⟨k, body, rest, hcs, hbody⟩
      · rw [upToBracket?] at h
        rw [escapeFrom_of_none hnone, List.cons_append, upToBracket?]
        split at h
        · cases h
        · next hc =>
          rw [if_neg hc]
          split at h
          · next hc => rw [if_pos hc]
          · next hc =>
            rw [if_neg hc, ih (Option.map_eq_none_iff.mp h)]
            rfl
      · rw [hcs, escapeFrom_tagAt hbody, List.append_assoc]
        exact upToBracket?_slashes (2 * k + 1) _

theorem tagBody?_escape {cs : List Char} (h : tagBody? cs = none) :
    tagBody? (escapeFrom 0 cs ++ tail) = none := by
  cases cs with
  | nil =>
      change tagBody? tail = none
      cases tail with
      | nil => rfl
      | cons c tail =>
          rw [List.mem_cons, not_or] at hopen hclose
          rw [tagBody?, upToBracket?_of_no_bracket hopen.2 hclose.2]
          split
          · rfl
          · rfl
  | cons c cs =>
      rcases tagAt?_cases (c :: cs) with hnone | ⟨k, body, rest, hcs, hbody⟩
      · rw [tagBody?] at h
        rw [escapeFrom_of_none hnone, List.cons_append, tagBody?]
        split at h
        · next hc =>
          rw [if_pos hc, upToBracket?_escape hopen hclose (Option.map_eq_none_iff.mp h)]
          rfl
        · next hc => rw [if_neg hc]
      · rw [hcs, escapeFrom_tagAt hbody, List.replicate_succ]
        rfl

/-- Where no tag begins, none begins after the text was escaped. -/
theorem tagAt?_escape {cs : List Char} (h : tagAt? cs = none) :
    tagAt? (escapeFrom 0 cs ++ tail) = none := by
  induction cs with
  | nil => exact tagAt?_eq_none hopen
  | cons c cs ih =>
      rw [escapeFrom_of_none h, List.cons_append]
      by_cases hslash : c = '\\'
      · rw [hslash, tagAt?_backslash, Option.map_eq_none_iff] at h
        rw [hslash, tagAt?_backslash, ih h]
        rfl
      · by_cases hbracket : c = '['
        · rw [hbracket, tagAt?_bracket, Option.map_eq_none_iff] at h
          rw [hbracket, tagAt?_bracket, tagBody?_escape hopen hclose h]
          rfl
        · exact tagAt?_other hslash hbracket _

end Tail

/-- Whether a piece is text. -/
def Piece.isText : Piece → Bool
  | .plain _ => true
  | .tag _ _ => false

theorem isText_plainBefore {text : List Char} {ps : List Piece}
    (h : ∀ p ∈ ps, p.isText = true) : ∀ p ∈ plainBefore text ps, p.isText = true := by
  unfold plainBefore
  split
  · exact h
  · intro p hp
    rcases List.mem_cons.mp hp with rfl | hp
    · rfl
    · exact h p hp

/-- Text can be shown whatever is open. -/
theorem showPieces_of_isText {ps : List Piece} (h : ∀ p ∈ ps, p.isText = true)
    (tags : List Tag) :
    showPieces withPictures tags ps = .ok (ps.flatMap Piece.visible) ∧
      ps.forM checkStyle = .ok () := by
  induction ps with
  | nil => exact ⟨rfl, rfl⟩
  | cons p ps ih =>
      obtain ⟨hshow, hcheck⟩ := ih fun p' hp' => h p' (List.mem_cons_of_mem p hp')
      cases p with
      | plain text =>
          refine ⟨?_, hcheck⟩
          rw [showPieces, hshow]
          rfl
      | tag t position => cases h _ List.mem_cons_self

/-- Behind characters that have been read and stand as they are, an escaped tag is shown as it
stands, with the backslashes before it. -/
theorem visible_escaped_tag {body : List Char} (hbody : IsTagBody body) (k position : Nat)
    {run rest later : List Char}
    (hpictures : isPictureless (run.reverse ++ (List.replicate k '\\' ++
      '[' :: (body ++ [']']))) = true)
    (hread : unescape run.reverse = run.reverse)
    (hrest : visibleFrom (position + (2 * k + 1 + body.length + 2)) [] rest = later) :
    visibleFrom position run (List.replicate (2 * k + 1) '\\' ++ '[' :: (body ++ ']' :: rest)) =
      run.reverse ++ (List.replicate k '\\' ++ '[' :: (body ++ ']' :: later)) := by
  have hhalf : (2 * k + 1) / 2 = k := by omega
  have hodd : (2 * k + 1) % 2 = 1 := by omega
  obtain ⟨hbefore, hmore⟩ := isPictureless_of_append hpictures
  obtain ⟨-, hinner⟩ := isPictureless_cons (isPictureless_of_append hmore).2
  have hstretch : stretch run.reverse = run.reverse := by
    rw [stretch, hread, withPictures_of_pictureless hbefore]
  have htagged : stretch ('[' :: body ++ [']']) = '[' :: body ++ [']'] := by
    have hbare : '[' ∉ body ++ [']'] := by simpa using hbody.bare
    have hslash : '[' = '\\' → (body ++ [']']).head? ≠ some '[' := fun h => absurd h (by decide)
    have hcolon : '[' = ':' → upToColon? (body ++ [']']) = none := fun h => absurd h (by decide)
    rw [List.cons_append, stretch, unescape_cons hslash, unescape_of_no_bracket hbare,
      withPictures_cons hcolon, withPictures_of_pictureless hinner]
  rw [visibleFrom_tagAt hbody, hhalf, if_pos hodd, hstretch, htagged, hrest]
  simp

/-- An escaped text, behind characters that have been read, consists of text; and all of it is
visible if none of the backslashes of the text itself stands before a bracket. -/
theorem escaped_pieces {tail : List Char} (hopen : '[' ∉ tail) (hclose : ']' ∉ tail)
    (cs : List Char) (position : Nat) (run : List Char) :
    (∀ p ∈ piecesFrom position run 0 (escapeFrom 0 cs ++ tail), p.isText = true) ∧
      (isPictureless (run.reverse ++ cs ++ tail) = true →
        unescape (run.reverse ++ cs) = run.reverse ++ cs →
          visibleFrom position run (escapeFrom 0 cs ++ tail) = run.reverse ++ cs ++ tail) := by
  induction hn : cs.length using Nat.strong_induction_on generalizing cs position run with
  | _ n ih =>
  subst hn
  cases cs with
  | nil =>
      have hpieces : piecesFrom position run 0 (escapeFrom 0 [] ++ tail) =
          plainBefore (run.reverse ++ tail) [] := piecesFrom_of_no_bracket hopen position run
      constructor
      · rw [hpieces]
        exact isText_plainBefore fun _ hp => absurd hp List.not_mem_nil
      · intro hpictures hread
        rw [List.append_nil] at hpictures hread ⊢
        rw [visibleFrom, hpieces, visible_plainBefore, stretch, unescape_append hopen, hread,
          withPictures_of_pictureless hpictures]
        exact List.append_nil _
  | cons c cs =>
      rcases tagAt?_cases (c :: cs) with hnone | ⟨k, body, rest, hcs, hbody⟩
      · have hnone' := tagAt?_escape hopen hclose hnone
        rw [escapeFrom_of_none hnone, List.cons_append] at hnone' ⊢
        have hstep : piecesFrom position run 0 (c :: (escapeFrom 0 cs ++ tail)) =
            piecesFrom (position + 1) (c :: run) 0 (escapeFrom 0 cs ++ tail) := by
          rw [piecesFrom, hnone']
        have hlater := ih cs.length (Nat.lt_succ_self _) cs (position + 1) (c :: run) rfl
        have hread : (c :: run).reverse ++ cs = run.reverse ++ c :: cs := by simp
        rw [hread] at hlater
        rw [visibleFrom, hstep]
        exact hlater
      -- the tag is text behind the backslashes, and so is every other one of them
      · have hsplit : c :: cs = (List.replicate k '\\' ++ '[' :: (body ++ [']'])) ++ rest := by
          rw [hcs]
          simp
        have hshorter : rest.length < (c :: cs).length := by
          rw [hsplit]
          simp only [List.length_append, List.length_cons]
          omega
        have hodd : (2 * k + 1) % 2 = 1 := by omega
        obtain ⟨hlater, hshown⟩ := ih rest.length hshorter rest
          (position + (2 * k + 1 + body.length + 2)) [] rfl
        rw [hcs, escapeFrom_tagAt hbody, List.append_assoc, List.cons_append, List.append_assoc,
          List.cons_append]
        constructor
        · rw [piecesFrom_tagAt hbody, if_pos hodd]
          refine isText_plainBefore (isText_plainBefore fun p hp => ?_)
          rcases List.mem_cons.mp hp with rfl | hp
          · rfl
          · exact hlater p hp
        · intro hpictures hread
          rw [← hcs, hsplit] at hpictures hread
          rw [List.append_assoc, List.append_assoc, ← List.append_assoc run.reverse] at hpictures
          rw [← List.append_assoc run.reverse] at hread
          obtain ⟨hfirst, hlast⟩ := isPictureless_of_append hpictures
          obtain ⟨hfront, hback⟩ := unescape_append_eq hread
          rw [visible_escaped_tag hbody k position hfirst (unescape_append_eq hfront).1
            (hshown hlast hback)]
          simp

/-! ## Escaped texts behind labels -/

theorem getLast?_escape (cs : List Char) : (escapeFrom 0 cs).getLast? = cs.getLast? := by
  induction hn : cs.length using Nat.strong_induction_on generalizing cs with
  | _ n ih =>
  subst hn
  cases cs with
  | nil => rfl
  | cons c cs =>
      rcases tagAt?_cases (c :: cs) with hnone | ⟨k, body, rest, hcs, hbody⟩
      · rw [escapeFrom_of_none hnone, List.getLast?_cons, List.getLast?_cons,
          ih cs.length (Nat.lt_succ_self _) cs rfl]
      · rw [hcs] at ih ⊢
        have hshorter : rest.length <
            (List.replicate k '\\' ++ '[' :: (body ++ ']' :: rest)).length := by
          simp only [List.length_append, List.length_cons]
          omega
        have hrest := ih rest.length hshorter rest rfl
        rw [escapeFrom_tagAt hbody]
        simp only [List.getLast?_append, List.getLast?_cons, hrest, Option.some_or]

/-- At the end of a text a backslash is doubled, or nothing is done. -/
theorem guardEnd_eq (cs : List Char) :
    ∃ tail, guardEnd cs = cs ++ tail ∧ '[' ∉ tail ∧ ']' ∉ tail ∧
      (cs.getLast? ≠ some '\\' → tail = []) := by
  have hsame : ∃ tail, cs = cs ++ tail ∧ '[' ∉ tail ∧ ']' ∉ tail ∧
      (cs.getLast? ≠ some '\\' → tail = []) :=
    ⟨[], (List.append_nil cs).symm, List.not_mem_nil, List.not_mem_nil, fun _ => rfl⟩
  unfold guardEnd
  split
  · exact hsame
  · next heq =>
    refine ⟨['\\'], rfl, by decide, by decide, fun h => absurd ?_ h⟩
    rw [List.getLast?_eq_head?_reverse, heq]
    rfl
  · exact hsame

/-- Whether an escaped text is shown as it stands. -/
structure IsRestored (text : List Char) : Prop where
  pictureless : isPictureless text = true
  still : isStill text = true
  /-- No backslash stands before a bracket. -/
  slashes : unescape text = text
  ending : text.getLast? ≠ some '\\'

/-- What is shown of a stretch begins with its plain beginning up to a blank. -/
theorem stretch_front {front : List Char} (h : IsPlain front) (cs : List Char) :
    ∃ rest, stretch (front ++ ' ' :: cs) = front ++ ' ' :: rest := by
  have hopen : '[' ∉ front ++ [' '] := by simpa using h.bare
  have hlast : (front ++ [' ']).getLast? ≠ some '\\' := by simp
  refine ⟨withPictures (unescape cs), ?_⟩
  rw [stretch, List.append_cons, unescape_front hopen hlast, ← List.append_cons,
    withPictures_append_blank rfl (by decide) h.pictureless]

/-- What is shown of a text begins with its plain beginning up to a blank, if that has been read. -/
theorem visible_front {front : List Char} (h : IsPlain front) (position : Nat)
    (run : List Char) (skip : Nat) (cs : List Char) (hrun : front ++ [' '] <+: run.reverse) :
    front ++ [' '] <+: (piecesFrom position run skip cs).flatMap Piece.visible := by
  have hplain : ∀ {text : List Char} (ps : List Piece), front ++ [' '] <+: text →
      front ++ [' '] <+: (plainBefore text ps).flatMap Piece.visible := by
    rintro text ps ⟨more, rfl⟩
    obtain ⟨rest, hrest⟩ := stretch_front h more
    rw [visible_plainBefore, ← List.append_cons, hrest]
    exact ⟨rest ++ ps.flatMap Piece.visible, by simp⟩
  fun_induction piecesFrom position run skip cs with
  | case1 => exact hplain _ hrun
  | case2 position run skip c cs ih => exact ih hrun
  | case3 position run c cs hnone ih =>
      rw [List.reverse_cons] at ih
      exact ih (hrun.trans (List.prefix_append _ _))
  | case4 position run c cs slashes body htag piece ih => exact hplain _ hrun

/-- An escaped text can be shown behind a label and a plain text up to a blank, whatever it is, and
these stand in front of what is shown of it. -/
theorem shown_escaped {c : Char} {body label front : List Char} (hstyle : IsStyle c body)
    (hlabel : IsPlain label) (hend : label.getLast? ≠ some '\\') (hfront : IsPlain front)
    (text : String) {s : String}
    (hs : s.toList = heading (c :: body) label (front ++ ' ' :: (escape text).toList)) :
    ∃ rest : List Char, shown s = .ok (String.ofList (label ++ front ++ ' ' :: rest)) ∧
      (IsRestored text.toList → rest = text.toList) := by
  have hopen : '[' ∉ front ++ [' '] := by simpa using hfront.bare
  have hlast : (front ++ [' ']).getLast? ≠ some '\\' := by simp
  obtain ⟨tail, htail, htopen, htclose, hnone⟩ := guardEnd_eq (escapeFrom 0 text.toList)
  obtain ⟨later, hshow, hcheck⟩ := showPieces_heading hstyle
    (isUntagged_of_no_bracket hlabel.bare) hend withPictures rfl [] 0 []
    ((front ++ [' ']) ++ (escape text).toList)
  let run := (front ++ [' ']).reverse
  have hread : run.reverse = front ++ [' '] := List.reverse_reverse _
  obtain ⟨hpieces, hvisible⟩ := escaped_pieces htopen htclose text.toList
    (later + (front ++ [' ']).length) run
  obtain ⟨hshown, hchecked⟩ := showPieces_of_isText hpieces []
  obtain ⟨rest, hrest⟩ := visible_front hfront (later + (front ++ [' ']).length) run 0
    (escapeFrom 0 text.toList ++ tail) (hread ▸ List.prefix_rfl)
  rw [escape, String.toList_ofList, htail, List.append_cons] at hs
  rw [escape, String.toList_ofList, htail] at hshow hcheck
  rw [piecesFrom_run hopen hlast, List.append_nil, hshown, hlabel.shown_eq, ← hs, ← hrest] at hshow
  rw [piecesFrom_run hopen hlast, List.append_nil, hchecked, ← hs] at hcheck
  have hall := shown_eq_ok hshow hcheck
  refine ⟨still rest, ?_, ?_⟩
  · have hlabel' : still label = label := still_eq_self_iff.mpr hlabel.still
    have hfront' : still front = front := still_eq_self_iff.mpr hfront.still
    have hblank : still (' ' :: rest) = ' ' :: still rest := rfl
    rw [hall]
    simp [withPictures, picturesFrom, unescape, hlabel', hfront', hblank]
  · intro h
    rw [getLast?_escape] at hnone
    have hpictureless : isPictureless (front ++ [' '] ++ text.toList) = true := by
      rw [← List.append_cons, isPictureless_append_blank rfl (by decide), hfront.pictureless,
        h.pictureless]
      rfl
    rw [visibleFrom, ← hrest, hread, hnone h.ending, List.append_nil, unescape_front hopen hlast,
      h.slashes] at hvisible
    rw [List.append_cancel_left (hvisible hpictureless rfl), still_eq_self_iff.mpr h.still]

end ScriptHost.Console
