import Mathlib.Data.List.TakeWhile
import ScriptHost.Console.Panel

/-!
# Where tags begin

A text with markup is cut at its tags, and what stands between two of them is a single stretch.  A
tag is read no further than to the next opening bracket, so whether one begins in a text does not
depend on a tag that follows the text; only backslashes at its end make that one text.

## Main results

* `piecesFrom_tagAt` — the stretch before a tag, and the tag, with backslashes or without.
* `piecesFrom_untagged` — a text in which no tag begins belongs to a single stretch.
-/

namespace ScriptHost.Console

/-! ## Where tags begin -/

@[simp] theorem tagAt?_nil : tagAt? [] = none := rfl

theorem tagAt?_backslash (cs : List Char) :
    tagAt? ('\\' :: cs) = (tagAt? cs).map fun t => (t.1 + 1, t.2) := by
  simp only [tagAt?, List.takeWhile_cons, beq_self_eq_true, if_true, List.length_cons,
    List.drop_succ_cons]
  split
  · rw [Option.map_map]
    rfl
  · rfl

theorem tagAt?_bracket (cs : List Char) :
    tagAt? ('[' :: cs) = (tagBody? cs).map fun body => (0, body) := rfl

theorem tagAt?_other {c : Char} (hslash : c ≠ '\\') (hbracket : c ≠ '[') (cs : List Char) :
    tagAt? (c :: cs) = none := by
  have hnone : (c == '\\') = false := by simpa using hslash
  simp only [tagAt?, List.takeWhile_cons, hnone, Bool.false_eq_true, if_false, List.length_nil,
    List.drop_zero]
  split
  · next rest heq =>
    cases heq
    exact absurd rfl hbracket
  · rfl

theorem upToBracket?_append {body : List Char} (hopen : '[' ∉ body) (hclose : ']' ∉ body)
    (rest : List Char) : upToBracket? (body ++ ']' :: rest) = some body := by
  induction body with
  | nil => rfl
  | cons c cs ih =>
      rw [List.mem_cons, not_or] at hopen hclose
      rw [List.cons_append, upToBracket?, if_neg (Ne.symm hclose.1), if_neg (Ne.symm hopen.1),
        ih hopen.2 hclose.2]
      rfl

/-- The body of a tag: it is read up to the bracket that closes it. -/
structure IsTagBody (body : List Char) : Prop where
  read : ∀ rest, tagBody? (body ++ ']' :: rest) = some body
  bare : '[' ∉ body

/-- Characters without brackets are the body of a tag if they begin like one. -/
theorem isTagBody_of_opens {c : Char} {body : List Char} (hc : opensTag c = true)
    (hopen : '[' ∉ body) (hclose : ']' ∉ body) : IsTagBody (c :: body) := by
  constructor
  case read =>
    intro rest
    rw [List.cons_append, tagBody?, if_pos hc, upToBracket?_append hopen hclose]
    rfl
  case bare =>
    rw [List.mem_cons, not_or]
    refine ⟨?_, hopen⟩
    rintro rfl
    cases hc

/-! ## Tags in front of other text -/

theorem upToBracket?_eq_some {cs body : List Char} (h : upToBracket? cs = some body) :
    ∃ rest, cs = body ++ ']' :: rest ∧ '[' ∉ body ∧ ']' ∉ body := by
  induction cs generalizing body with
  | nil => cases h
  | cons c cs ih =>
      rw [upToBracket?] at h
      split at h
      · next hclose =>
        cases h
        exact ⟨cs, by rw [hclose]; rfl, List.not_mem_nil, List.not_mem_nil⟩
      · next hclose =>
        split at h
        · cases h
        · next hopen =>
          obtain ⟨inner, hinner, rfl⟩ := Option.map_eq_some_iff.mp h
          obtain ⟨rest, rfl, hbare, hend⟩ := ih hinner
          rw [List.mem_cons, List.mem_cons, not_or, not_or]
          exact ⟨rest, rfl, ⟨Ne.symm hopen, hbare⟩, Ne.symm hclose, hend⟩

theorem tagBody?_eq_some {cs body : List Char} (h : tagBody? cs = some body) :
    ∃ rest, cs = body ++ ']' :: rest ∧ IsTagBody body := by
  cases cs with
  | nil => cases h
  | cons c cs =>
      rw [tagBody?] at h
      split at h
      · next hopens =>
        obtain ⟨inner, hinner, rfl⟩ := Option.map_eq_some_iff.mp h
        obtain ⟨rest, rfl, hbare, hend⟩ := upToBracket?_eq_some hinner
        exact ⟨rest, rfl, isTagBody_of_opens hopens hbare hend⟩
      · cases h

theorem tagAt?_replicate (k : Nat) (cs : List Char) :
    tagAt? (List.replicate k '\\' ++ '[' :: cs) = (tagBody? cs).map fun body => (k, body) := by
  induction k with
  | zero => rfl
  | succ k ih =>
      rw [List.replicate_succ, List.cons_append, tagAt?_backslash, ih, Option.map_map]
      rfl

/-- A text that begins with a tag begins with backslashes, and the body of the tag between
brackets. -/
theorem tagAt?_eq_some {cs body : List Char} {k : Nat} (h : tagAt? cs = some (k, body)) :
    ∃ rest, cs = List.replicate k '\\' ++ '[' :: (body ++ ']' :: rest) ∧ IsTagBody body := by
  induction cs generalizing k with
  | nil => cases h
  | cons c cs ih =>
      by_cases hslash : c = '\\'
      · rw [hslash, tagAt?_backslash] at h
        obtain ⟨⟨fewer, same⟩, hfewer, heq⟩ := Option.map_eq_some_iff.mp h
        cases heq
        obtain ⟨rest, rfl, hbody⟩ := ih hfewer
        exact ⟨rest, by rw [hslash]; rfl, hbody⟩
      · by_cases hopen : c = '['
        · rw [hopen, tagAt?_bracket] at h
          obtain ⟨same, hsome, heq⟩ := Option.map_eq_some_iff.mp h
          cases heq
          obtain ⟨rest, rfl, hbody⟩ := tagBody?_eq_some hsome
          exact ⟨rest, by rw [hopen]; rfl, hbody⟩
        · rw [tagAt?_other hslash hopen] at h
          cases h

section Tail

variable {tail : List Char} (htail : ∀ c ∈ tail.head?, c = '[')
include htail

theorem upToBracket?_append_none {cs : List Char} (h : upToBracket? cs = none) :
    upToBracket? (cs ++ tail) = none := by
  induction cs with
  | nil =>
      cases tail with
      | nil => rfl
      | cons c tail =>
          rw [htail c rfl]
          rfl
  | cons c cs ih =>
      rw [upToBracket?] at h
      rw [List.cons_append, upToBracket?]
      split at h
      · cases h
      · next hclose =>
        rw [if_neg hclose]
        split at h
        · next hopen => rw [if_pos hopen]
        · next hopen =>
          rw [if_neg hopen, ih (Option.map_eq_none_iff.mp h)]
          rfl

theorem tagBody?_append_none {cs : List Char} (h : tagBody? cs = none) :
    tagBody? (cs ++ tail) = none := by
  cases cs with
  | nil =>
      cases tail with
      | nil => rfl
      | cons c tail =>
          rw [htail c rfl]
          rfl
  | cons c cs =>
      rw [tagBody?] at h
      rw [List.cons_append, tagBody?]
      split at h
      · next hopens =>
        rw [if_pos hopens, upToBracket?_append_none htail (Option.map_eq_none_iff.mp h)]
        rfl
      · next hopens => rw [if_neg hopens]

/-- Only backslashes, by which it becomes text, can let a tag begin before another one. -/
theorem tagAt?_append_none {cs : List Char} (h : tagAt? cs = none) :
    tagAt? (cs ++ tail) = none ∨ ∃ k, cs = List.replicate k '\\' := by
  induction cs with
  | nil => exact .inr ⟨0, rfl⟩
  | cons c cs ih =>
      by_cases hslash : c = '\\'
      · rw [hslash, tagAt?_backslash, Option.map_eq_none_iff] at h
        rw [hslash, List.cons_append, tagAt?_backslash]
        rcases ih h with hnone | ⟨k, rfl⟩
        · exact .inl (by rw [hnone]; rfl)
        · exact .inr ⟨k + 1, rfl⟩
      · left
        by_cases hopen : c = '['
        · rw [hopen, tagAt?_bracket, Option.map_eq_none_iff] at h
          rw [hopen, List.cons_append, tagAt?_bracket, tagBody?_append_none htail h]
          rfl
        · exact tagAt?_other hslash hopen _

end Tail

/-! ## Stretches and tags -/

theorem piecesFrom_skip (position : Nat) (run cs rest : List Char) :
    piecesFrom position run cs.length (cs ++ rest) =
      piecesFrom (position + cs.length) run 0 rest := by
  induction cs generalizing position with
  | nil => rfl
  | cons c cs ih =>
      rw [List.length_cons, List.cons_append, piecesFrom, ih]
      congr 1
      omega

/-- A tag with backslashes before it has a first character, behind which the rest can be counted. -/
theorem exists_tagged (k : Nat) (body rest : List Char) :
    ∃ c tagged, List.replicate k '\\' ++ '[' :: (body ++ ']' :: rest) = c :: (tagged ++ rest) ∧
      tagged.length = k + body.length + 1 := by
  cases k with
  | zero => exact ⟨'[', body ++ [']'], by simp, by simp⟩
  | succ k =>
      refine ⟨'\\', List.replicate k '\\' ++ '[' :: (body ++ [']']), ?_, ?_⟩
      · rw [List.replicate_succ]
        simp
      · simp only [List.length_append, List.length_replicate, List.length_cons, List.length_nil]
        omega

/-- A tag ends the stretch before it; of its backslashes every other one is text, and with an odd
number of them the tag is text itself. -/
theorem piecesFrom_tagAt {body : List Char} (h : IsTagBody body) (k position : Nat)
    (run rest : List Char) :
    piecesFrom position run 0 (List.replicate k '\\' ++ '[' :: (body ++ ']' :: rest)) =
      plainBefore run.reverse (plainBefore (List.replicate (k / 2) '\\')
        ((if k % 2 = 1 then .plain ('[' :: body ++ [']'])
          else .tag (Tag.ofBody body) (position + k)) ::
            piecesFrom (position + (k + body.length + 2)) [] 0 rest)) := by
  have htag := tagAt?_replicate k (body ++ ']' :: rest)
  rw [h.read] at htag
  obtain ⟨c, tagged, hall, hlength⟩ := exists_tagged k body rest
  have hend : position + 1 + (k + body.length + 1) = position + (k + body.length + 2) := by omega
  have hskip := piecesFrom_skip (position + 1) [] tagged rest
  rw [hlength, hend] at hskip
  rw [hall] at htag ⊢
  rw [piecesFrom, htag]
  simp only [Option.map_some, hskip]

/-- A tag without backslashes ends the stretch before it. -/
theorem piecesFrom_tag {c : Char} {body : List Char} (hc : opensTag c = true)
    (hopen : '[' ∉ body) (hclose : ']' ∉ body) (position : Nat) (run rest : List Char) :
    piecesFrom position run 0 ('[' :: c :: (body ++ ']' :: rest)) =
      plainBefore run.reverse (.tag (Tag.ofBody (c :: body)) position ::
        piecesFrom (position + (c :: body).length + 2) [] 0 rest) := by
  have hbody := isTagBody_of_opens hc hopen hclose
  have hend : position + (0 + (c :: body).length + 2) = position + (c :: body).length + 2 := by
    omega
  have hpieces := piecesFrom_tagAt hbody 0 position run rest
  rw [hend] at hpieces
  exact hpieces

/-- A closing tag without a name ends the stretch before it. -/
theorem piecesFrom_close (position : Nat) (run rest : List Char) :
    piecesFrom position run 0 ('[' :: '/' :: ']' :: rest) =
      plainBefore run.reverse (.tag ⟨"/", none⟩ position ::
        piecesFrom (position + 3) [] 0 rest) := by
  have hopen : '[' ∉ ([] : List Char) := List.not_mem_nil
  have hclose : ']' ∉ ([] : List Char) := List.not_mem_nil
  exact piecesFrom_tag (c := '/') rfl hopen hclose position run rest

/-- No tag begins in characters without a bracket, the last of which is no backslash. -/
theorem tagAt?_run {cs : List Char} (hne : cs ≠ []) (hopen : '[' ∉ cs)
    (hlast : cs.getLast? ≠ some '\\') (rest : List Char) : tagAt? (cs ++ rest) = none := by
  induction cs with
  | nil => exact absurd rfl hne
  | cons c cs ih =>
      rw [List.mem_cons, not_or] at hopen
      by_cases hslash : c = '\\'
      · have hmore : cs ≠ [] := by
          rintro rfl
          exact hlast (by rw [hslash]; rfl)
        rw [List.getLast?_cons, ← Option.or_some] at hlast
        have hlast' : cs.getLast? ≠ some '\\' := by
          intro h
          rw [h] at hlast
          exact hlast rfl
        rw [List.cons_append, hslash, tagAt?_backslash, ih hmore hopen.2 hlast']
        rfl
      · rw [List.cons_append, tagAt?_other hslash (Ne.symm hopen.1)]

/-- Characters without a bracket, the last of which is no backslash, belong to the stretch before
what follows them. -/
theorem piecesFrom_run {cs : List Char} (hopen : '[' ∉ cs) (hlast : cs.getLast? ≠ some '\\')
    (position : Nat) (run rest : List Char) :
    piecesFrom position run 0 (cs ++ rest) =
      piecesFrom (position + cs.length) (cs.reverse ++ run) 0 rest := by
  induction cs generalizing position run with
  | nil => rfl
  | cons c cs ih =>
      have hnone := tagAt?_run (List.cons_ne_nil c cs) hopen hlast rest
      have hmore : cs.getLast? ≠ some '\\' := by
        intro h
        apply hlast
        rw [List.getLast?_cons, h]
        rfl
      rw [List.cons_append] at hnone
      rw [List.cons_append, piecesFrom, hnone]
      simp only []
      rw [ih (fun hm => hopen (List.mem_cons_of_mem c hm)) hmore, List.reverse_cons,
        List.append_assoc, List.length_cons]
      congr 1
      omega

/-! ## Untagged texts -/

/-- Whether a tag begins nowhere in a text, with or without backslashes before it. -/
def isUntagged : List Char → Bool
  | [] => true
  | c :: cs => (tagAt? (c :: cs)).isNone && isUntagged cs

theorem isUntagged_cons {c : Char} {cs : List Char} (h : isUntagged (c :: cs) = true) :
    tagAt? (c :: cs) = none ∧ isUntagged cs = true := by
  rw [isUntagged, Bool.and_eq_true, Option.isNone_iff_eq_none] at h
  exact h

/-- An untagged text belongs to the stretch before what follows it, be it nothing or a tag that its
last character leaves one. -/
theorem piecesFrom_untagged {cs tail : List Char} (h : isUntagged cs = true)
    (htail : ∀ c ∈ tail.head?, c = '[') (hlast : tail = [] ∨ cs.getLast? ≠ some '\\')
    (position : Nat) (run : List Char) :
    piecesFrom position run 0 (cs ++ tail) =
      piecesFrom (position + cs.length) (cs.reverse ++ run) 0 tail := by
  induction cs generalizing position run with
  | nil => rfl
  | cons c cs ih =>
      obtain ⟨hnone, hcs⟩ := isUntagged_cons h
      have hmore : tail = [] ∨ cs.getLast? ≠ some '\\' := by
        refine hlast.imp_right fun hc hcs => hc ?_
        rw [List.getLast?_cons, hcs]
        rfl
      have hbefore : tagAt? (c :: cs ++ tail) = none := by
        rcases tagAt?_append_none htail hnone with hnone | ⟨k, hslashes⟩
        · exact hnone
        · rcases hlast with rfl | hlast
          · rwa [List.append_nil]
          · rw [hslashes] at hlast
            cases k with
            | zero => cases hslashes
            | succ k => simp [List.getLast?_replicate] at hlast
      rw [List.cons_append] at hbefore
      rw [List.cons_append, piecesFrom, hbefore]
      simp only []
      rw [ih hcs hmore, List.reverse_cons, List.append_assoc, List.length_cons]
      congr 1
      omega

/-- A text in which no tag begins is a single stretch. -/
theorem piecesFrom_of_untagged {cs : List Char} (h : isUntagged cs = true) (position : Nat)
    (run : List Char) : piecesFrom position run 0 cs = plainBefore (run.reverse ++ cs) [] := by
  have hpieces := piecesFrom_untagged h (by simp : ∀ c ∈ [].head?, c = '[') (.inl rfl) position run
  rw [List.append_nil] at hpieces
  rw [hpieces, piecesFrom, List.reverse_append, List.reverse_reverse]

/-! ## Texts without tags -/

/-- Whether no bracket of a text begins a tag. -/
def isTagless : List Char → Bool
  | [] => true
  | c :: cs => !(c == '[' && cs.head?.any opensTag) && isTagless cs

theorem isTagless_of_no_bracket {cs : List Char} (h : '[' ∉ cs) : isTagless cs = true := by
  induction cs with
  | nil => rfl
  | cons c cs ih =>
      rw [List.mem_cons, not_or] at h
      have hc : (c == '[') = false := by simpa using Ne.symm h.1
      rw [isTagless, hc, ih h.2]
      rfl

theorem tagBody?_of_closed {cs : List Char} (h : cs.head?.any opensTag = false) :
    tagBody? cs = none := by
  cases cs with
  | nil => rfl
  | cons c cs =>
      have hc : opensTag c = false := by simpa using h
      rw [tagBody?, hc]
      rfl

theorem isTagless_cons {c : Char} {cs : List Char} (h : isTagless (c :: cs) = true) :
    (c = '[' → cs.head?.any opensTag = false) ∧ isTagless cs = true := by
  rw [isTagless, Bool.and_eq_true] at h
  refine ⟨?_, h.2⟩
  intro hc
  simpa [hc] using h.1

theorem tagAt?_of_tagless {cs : List Char} (h : isTagless cs = true) : tagAt? cs = none := by
  induction cs with
  | nil => rfl
  | cons c cs ih =>
      obtain ⟨hbracket, htail⟩ := isTagless_cons h
      by_cases hslash : c = '\\'
      · rw [hslash, tagAt?_backslash, ih htail]
        rfl
      · by_cases hopen : c = '['
        · rw [hopen, tagAt?_bracket, tagBody?_of_closed (hbracket hopen)]
          rfl
        · exact tagAt?_other hslash hopen cs

theorem isUntagged_of_tagless {cs : List Char} (h : isTagless cs = true) :
    isUntagged cs = true := by
  induction cs with
  | nil => rfl
  | cons c cs ih =>
      rw [isUntagged, tagAt?_of_tagless h, ih (isTagless_cons h).2]
      rfl

theorem isUntagged_of_no_bracket {cs : List Char} (h : '[' ∉ cs) : isUntagged cs = true :=
  isUntagged_of_tagless (isTagless_of_no_bracket h)

end ScriptHost.Console
