import ScriptHost.Proofs.Console.Pictures
import ScriptHost.Proofs.Console.Tags

/-!
# What markup takes away

A text is taken for nothing but text if no tag begins in it, none of its backslashes is taken away,
and no picture takes the place of a name in it.  Any other text loses something: a tag its bracket
or half of its backslashes, a picture the colons around its name; and nothing adds any of these.  So
what is visible of a text weighs less than the text, and the text is no part of it.

## Main results

* `weight_stretch_le`, `weight_stretch_lt` — what is visible of a stretch between tags.
* `visible_of_shown` — if pieces can be shown, what is visible of them is shown.
* `Follows.weight_le` — what is visible of a text in front of other text.
-/

namespace ScriptHost.Console

/-! ## Backslashes -/

theorem unescape_cons {c : Char} {cs : List Char} (h : c = '\\' → cs.head? ≠ some '[') :
    unescape (c :: cs) = c :: unescape cs := by
  rw [unescape]
  rintro ds rfl rfl
  exact h rfl rfl

theorem unescape_cons_eq {c : Char} {cs : List Char} (h : unescape (c :: cs) = c :: cs) :
    (c = '\\' → cs.head? ≠ some '[') ∧ unescape cs = cs := by
  have hslash : c = '\\' → cs.head? ≠ some '[' := by
    rintro rfl hopen
    obtain ⟨ds, rfl⟩ := List.head?_eq_some_iff.mp hopen
    rw [unescape] at h
    cases h
  refine ⟨hslash, ?_⟩
  rw [unescape_cons hslash] at h
  exact List.tail_eq_of_cons_eq h

/-- If no backslash of a text is taken away, none of its parts loses one. -/
theorem unescape_append_eq {cs ds : List Char} (h : unescape (cs ++ ds) = cs ++ ds) :
    unescape cs = cs ∧ unescape ds = ds := by
  induction cs with
  | nil => exact ⟨rfl, h⟩
  | cons c cs ih =>
      rw [List.cons_append] at h
      obtain ⟨hslash, hrest⟩ := unescape_cons_eq h
      obtain ⟨hcs, hds⟩ := ih hrest
      refine ⟨?_, hds⟩
      rw [unescape_cons, hcs]
      intro hc hopen
      apply hslash hc
      rw [List.head?_append, hopen]
      rfl

/-- Characters without a bracket do not change what is taken away before them. -/
theorem unescape_append {cs ds : List Char} (h : '[' ∉ ds) :
    unescape (cs ++ ds) = unescape cs ++ ds := by
  fun_induction unescape cs with
  | case1 => exact unescape_of_no_bracket h
  | case2 cs ih => rw [List.cons_append, List.cons_append, unescape, ih, List.cons_append]
  | case3 c cs hother ih =>
      rw [List.cons_append, unescape_cons, ih, List.cons_append]
      intro hc hopen
      cases cs with
      | nil =>
          obtain ⟨more, rfl⟩ := List.head?_eq_some_iff.mp hopen
          exact h List.mem_cons_self
      | cons d cs =>
          cases hopen
          exact hother cs hc rfl

section Front

/-! Characters without a bracket, the last of which is no backslash, in front of a text. -/

variable {cs : List Char} (hopen : '[' ∉ cs) (hlast : cs.getLast? ≠ some '\\') (ds : List Char)
include hopen hlast

theorem unescape_front : unescape (cs ++ ds) = cs ++ unescape ds := by
  induction cs with
  | nil => rfl
  | cons c cs ih =>
      rw [List.mem_cons, not_or] at hopen
      have hmore : cs.getLast? ≠ some '\\' := fun h => hlast (by rw [List.getLast?_cons, h]; rfl)
      rw [List.cons_append, unescape_cons, ih hopen.2 hmore, List.cons_append]
      rintro rfl hbracket
      cases cs with
      | nil => exact hlast rfl
      | cons d cs =>
          cases hbracket
          exact hopen.2 List.mem_cons_self

theorem isUntagged_front : isUntagged (cs ++ ds) = isUntagged ds := by
  induction cs with
  | nil => rfl
  | cons c cs ih =>
      have hnone := tagAt?_run (List.cons_ne_nil c cs) hopen hlast ds
      have hmore : cs.getLast? ≠ some '\\' := fun h => hlast (by rw [List.getLast?_cons, h]; rfl)
      rw [List.mem_cons, not_or] at hopen
      rw [List.cons_append] at hnone ⊢
      rw [isUntagged, hnone, ih hopen.2 hmore]
      rfl

end Front

/-! ## Weights -/

/-- The weight of the characters that markup can take away: colons, brackets and backslashes. -/
def weight (cs : List Char) : Nat := cs.count ':' + 2 * cs.count '[' + 4 * cs.count '\\'

@[simp] theorem weight_append (cs ds : List Char) : weight (cs ++ ds) = weight cs + weight ds := by
  simp only [weight, List.count_append]
  omega

@[simp] theorem weight_reverse (cs : List Char) : weight cs.reverse = weight cs := by
  simp only [weight, List.count_reverse]

theorem weight_of_bare {cs : List Char} (hopen : '[' ∉ cs) (hslash : '\\' ∉ cs)
    (hcolon : ':' ∉ cs) : weight cs = 0 := by
  rw [weight, List.count_eq_zero.mpr hopen, List.count_eq_zero.mpr hslash,
    List.count_eq_zero.mpr hcolon]

@[simp] theorem weight_slashes (k : Nat) : weight (List.replicate k '\\') = 4 * k := by
  simp [weight, List.count_replicate]

theorem weight_cons (c : Char) (cs : List Char) :
    weight (c :: cs) = weight [c] + weight cs := weight_append [c] cs

/-- A part of a text does not weigh more than the text. -/
theorem weight_le_of_infix {cs ds : List Char} (h : cs <:+: ds) : weight cs ≤ weight ds := by
  have hcolon := h.sublist.count_le ':'
  have hopen := h.sublist.count_le '['
  have hslash := h.sublist.count_le '\\'
  simp only [weight]
  omega

/-- Without a backslash that is taken away a text weighs less. -/
theorem weight_unescape (cs : List Char) :
    weight (unescape cs) ≤ weight cs ∧
      (unescape cs ≠ cs → weight (unescape cs) + 2 ≤ weight cs) := by
  fun_induction unescape cs with
  | case1 => exact ⟨Nat.le_refl _, fun h => absurd rfl h⟩
  | case2 cs ih =>
      have hslash : weight ['\\'] = 4 := rfl
      rw [weight_cons '[', weight_cons '\\' ('[' :: cs), weight_cons '[' cs]
      omega
  | case3 c cs hother ih =>
      rw [weight_cons c, weight_cons c cs]
      refine ⟨by omega, fun h => ?_⟩
      have hne : unescape cs ≠ cs := fun heq => h (by rw [heq])
      have hrest := ih.2 hne
      omega

/-- With a picture in place of a name a text weighs less. -/
theorem weight_withPictures (cs : List Char) :
    weight (withPictures cs) ≤ weight cs ∧
      (withPictures cs ≠ cs → weight (withPictures cs) + 2 ≤ weight cs) := by
  induction hn : cs.length using Nat.strong_induction_on generalizing cs with
  | _ n ih =>
  subst hn
  cases cs with
  | nil => exact ⟨Nat.le_refl _, fun h => absurd rfl h⟩
  | cons c cs =>
      by_cases hname : c = ':' ∧ ∃ name, upToColon? cs = some name
      · obtain ⟨rfl, name, hname⟩ := hname
        obtain ⟨rest, rfl⟩ := upToColon?_eq_some hname
        have hshorter : rest.length < (':' :: (name ++ ':' :: rest)).length := by
          simp only [List.length_append, List.length_cons]
          omega
        obtain ⟨hle, hlt⟩ := ih rest.length hshorter rest rfl
        have hcolon : weight [':'] = 1 := rfl
        rw [withPictures_name hname, weight_cons ':' (name ++ ':' :: rest), weight_append name,
          weight_cons ':' rest, weight_append]
        cases hpicture : pictureOf? name with
        | some picture =>
            obtain ⟨hopen, hslash, hnone⟩ := bare_of_picture hpicture
            rw [Option.getD_some, weight_of_bare hopen hslash hnone]
            omega
        | none =>
            have hsame : weight (':' :: name ++ [':']) = weight name + 2 := by
              rw [List.cons_append, weight_cons, weight_append, hcolon]
              omega
            rw [Option.getD_none, hsame]
            refine ⟨by omega, fun h => ?_⟩
            have hne : withPictures rest ≠ rest := fun heq => h (by rw [heq]; simp)
            have hrest := hlt hne
            omega
      · have hnone : c = ':' → upToColon? cs = none := by
          intro hc
          cases hsome : upToColon? cs with
          | none => rfl
          | some name => exact absurd ⟨hc, name, hsome⟩ hname
        obtain ⟨hle, hlt⟩ := ih cs.length (Nat.lt_succ_self _) cs rfl
        rw [withPictures_cons hnone, weight_cons c, weight_cons c cs]
        refine ⟨by omega, fun h => ?_⟩
        have hne : withPictures cs ≠ cs := fun heq => h (by rw [heq])
        have hrest := hlt hne
        omega

/-! ## Stretches between tags -/

/-- What is visible of a stretch between tags. -/
def stretch (cs : List Char) : List Char := withPictures (unescape cs)

theorem weight_stretch_le (cs : List Char) : weight (stretch cs) ≤ weight cs :=
  (weight_withPictures _).1.trans (weight_unescape cs).1

/-- A stretch that is not visible as it stands weighs less. -/
theorem weight_stretch_lt {cs : List Char} (h : stretch cs ≠ cs) :
    weight (stretch cs) + 2 ≤ weight cs := by
  obtain ⟨hpictures, hpictured⟩ := weight_withPictures (unescape cs)
  obtain ⟨hslashes, hescaped⟩ := weight_unescape cs
  by_cases hsame : unescape cs = cs
  · rw [stretch, hsame] at h ⊢
    exact (weight_withPictures cs).2 h
  · have hless := hescaped hsame
    exact (Nat.add_le_add_right hpictures 2).trans hless

theorem stretch_of_bare {cs : List Char} (hopen : '[' ∉ cs) (hcolon : ':' ∉ cs) :
    stretch cs = cs := by
  rw [stretch, unescape_of_no_bracket hopen, withPictures_of_no_colon hcolon]

/-- Whether a text is taken for nothing but text. -/
def isLiteral (cs : List Char) : Bool := isUntagged cs && stretch cs == cs

theorem isLiteral_iff {cs : List Char} :
    isLiteral cs = true ↔ isUntagged cs = true ∧ stretch cs = cs := by
  rw [isLiteral, Bool.and_eq_true, beq_iff_eq]

/-- In front of a blank plain characters do not change how a text behind it is taken. -/
theorem isLiteral_behind {cs : List Char} (h : IsPlain cs) (text : List Char) :
    isLiteral (cs ++ ' ' :: text) = isLiteral text := by
  have hopen : '[' ∉ cs ++ [' '] := by simpa using h.bare
  have hlast : (cs ++ [' ']).getLast? ≠ some '\\' := by simp
  have huntagged := isUntagged_front hopen hlast text
  have hslashes := unescape_front hopen hlast text
  simp only [List.append_assoc, List.singleton_append] at huntagged hslashes
  have hstretch : stretch (cs ++ ' ' :: text) = cs ++ ' ' :: stretch text := by
    rw [stretch, hslashes, withPictures_append_blank (by decide) (by decide) h.pictureless]
    rfl
  rw [isLiteral, huntagged, hstretch, isLiteral]
  congr 1
  rw [Bool.eq_iff_iff, beq_iff_eq, beq_iff_eq, List.append_cancel_left_eq, List.cons.injEq]
  exact and_iff_right rfl

theorem IsPlain.isLiteral {cs : List Char} (h : IsPlain cs) : isLiteral cs = true :=
  isLiteral_iff.mpr ⟨isUntagged_of_no_bracket h.bare, h.shown_eq⟩

/-! ## What is visible -/

/-- What is visible of a piece, whatever tags are open. -/
def Piece.visible : Piece → List Char
  | .plain text => stretch text
  | .tag _ _ => []

/-- What is visible of a text, the first characters of which have been read. -/
def visibleFrom (position : Nat) (run cs : List Char) : List Char :=
  (piecesFrom position run 0 cs).flatMap Piece.visible

/-- If pieces can be shown, just what is visible of them is. -/
theorem visible_of_shown {tags : List Tag} {ps : List Piece} {text : List Char}
    (h : showPieces withPictures tags ps = .ok text) : text = ps.flatMap Piece.visible := by
  induction ps generalizing tags text with
  | nil =>
      cases h
      rfl
  | cons p ps ih =>
      cases p with
      | plain run =>
          rw [showPieces] at h
          cases hrest : showPieces withPictures tags ps with
          | error f =>
              rw [hrest] at h
              cases h
          | ok rest =>
              rw [hrest] at h
              cases h
              rw [List.flatMap_cons, ← ih hrest]
              rfl
      | tag t position =>
          rw [showPieces] at h
          split at h
          · cases h
          · exact ih h

theorem visible_plainBefore (text : List Char) (ps : List Piece) :
    (plainBefore text ps).flatMap Piece.visible =
      stretch text ++ ps.flatMap Piece.visible := by
  unfold plainBefore
  split
  · next h =>
    have hempty : text = [] := by simpa using h
    rw [hempty]
    rfl
  · rfl

theorem visibleFrom_nil (position : Nat) (run : List Char) :
    visibleFrom position run [] = stretch run.reverse := by
  have hpieces : piecesFrom position run 0 [] = plainBefore run.reverse [] := by rfl
  rw [visibleFrom, hpieces, visible_plainBefore]
  exact List.append_nil _

/-- Behind backslashes a tag leaves half of them, and itself if their number is odd. -/
theorem visibleFrom_tagAt {body : List Char} (h : IsTagBody body) (k position : Nat)
    (run rest : List Char) :
    visibleFrom position run (List.replicate k '\\' ++ '[' :: (body ++ ']' :: rest)) =
      stretch run.reverse ++ (List.replicate (k / 2) '\\' ++
        ((if k % 2 = 1 then stretch ('[' :: body ++ [']']) else []) ++
          visibleFrom (position + (k + body.length + 2)) [] rest)) := by
  have hslashes : stretch (List.replicate (k / 2) '\\') = List.replicate (k / 2) '\\' :=
    stretch_of_bare (by simp [List.mem_replicate]) (by simp [List.mem_replicate])
  rw [visibleFrom, piecesFrom_tagAt h, visible_plainBefore, visible_plainBefore, hslashes]
  by_cases hodd : k % 2 = 1
  · rw [if_pos hodd, if_pos hodd]
    rfl
  · rw [if_neg hodd, if_neg hodd]
    rfl

/-- Where no tag begins, a character is read. -/
theorem visibleFrom_cons {c : Char} {cs : List Char} (h : tagAt? (c :: cs) = none) (position : Nat)
    (run : List Char) :
    visibleFrom position run (c :: cs) = visibleFrom (position + 1) (c :: run) cs := by
  rw [visibleFrom, piecesFrom, h]
  rfl

/-- Of a tag its bracket is lost, or half of the backslashes before it. -/
theorem weight_visibleFrom_tagAt {body : List Char} (h : IsTagBody body) (k position : Nat)
    (run rest : List Char) :
    weight (visibleFrom position run (List.replicate k '\\' ++ '[' :: (body ++ ']' :: rest))) + 2 ≤
      weight run + weight (List.replicate k '\\' ++ '[' :: (body ++ [']'])) +
        weight (visibleFrom (position + (k + body.length + 2)) [] rest) := by
  have hread := weight_stretch_le run.reverse
  have hwhole := weight_stretch_le ('[' :: body ++ [']'])
  have hopen : weight ['['] = 2 := rfl
  rw [weight_reverse] at hread
  rw [List.cons_append, weight_cons '[' (body ++ [']'])] at hwhole
  rw [visibleFrom_tagAt h]
  simp only [weight_append, weight_slashes, weight_cons '[' (body ++ [']'])] at hwhole ⊢
  split
  · rw [List.cons_append]
    omega
  · have hnil : weight [] = 0 := rfl
    omega

/-! ## Losses -/

/-- What is lost at least, unless a text is taken for nothing but text. -/
def loss (isKept : Bool) : Nat := if isKept then 0 else 2

theorem loss_le (isKept : Bool) : loss isKept ≤ 2 := by
  cases isKept with
  | true => exact Nat.zero_le 2
  | false => exact Nat.le_refl 2

/-- Whether the rest of a text, behind characters that have been read, is taken for nothing but text
in front of other text. -/
def stands (run cs tail : List Char) : Bool :=
  isUntagged cs && stretch (run.reverse ++ cs) == run.reverse ++ cs &&
    (tail.isEmpty || cs.getLast? != some '\\')

theorem stands_nil_iff {cs tail : List Char} :
    stands [] cs tail = true ↔
      isLiteral cs = true ∧ (tail = [] ∨ cs.getLast? ≠ some '\\') := by
  simp only [stands, isLiteral, List.reverse_nil, List.nil_append, Bool.and_eq_true,
    Bool.or_eq_true, List.isEmpty_iff, bne_iff_ne]

theorem stands_cons {c : Char} {cs tail : List Char} (run : List Char)
    (hnone : tagAt? (c :: cs) = none) (hlone : tail ≠ [] → c :: cs ≠ ['\\']) :
    stands (c :: run) cs tail = stands run (c :: cs) tail := by
  have hlast : (tail.isEmpty || cs.getLast? != some '\\') =
      (tail.isEmpty || (c :: cs).getLast? != some '\\') := by
    by_cases htail : tail = []
    · rw [htail]
      rfl
    · cases cs with
      | nil =>
          have hc : (some c != some '\\') = true := by
            simpa using fun h => hlone htail (by rw [h])
          have hnil : (([] : List Char).getLast? != some '\\') = true := rfl
          rw [List.getLast?_singleton, hc, hnil]
      | cons d ds =>
          rw [List.getLast?_cons_cons]
  simp only [stands, isUntagged, hnone, hlast, List.reverse_cons, List.append_assoc,
    List.singleton_append, Option.isNone_none, Bool.true_and]

/-- What is visible of text that follows other text, at most: it weighs no more than a bound, and
less if something is lost in any case. -/
structure Follows (tail : List Char) (bound lost : Nat) : Prop where
  bracket : ∀ c ∈ tail.head?, c = '['
  visible : ∀ (position : Nat) (run : List Char),
    weight (visibleFrom position run tail) + lost ≤ weight (stretch run.reverse) + bound
  /-- Of backslashes before it some are lost too. -/
  escaped : tail ≠ [] → ∀ (k position : Nat) (run : List Char), 0 < k →
    weight (visibleFrom position run (List.replicate k '\\' ++ tail)) + lost + 2 ≤
      weight run + 4 * k + bound

theorem Follows.nil : Follows [] 0 0 := by
  constructor
  case bracket => simp
  case visible =>
    intro position run
    rw [visibleFrom_nil]
  case escaped => exact fun h => absurd rfl h

/-- A tag of a label: nothing but its bracket can be lost. -/
structure IsLabelTag (body : List Char) : Prop extends IsTagBody body where
  slash : '\\' ∉ body
  colon : ':' ∉ body

/-- What follows a tag of a label follows with the tag. -/
theorem Follows.tag {body rest : List Char} {bound lost : Nat} (hbody : IsLabelTag body)
    (h : ∀ position, weight (visibleFrom position [] rest) + lost ≤ bound) :
    Follows ('[' :: (body ++ ']' :: rest)) bound lost := by
  have hweight : weight (stretch ('[' :: body ++ [']'])) ≤ 2 := by
    refine (weight_stretch_le _).trans ?_
    rw [List.cons_append, weight_cons, weight_append,
      weight_of_bare hbody.bare hbody.slash hbody.colon]
    exact Nat.le_refl 2
  constructor
  case bracket => simp
  case visible =>
    intro position run
    have hrest := h (position + (0 + body.length + 2))
    have hvisible : visibleFrom position run ('[' :: (body ++ ']' :: rest)) =
        stretch run.reverse ++ visibleFrom (position + (0 + body.length + 2)) [] rest :=
      visibleFrom_tagAt hbody.toIsTagBody 0 position run rest
    rw [hvisible, weight_append]
    omega
  case escaped =>
    intro _ k position run hk
    have hrest := h (position + (k + body.length + 2))
    have hread := weight_stretch_le run.reverse
    rw [weight_reverse] at hread
    rw [visibleFrom_tagAt hbody.toIsTagBody]
    split
    · simp only [weight_append, weight_slashes]
      omega
    · simp only [weight_append, weight_slashes, List.nil_append]
      omega

/-- Where a text ends that has been read, something is lost unless it stands as it is. -/
theorem Follows.weight_nil {tail : List Char} {bound lost : Nat} (h : Follows tail bound lost)
    (position : Nat) (run : List Char) :
    weight (visibleFrom position run tail) + lost + loss (stands run [] tail) ≤
      weight run + bound := by
  have hafter := h.visible position run
  have hread := weight_stretch_le run.reverse
  rw [weight_reverse] at hread
  by_cases hstands : stretch run.reverse = run.reverse
  · have htrue : stands run [] tail = true := by simp [stands, isUntagged, hstands]
    rw [htrue]
    simp only [loss, if_true]
    omega
  · have hless := weight_stretch_lt hstands
    have hloss := loss_le (stands run [] tail)
    rw [weight_reverse] at hless
    omega

/-- What is visible of a text in front of other text weighs no more than the text, and less unless
the text is taken for nothing but text. -/
theorem Follows.weight_le {tail : List Char} {bound lost : Nat} (h : Follows tail bound lost)
    (cs : List Char) (position : Nat) (run : List Char) :
    weight (visibleFrom position run (cs ++ tail)) + lost + loss (stands run cs tail) ≤
      weight run + weight cs + bound := by
  induction hn : cs.length using Nat.strong_induction_on generalizing cs position run with
  | _ n ih =>
  subst hn
  have hloss := loss_le (stands run cs tail)
  cases cs with
  | nil => exact h.weight_nil position run
  | cons c cs =>
      cases htag : tagAt? (c :: cs) with
      | some t =>
          obtain ⟨k, body⟩ := t
          obtain ⟨rest, hcs, hbody⟩ := tagAt?_eq_some htag
          have hall : List.replicate k '\\' ++ '[' :: (body ++ ']' :: rest) =
              (List.replicate k '\\' ++ '[' :: (body ++ [']'])) ++ rest := by simp
          have hmore : (List.replicate k '\\' ++ '[' :: (body ++ ']' :: rest)) ++ tail =
              List.replicate k '\\' ++ '[' :: (body ++ ']' :: (rest ++ tail)) := by simp
          have hshorter : rest.length < (c :: cs).length := by
            rw [hcs, hall]
            simp only [List.length_append, List.length_cons]
            omega
          have hrest := ih rest.length hshorter rest (position + (k + body.length + 2)) [] rfl
          have htagged := weight_visibleFrom_tagAt hbody k position run (rest ++ tail)
          have hnil : weight [] = 0 := rfl
          rw [hcs, hall] at hloss
          rw [hcs, hmore, hall, weight_append _ rest]
          omega
      | none =>
          -- backslashes alone may turn out to stand before a tag of the other text
          by_cases hescapes : tail ≠ [] ∧ ∃ k, c :: cs = List.replicate k '\\'
          · obtain ⟨htail, k, hslashes⟩ := hescapes
            have hsome : 0 < k := by
              cases k with
              | zero => cases hslashes
              | succ k => omega
            have hescaped := h.escaped htail k position run hsome
            rw [hslashes] at hloss ⊢
            rw [weight_slashes]
            omega
          · have hnone : tagAt? (c :: (cs ++ tail)) = none := by
              rcases tagAt?_append_none h.bracket htag with hnone | hslashes
              · exact hnone
              · by_cases htail : tail = []
                · rwa [htail, List.append_nil]
                · exact absurd ⟨htail, hslashes⟩ hescapes
            have hsame := stands_cons run htag fun htail hlone =>
              hescapes ⟨htail, 1, hlone⟩
            have hrest := ih cs.length (Nat.lt_succ_self _) cs (position + 1) (c :: run) rfl
            rw [hsame, weight_cons c run] at hrest
            rw [List.cons_append, visibleFrom_cons hnone, weight_cons c cs]
            omega

end ScriptHost.Console
