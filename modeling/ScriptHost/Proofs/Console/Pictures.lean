import ScriptHost.Console.Panel

/-!
# Texts with pictures, and without

A picture takes the place of a name and the colons around it, and holds no colon, bracket or
backslash itself.  A text in which no colon begins a name has no pictures, and neither has a part of
it.  A blank ends every name, so pieces without pictures can be put together around blanks.

## Main results

* `withPictures_name`, `bare_of_picture` — a name with colons around it, and what takes its place.
* `withPictures_of_pictureless` — a text without pictures stays as it is.
-/

namespace ScriptHost.Console

/-! ## Names between colons -/

theorem upToColon?_eq_some {cs name : List Char} (h : upToColon? cs = some name) :
    ∃ rest, cs = name ++ ':' :: rest := by
  induction cs generalizing name with
  | nil => cases h
  | cons c cs ih =>
      rw [upToColon?] at h
      split at h
      · next hcolon =>
        cases h
        exact ⟨cs, by rw [hcolon]; rfl⟩
      · split at h
        · cases h
        · obtain ⟨inner, hinner, rfl⟩ := Option.map_eq_some_iff.mp h
          obtain ⟨rest, rfl⟩ := ih hinner
          exact ⟨rest, rfl⟩

theorem picturesFrom_skip (cs rest : List Char) :
    picturesFrom cs.length (cs ++ rest) = withPictures rest := by
  induction cs with
  | nil => rfl
  | cons c cs ih => rw [List.length_cons, List.cons_append, picturesFrom, ih]

/-- A name with colons around it gives way to its picture, or stays. -/
theorem withPictures_name {name rest : List Char}
    (h : upToColon? (name ++ ':' :: rest) = some name) :
    withPictures (':' :: (name ++ ':' :: rest)) =
      (pictureOf? name).getD (':' :: name ++ [':']) ++ withPictures rest := by
  have hskip := picturesFrom_skip (name ++ [':']) rest
  rw [List.length_append, List.length_singleton, List.append_assoc, List.singleton_append] at hskip
  rw [withPictures, picturesFrom, if_pos rfl, h]
  simp only [hskip]

theorem withPictures_cons {c : Char} {cs : List Char} (h : c = ':' → upToColon? cs = none) :
    withPictures (c :: cs) = c :: withPictures cs := by
  rw [withPictures, picturesFrom]
  split
  · next hcolon =>
    rw [h hcolon]
    rfl
  · rfl

/-- The pictures hold none of the characters that markup looks for. -/
theorem pictureTables_bare : ∀ names ∈ pictureTables, ∀ e ∈ names,
    '[' ∉ e.2 ∧ '\\' ∉ e.2 ∧ ':' ∉ e.2 := by decide +kernel

theorem mem_of_lookup {α β : Type} [BEq α] {a : α} {b : β} {l : List (α × β)}
    (h : l.lookup a = some b) : ∃ e ∈ l, e.2 = b := by
  induction l with
  | nil => cases h
  | cons e l ih =>
      rw [List.lookup_cons] at h
      split at h
      · cases h
        exact ⟨e, List.mem_cons_self, rfl⟩
      · obtain ⟨e', he', rfl⟩ := ih h
        exact ⟨e', List.mem_cons_of_mem e he', rfl⟩

theorem bare_of_picture {name picture : List Char} (h : pictureOf? name = some picture) :
    '[' ∉ picture ∧ '\\' ∉ picture ∧ ':' ∉ picture := by
  have hform : '[' ∉ (pictureForm name).2 ∧ '\\' ∉ (pictureForm name).2 ∧
      ':' ∉ (pictureForm name).2 := by
    unfold pictureForm
    split <;> dsimp only <;> decide
  obtain ⟨shape, hshape, rfl⟩ := Option.map_eq_some_iff.mp h
  obtain ⟨names, hnames, hname⟩ := List.exists_of_findSome?_eq_some hshape
  obtain ⟨e, he, rfl⟩ := mem_of_lookup hname
  have hbare := pictureTables_bare names hnames e he
  simp only [List.mem_append, not_or]
  exact ⟨⟨hbare.1, hform.1⟩, ⟨hbare.2.1, hform.2.1⟩, hbare.2.2, hform.2.2⟩

/-! ## Texts without pictures -/

/-- Whether no colon of a text begins the name of a picture. -/
def isPictureless : List Char → Bool
  | [] => true
  | c :: cs => !(c == ':' && (upToColon? cs).isSome) && isPictureless cs

theorem isPictureless_of_no_colon {cs : List Char} (h : ':' ∉ cs) : isPictureless cs = true := by
  induction cs with
  | nil => rfl
  | cons c cs ih =>
      rw [List.mem_cons, not_or] at h
      have hc : (c == ':') = false := by simpa using Ne.symm h.1
      rw [isPictureless, hc, ih h.2]
      rfl

theorem isPictureless_cons {c : Char} {cs : List Char} (h : isPictureless (c :: cs) = true) :
    (c = ':' → upToColon? cs = none) ∧ isPictureless cs = true := by
  rw [isPictureless, Bool.and_eq_true] at h
  refine ⟨fun hc => ?_, h.2⟩
  simpa [hc] using h.1

theorem withPictures_of_pictureless {cs : List Char} (h : isPictureless cs = true) :
    withPictures cs = cs := by
  induction cs with
  | nil => rfl
  | cons c cs ih =>
      rw [isPictureless, Bool.and_eq_true] at h
      have hrest : picturesFrom 0 cs = cs := ih h.2
      rw [withPictures, picturesFrom]
      by_cases hc : c = ':'
      · have hnone : upToColon? cs = none := by simpa [hc] using h.1
        rw [if_pos hc, hnone]
        simp only [hrest]
      · rw [if_neg hc, hrest]

/-- A name does not reach beyond a blank. -/
theorem upToColon?_append_blank {c : Char} (hc : Text.isBlank c = true) (hcolon : c ≠ ':')
    (cs ds : List Char) : upToColon? (cs ++ c :: ds) = upToColon? cs := by
  induction cs with
  | nil => simp [upToColon?, hcolon, hc]
  | cons e cs ih => rw [List.cons_append, upToColon?, upToColon?, ih]

theorem isPictureless_append_blank {c : Char} (hc : Text.isBlank c = true) (hcolon : c ≠ ':')
    (cs ds : List Char) :
    isPictureless (cs ++ c :: ds) = (isPictureless cs && isPictureless ds) := by
  induction cs with
  | nil => simp [isPictureless, hcolon]
  | cons e cs ih =>
      rw [List.cons_append, isPictureless, isPictureless, upToColon?_append_blank hc hcolon, ih,
        Bool.and_assoc]

/-- In front of a blank a text without pictures does not change what is shown behind it. -/
theorem withPictures_append_blank {c : Char} (hc : Text.isBlank c = true) (hcolon : c ≠ ':')
    {cs : List Char} (h : isPictureless cs = true) (ds : List Char) :
    withPictures (cs ++ c :: ds) = cs ++ c :: withPictures ds := by
  induction cs with
  | nil => exact withPictures_cons fun heq => absurd heq hcolon
  | cons e cs ih =>
      obtain ⟨hname, hrest⟩ := isPictureless_cons h
      have hname' : e = ':' → upToColon? (cs ++ c :: ds) = none := by
        rw [upToColon?_append_blank hc hcolon]
        exact hname
      rw [List.cons_append, withPictures_cons hname', ih hrest, List.cons_append]

/-! ## Parts -/

theorem upToColon?_append {cs name : List Char} (h : upToColon? cs = some name)
    (ds : List Char) : upToColon? (cs ++ ds) = some name := by
  induction cs generalizing name with
  | nil => cases h
  | cons c cs ih =>
      rw [upToColon?] at h
      rw [List.cons_append, upToColon?]
      split at h
      · next hcolon => rw [if_pos hcolon, h]
      · next hcolon =>
        rw [if_neg hcolon]
        split at h
        · cases h
        · next hblank =>
          obtain ⟨inner, hinner, rfl⟩ := Option.map_eq_some_iff.mp h
          rw [if_neg hblank, ih hinner]
          rfl

/-- A part of a text without pictures has none. -/
theorem isPictureless_of_append {cs ds : List Char} (h : isPictureless (cs ++ ds) = true) :
    isPictureless cs = true ∧ isPictureless ds = true := by
  induction cs with
  | nil => exact ⟨rfl, h⟩
  | cons c cs ih =>
      rw [List.cons_append] at h
      obtain ⟨hcolon, hrest⟩ := isPictureless_cons h
      refine ⟨?_, (ih hrest).2⟩
      rw [isPictureless, (ih hrest).1, Bool.and_true]
      by_cases hc : c = ':'
      · cases hname : upToColon? cs with
        | none => simp
        | some name =>
            have hnone := hcolon hc
            rw [upToColon?_append hname] at hnone
            cases hnone
      · simp [hc]

/-! ## Plain texts -/

/-- Whether a text is shown as it stands: it holds no bracket and no picture, and nothing in it
moves the cursor. -/
structure IsPlain (cs : List Char) : Prop where
  bare : '[' ∉ cs
  pictureless : isPictureless cs = true
  still : isStill cs = true

instance (cs : List Char) : Decidable (IsPlain cs) :=
  decidable_of_iff ('[' ∉ cs ∧ isPictureless cs = true ∧ isStill cs = true)
    ⟨fun ⟨hbare, hpictureless, hstill⟩ => ⟨hbare, hpictureless, hstill⟩,
      fun ⟨hbare, hpictureless, hstill⟩ => ⟨hbare, hpictureless, hstill⟩⟩

theorem IsPlain.shown_eq {cs : List Char} (h : IsPlain cs) : withPictures (unescape cs) = cs := by
  rw [unescape_of_no_bracket h.bare, withPictures_of_pictureless h.pictureless]

/-- Plain texts with a blank between them are plain. -/
theorem IsPlain.append_blank {c : Char} {cs ds : List Char} (hcs : IsPlain cs)
    (hds : IsPlain ds) (hc : Text.isBlank c = true) (hcolon : c ≠ ':') (hbracket : c ≠ '[')
    (hstill : isControl c = false) : IsPlain (cs ++ c :: ds) := by
  constructor
  case bare =>
    rw [List.mem_append, List.mem_cons, not_or, not_or]
    exact ⟨hcs.bare, Ne.symm hbracket, hds.bare⟩
  case pictureless =>
    rw [isPictureless_append_blank hc hcolon, hcs.pictureless, hds.pictureless]
    rfl
  case still =>
    rw [isStill_append, hcs.still, Bool.true_and, isStill, List.all_cons, hstill]
    exact hds.still

end ScriptHost.Console
