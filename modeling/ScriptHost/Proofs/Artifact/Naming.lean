import Mathlib.Data.List.Forall2
import ScriptHost.Proofs.Artifact.Spelling
import ScriptHost.Proofs.Text.Folding

/-!
# What the name of an artifact depends on

The name of an artifact is the last part of its path, and nothing else about the path counts: not
the directory in front of it, not the separators behind it or the blanks around all that, not which
of the two separators is written, and not the case of a letter.  So a path leads to one of the
host's own artifacts just if its last part as a whole folds to a reserved name.  A reserved name
that is a directory on the way does not make it one, nor does one that the last part only begins or
ends with.

Blanks are taken off before the path is cut.  A blank next to a separator is therefore part of a
name, and what may stand around a path without changing its name is said of names that do not begin
or end with a blank.

## Main results

* `nameChars_behind`, `nameChars_within` — the surroundings of a name.
* `name_of_plain` — the two separators, and the letters of ASCII.
* `name_eq_empty_iff` — the paths without a name.
* `spelling_law` — on what names and reservations depend.
-/

namespace ScriptHost

namespace Text

variable {isCut : Char → Bool}

/-! ## Texts that are spelled differently -/

theorem stripRight_map {f : Char → Char} (hf : ∀ c, isBlank (f c) = isBlank c) (cs : List Char) :
    stripRight (cs.map f) = (stripRight cs).map f := by
  induction cs with
  | nil => rfl
  | cons c cs ih =>
      rw [List.map_cons, stripRight, stripRight, ih, hf]
      cases stripRight cs with
      | nil => cases isBlank c <;> rfl
      | cons d ds => rfl

theorem stripChars_map {f : Char → Char} (hf : ∀ c, isBlank (f c) = isBlank c) (cs : List Char) :
    stripChars (cs.map f) = (stripChars cs).map f := by
  have hblank : isBlank ∘ f = isBlank := funext hf
  rw [stripChars, stripLeft, List.dropWhile_map, hblank, stripRight_map hf]
  rfl

theorem pieces_map {f : Char → Char} (hf : ∀ c, isCut (f c) = isCut c) (cs : List Char) :
    pieces isCut (cs.map f) = (pieces isCut cs).map (List.map f) := by
  induction cs with
  | nil => rfl
  | cons c cs ih =>
      rw [List.map_cons, pieces, pieces, ih, hf]
      cases isCut c with
      | true => rfl
      | false =>
          cases pieces isCut cs with
          | nil => rfl
          | cons piece rest => rfl

/-! ## Texts without blanks at their ends -/

/-- Whether a text neither begins nor ends with a blank. -/
structure IsTrimmed (cs : List Char) : Prop where
  first : ∀ c ∈ cs.head?, isBlank c = false
  last : ∀ c ∈ cs.getLast?, isBlank c = false

theorem stripChars_of_trimmed {cs : List Char} (h : IsTrimmed cs) : stripChars cs = cs := by
  by_cases hnil : cs = []
  · rw [hnil]
    rfl
  · have hleft : stripLeft cs = cs := by
      obtain ⟨c, rest, rfl⟩ := List.exists_cons_of_ne_nil hnil
      have hc : isBlank c = false := h.first c rfl
      simp [stripLeft, hc]
    have hcut := List.dropLast_concat_getLast hnil
    have hlast : isBlank (cs.getLast hnil) = false := h.last _ (List.getLast_mem_getLast? hnil)
    rw [stripChars, hleft, ← hcut]
    exact stripRight_concat hlast _

end Text

namespace Artifact

/-! ## The surroundings of a name -/

/-- Whether a path is a name as it may stand behind a directory or between blanks: it neither begins
nor ends with a blank, and there is something else in it than separators. -/
structure IsBare (cs : List Char) : Prop where
  trimmed : Text.IsTrimmed cs
  named : ∃ c ∈ cs, isSeparator c = false

theorem IsBare.ne_nil {cs : List Char} (h : IsBare cs) : cs ≠ [] := by
  obtain ⟨c, hc, -⟩ := h.named
  exact List.ne_nil_of_mem hc

/-- A path with something else in it than separators has a part that is not empty. -/
theorem exists_piece {cs : List Char} (h : ∃ c ∈ cs, isSeparator c = false) :
    ∃ p ∈ Text.pieces isSeparator cs, p ≠ [] := by
  obtain ⟨before, part, separators, ⟨rfl, hdirectory, hpart, hseparators⟩, hempty⟩ := exists_cut cs
  have hne : part ≠ [] := by
    rintro rfl
    obtain ⟨c, hc, hno⟩ := h
    rw [hempty rfl, List.nil_append, List.nil_append] at hc
    rw [hseparators c hc] at hno
    cases hno
  have hlast := lastPiece_of_cut ⟨rfl, hdirectory, hpart, hseparators⟩ hne
  rw [lastPiece] at hlast
  cases hfound : ((Text.pieces isSeparator (before ++ (part ++ separators))).filter
      fun p => !p.isEmpty).getLast? with
  | none =>
      rw [hfound] at hlast
      exact absurd hlast.symm hne
  | some piece =>
      obtain ⟨hmem, hnonempty⟩ := List.mem_filter.mp (List.mem_of_getLast? hfound)
      exact ⟨piece, hmem, by simpa using hnonempty⟩

theorem lastPiece_directory {before cs : List Char} (h : IsDirectory before)
    (hpart : ∃ c ∈ cs, isSeparator c = false) : lastPiece (before ++ cs) = lastPiece cs := by
  rcases h with rfl | ⟨front, s, rfl, hs⟩
  · rfl
  · rw [List.append_assoc, List.singleton_append]
    exact lastPiece_append_separator front cs hs (exists_piece hpart)

theorem lastPiece_append_separators (cs : List Char) {separators : List Char}
    (h : ∀ c ∈ separators, isSeparator c = true) : lastPiece (cs ++ separators) = lastPiece cs := by
  cases separators with
  | nil => rw [List.append_nil]
  | cons s separators =>
      have hs : isSeparator s = true := h s List.mem_cons_self
      have hrest := filter_pieces_of_separators fun c hc => h c (List.mem_cons_of_mem s hc)
      rw [lastPiece, Text.pieces_append_cut cs hs, List.filter_append, hrest, List.append_nil]
      rfl

/-- A name behind a directory is the name. -/
theorem nameChars_behind (before : List Char) {s : Char} (hs : isSeparator s = true)
    {cs : List Char} (h : IsBare cs) : nameChars (before ++ [s] ++ cs) = nameChars cs := by
  obtain ⟨before', hdirectory, hstrip⟩ := stripChars_directory (.inr ⟨before, s, rfl, hs⟩)
    h.trimmed.first h.trimmed.last h.ne_nil
  rw [nameChars, nameChars, hstrip, Text.stripChars_of_trimmed h.trimmed]
  exact lastPiece_directory hdirectory h.named

/-- A name with separators behind it and with blanks around all that is the name. -/
theorem nameChars_within {lead cs separators trail : List Char} (h : IsBare cs)
    (hlead : ∀ c ∈ lead, Text.isBlank c = true)
    (hseparators : ∀ c ∈ separators, isSeparator c = true)
    (htrail : ∀ c ∈ trail, Text.isBlank c = true) :
    nameChars (lead ++ cs ++ separators ++ trail) = nameChars cs := by
  have htrimmed : Text.IsTrimmed (cs ++ separators) := by
    constructor
    case first =>
      rw [List.head?_append_of_ne_nil _ h.ne_nil]
      exact h.trimmed.first
    case last =>
      intro c hc
      rw [List.getLast?_append] at hc
      cases hlast : separators.getLast? with
      | none =>
          rw [hlast] at hc
          exact h.trimmed.last c hc
      | some s =>
          rw [hlast, Option.some_or] at hc
          cases hc
          exact not_blank_of_separator (hseparators _ (List.mem_of_getLast? hlast))
  rw [nameChars, nameChars, Text.stripChars_append_blanks _ htrail, List.append_assoc,
    Text.stripChars_blanks_append _ hlead, Text.stripChars_of_trimmed htrimmed,
    Text.stripChars_of_trimmed h.trimmed]
  exact lastPiece_append_separators cs hseparators

/-! ## Separators and letters -/

/-- A character as it is written in the plain spelling of a path: one separator, and small letters
of ASCII. -/
def plain (c : Char) : Char := if isSeparator c then '/' else c.toLower

theorem isSeparator_toLower (c : Char) : isSeparator c.toLower = isSeparator c := by
  by_cases hcapital : 0x41 ≤ c.toNat ∧ c.toNat ≤ 0x5a
  · have hno : ∀ d : Char, 0x41 ≤ d.toNat → d.toNat ≠ 0x5c → isSeparator d = false := by
      intro d hlow hother
      simp only [isSeparator, Bool.or_eq_false_iff, beq_eq_false_iff_ne]
      constructor
      · rintro rfl
        exact absurd hlow (by decide)
      · rintro rfl
        exact hother rfl
    have hsmall : c.toLower.toNat = c.toNat + 0x20 :=
      (Text.toNat_toLower c).trans (if_pos hcapital)
    rw [hno c hcapital.1 (by omega), hno c.toLower (by omega) (by omega)]
  · rw [Text.toLower_of_not_capital hcapital]

theorem isSeparator_plain (c : Char) : isSeparator (plain c) = isSeparator c := by
  unfold plain
  split
  · next hs => exact hs.symm
  · exact isSeparator_toLower c

theorem isBlank_plain (c : Char) : Text.isBlank (plain c) = Text.isBlank c := by
  unfold plain
  split
  · next hs => exact (not_blank_of_separator hs).symm
  · exact Text.isBlank_toLower c

theorem nameChars_plain (cs : List Char) : nameChars (cs.map plain) = (nameChars cs).map plain := by
  have hempty : (fun p : List Char => !p.isEmpty) ∘ List.map plain = fun p => !p.isEmpty := by
    funext p
    cases p <;> rfl
  rw [nameChars, nameChars, Text.stripChars_map isBlank_plain, lastPiece, lastPiece,
    Text.pieces_map isSeparator_plain, List.filter_map, hempty, List.getLast?_map]
  cases ((Text.pieces isSeparator (Text.stripChars cs)).filter fun p => !p.isEmpty).getLast? <;> rfl

/-- Names in plain spelling fold as they do in any other. -/
theorem foldChars_plain {cs : List Char} (h : ∀ c ∈ cs, isSeparator c = false) :
    Text.foldChars (cs.map plain) = Text.foldChars cs := by
  rw [Text.foldChars, Text.foldChars, List.flatMap_map]
  refine List.flatMap_congr fun c hc => ?_
  rw [plain, if_neg (Bool.eq_false_iff.mp (h c hc)), Text.foldChar_toLower]

theorem toList_name (path : String) :
    (name path).toList = Text.foldChars (nameChars path.toList) := by
  rw [name, Text.fold, String.toList_ofList, String.toList_ofList]

/-- The name of an artifact is that of its path in plain spelling. -/
theorem name_of_plain {p q : String} (h : p.toList.map plain = q.toList.map plain) :
    name p = name q := by
  have hfold : ∀ path : String,
      (name path).toList = Text.foldChars (nameChars (path.toList.map plain)) := by
    intro path
    rw [toList_name, nameChars_plain, foldChars_plain (nameChars_no_separator _)]
  rw [← String.toList_inj, hfold, hfold, h]

/-- Whether one character may stand for another in a path: both are separators, or they are the same
but for the case of a letter of ASCII. -/
def MayReplace (c d : Char) : Prop :=
  (isSeparator c = true ∧ isSeparator d = true) ∨ c.toLower = d.toLower

theorem plain_of_mayReplace {c d : Char} (h : MayReplace c d) : plain c = plain d := by
  rcases h with ⟨hc, hd⟩ | hlower
  · rw [plain, plain, if_pos hc, if_pos hd]
  · have hsame : isSeparator c = isSeparator d := by
      rw [← isSeparator_toLower c, hlower, isSeparator_toLower d]
    rw [plain, plain, hsame, hlower]

/-! ## What names are like -/

theorem isSeparator_of_mem_foldChar {c d : Char} (h : d ∈ Text.foldChar c)
    (hd : isSeparator d = true) : isSeparator c = true := by
  rcases Text.mem_foldChar h with rfl | hbehind
  · exact hd
  · simp only [isSeparator, Bool.or_eq_true, beq_iff_eq] at hd
    rcases hd with rfl | rfl
    · exact absurd hbehind (by decide)
    · exact absurd hbehind (by decide)

/-- No separator is left in a name. -/
theorem name_no_separator (path : String) : ∀ c ∈ (name path).toList, isSeparator c = false := by
  intro c hc
  rw [toList_name] at hc
  obtain ⟨d, hd, hcd⟩ := List.mem_flatMap.mp hc
  have hno := nameChars_no_separator path.toList d hd
  cases hs : isSeparator c with
  | false => rfl
  | true =>
      rw [isSeparator_of_mem_foldChar hcd hs] at hno
      cases hno

/-- The last part of a path is empty just if there is nothing in it but separators. -/
theorem lastPiece_eq_nil_iff {cs : List Char} :
    lastPiece cs = [] ↔ ∀ c ∈ cs, isSeparator c = true := by
  constructor
  · intro hnil
    obtain ⟨before, part, separators, hcut, hempty⟩ := exists_cut cs
    have hpart : part = [] := by
      by_contra hne
      exact hne ((lastPiece_of_cut hcut hne).symm.trans hnil)
    obtain ⟨rfl, -, -, hseparators⟩ := hcut
    rw [hempty hpart, hpart, List.nil_append, List.nil_append]
    exact hseparators
  · intro h
    rw [lastPiece, filter_pieces_of_separators h]
    rfl

/-- A path has no name just if there is nothing but separators between the blanks at its ends. -/
theorem name_eq_empty_iff {path : String} :
    name path = "" ↔ ∀ c ∈ Text.stripChars path.toList, isSeparator c = true := by
  rw [← lastPiece_eq_nil_iff, ← Text.foldChars_eq_nil_iff, ← String.toList_inj, toList_name]
  rfl

/-- A path with a name has a last part that is not empty. -/
theorem exists_cut_of_name {path : String} (h : name path ≠ "") :
    ∃ before part separators,
      Cut (Text.stripChars path.toList) before part separators ∧ part ≠ [] := by
  obtain ⟨before, part, separators, hcut, hempty⟩ := exists_cut (Text.stripChars path.toList)
  refine ⟨before, part, separators, hcut, ?_⟩
  rintro rfl
  obtain ⟨heq, -, -, hseparators⟩ := hcut
  rw [hempty rfl, List.nil_append, List.nil_append] at heq
  exact h (name_eq_empty_iff.mpr (heq ▸ hseparators))

/-- The name of an artifact is the folding of the last part of its path that is not empty. -/
theorem name_of_cut {path : String} {before part separators : List Char}
    (h : Cut (Text.stripChars path.toList) before part separators) (hne : part ≠ []) :
    name path = Text.fold (String.ofList part) := by
  rw [name, nameChars, lastPiece_of_cut h hne]

/-! ## Reserved names -/

theorem isReservedPath_iff_name {path : String} :
    isReservedPath path = true ↔ name path ∈ reserved := by
  rw [isReservedPath, List.contains_iff_mem]

/-- A path leads to one of the host's own artifacts just if its last part that is not empty folds to
a reserved name. -/
theorem isReservedPath_iff_cut {path : String} :
    isReservedPath path = true ↔ ∃ before part separators,
      Cut (Text.stripChars path.toList) before part separators ∧ part ≠ [] ∧
        Text.fold (String.ofList part) ∈ reserved := by
  rw [isReservedPath_iff_name]
  constructor
  · intro h
    have hname : name path ≠ "" := by
      intro hnone
      rw [hnone] at h
      exact absurd h (by decide)
    obtain ⟨before, part, separators, hcut, hne⟩ := exists_cut_of_name hname
    exact ⟨before, part, separators, hcut, hne, name_of_cut hcut hne ▸ h⟩
  · rintro ⟨before, part, separators, hcut, hne, h⟩
    rw [name_of_cut hcut hne]
    exact h

theorem fold_append (a b : List Char) :
    Text.fold (String.ofList (a ++ b)) =
      Text.fold (String.ofList a) ++ Text.fold (String.ofList b) := by
  simp [Text.fold, Text.foldChars_append]

theorem fold_eq_empty_iff {cs : List Char} : Text.fold (String.ofList cs) = "" ↔ cs = [] := by
  rw [← Text.foldChars_eq_nil_iff, ← String.toList_inj]
  simp [Text.fold]

/-- A text that goes on behind one of the reserved names is reserved only if it goes on to be the
other one. -/
theorem append_mem_reserved_iff {front rest : String} (h : front ∈ reserved) (hne : rest ≠ "") :
    front ++ rest ∈ reserved ↔ front = "scriptcore" ∧ rest = "_contracts" := by
  have hrest : 0 < rest.toList.length := by
    rw [List.length_pos_iff]
    exact fun hnil => hne (String.toList_inj.mp hnil)
  have hlong : "scriptcore_contracts" ++ rest ∉ reserved := by
    intro hmem
    simp only [reserved, List.mem_cons, List.not_mem_nil, or_false] at hmem
    rcases hmem with heq | heq <;>
    · have hlength := congrArg (fun s => s.toList.length) heq
      simp only [String.toList_append, List.length_append] at hlength
      have : "scriptcore_contracts".toList.length = 20 := by decide
      have : "scriptcore".toList.length = 10 := by decide
      omega
  simp only [reserved, List.mem_cons, List.not_mem_nil, or_false] at h
  rcases h with rfl | rfl
  · have hcut : "scriptcore_contracts" = "scriptcore" ++ "_contracts" := by decide
    simp only [reserved, List.mem_cons, List.not_mem_nil, or_false, true_and]
    constructor
    · rintro (heq | heq)
      · have hlength := congrArg (fun s => s.toList.length) heq
        simp only [String.toList_append, List.length_append] at hlength
        omega
      · rw [hcut, ← String.toList_inj, String.toList_append, String.toList_append] at heq
        exact String.toList_inj.mp (List.append_cancel_left heq)
    · rintro rfl
      exact .inr hcut.symm
  · exact iff_of_false hlong fun hsame => absurd hsame.1 (by decide)

/-- A text that ends with a reserved name and is longer is not reserved. -/
theorem append_not_mem_reserved {front rest : String} (h : rest ∈ reserved) (hne : front ≠ "") :
    front ++ rest ∉ reserved := by
  have hfront : 0 < front.toList.length := by
    rw [List.length_pos_iff]
    exact fun hnil => hne (String.toList_inj.mp hnil)
  intro hmem
  have hend : ∀ word : String, front ++ rest = word →
      rest.toList = word.toList.drop (word.toList.length - rest.toList.length) ∧
        rest.toList.length < word.toList.length := by
    rintro word rfl
    rw [String.toList_append, List.length_append, Nat.add_sub_cancel, List.drop_left]
    exact ⟨rfl, by omega⟩
  simp only [reserved, List.mem_cons, List.not_mem_nil, or_false] at h hmem
  rcases h with rfl | rfl <;> rcases hmem with heq | heq
  · exact absurd (hend _ heq).2 (by decide)
  · exact absurd (hend _ heq).1 (by decide)
  · exact absurd (hend _ heq).2 (by decide)
  · exact absurd (hend _ heq).2 (by decide)

/-! ## The law -/

/-- The ways to spell one path as another without touching its name. -/
inductive Respelling : String → String → Prop where
  /-- A directory, whatever it is, stands in front of a name. -/
  | behind (directory : String) {s : Char} {n : String} (separator : isSeparator s = true)
      (bare : IsBare n.toList) : Respelling (directory ++ String.singleton s ++ n) n
  /-- Separators stand behind a name, and blanks around all that. -/
  | within {lead n separators trail : String} (bare : IsBare n.toList)
      (leading : ∀ c ∈ lead.toList, Text.isBlank c = true)
      (closing : ∀ c ∈ separators.toList, isSeparator c = true)
      (trailing : ∀ c ∈ trail.toList, Text.isBlank c = true) :
      Respelling (lead ++ n ++ separators ++ trail) n
  /-- Separators are exchanged for each other, or the case of letters of ASCII. -/
  | exchanged {p q : String} (each : List.Forall₂ MayReplace p.toList q.toList) : Respelling p q

theorem name_of_respelling {p q : String} (h : Respelling p q) : name p = name q := by
  cases h with
  | behind directory hs hbare =>
      rw [← String.toList_inj, toList_name, toList_name]
      simp only [String.toList_append, String.toList_singleton]
      rw [nameChars_behind _ hs hbare]
  | within hbare hlead hseparators htrail =>
      rw [← String.toList_inj, toList_name, toList_name]
      simp only [String.toList_append]
      rw [nameChars_within hbare hlead hseparators htrail]
  | exchanged heach =>
      refine name_of_plain ?_
      rw [← List.forall₂_eq_eq_eq, List.forall₂_map_left_iff, List.forall₂_map_right_iff]
      exact heach.imp fun _ _ hmay => plain_of_mayReplace hmay

/-- Wherever the packages of the host lie, its own artifacts have the reserved names. -/
theorem reserved_eq (home : String) : reserved = [name (core home), name (contracts home)] := by
  have hbehind : ∀ n ∈ reserved, name (home ++ "/" ++ n) = n := by
    intro n hn
    have hbare : ∀ n ∈ reserved, IsBare n.toList ∧ name n = n := by
      intro n hn
      simp only [reserved, List.mem_cons, List.not_mem_nil, or_false] at hn
      rcases hn with rfl | rfl
      · exact ⟨⟨⟨by rintro _ ⟨⟩; rfl, by rintro _ ⟨⟩; rfl⟩, 's', by decide, by decide⟩,
          by decide +kernel⟩
      · exact ⟨⟨⟨by rintro _ ⟨⟩; rfl, by rintro _ ⟨⟩; rfl⟩, 's', by decide, by decide⟩,
          by decide +kernel⟩
    obtain ⟨hbare, hname⟩ := hbare n hn
    have hslash : isSeparator '/' = true := rfl
    exact (name_of_respelling (.behind home hslash hbare)).trans hname
  have hcore : core home = home ++ "/" ++ "scriptcore" := by
    rw [core, String.append_assoc]
    rfl
  have hcontracts : contracts home = home ++ "/" ++ "scriptcore_contracts" := by
    rw [contracts, String.append_assoc]
    rfl
  rw [hcore, hcontracts, hbehind _ (by decide), hbehind _ (by decide)]
  rfl

/-- On what the names of artifacts depend, and which paths are reserved. -/
structure SpellingLaw : Prop where
  /-- A path that is spelled in another way has the same name, and is reserved or not as before. -/
  respelled : ∀ p q, Respelling p q → name p = name q ∧ isReservedPath p = isReservedPath q
  /-- No separator is left in a name. -/
  separators : ∀ path, ∀ c ∈ (name path).toList, isSeparator c = false
  /-- Without a name are just the paths with nothing but separators between the blanks at their
  ends. -/
  nameless : ∀ path, name path = "" ↔ ∀ c ∈ Text.stripChars path.toList, isSeparator c = true
  /-- Any other path has a last part that is not empty, and its name is the folding of that part. -/
  named : ∀ path, name path ≠ "" → ∃ before part separators,
    Cut (Text.stripChars path.toList) before part separators ∧ part ≠ []
  last : ∀ path before part separators,
    Cut (Text.stripChars path.toList) before part separators → part ≠ [] →
      name path = Text.fold (String.ofList part)
  /-- The reserved names are those of the host's own artifacts. -/
  own : ∀ home, reserved = [name (core home), name (contracts home)]
  /-- A path is reserved just if its last part that is not empty folds to one of them. -/
  reserved_iff : ∀ path, isReservedPath path = true ↔ ∃ before part separators,
    Cut (Text.stripChars path.toList) before part separators ∧ part ≠ [] ∧
      Text.fold (String.ofList part) ∈ reserved
  /-- It does not count what stands in front of that part, a reserved name or anything else. -/
  directory : ∀ path before part separators,
    Cut (Text.stripChars path.toList) before part separators → part ≠ [] →
      (isReservedPath path = true ↔ Text.fold (String.ofList part) ∈ reserved)
  /-- A part that goes on behind a reserved name is reserved only if both together are the other
  one. -/
  beginning : ∀ path before front rest separators,
    Cut (Text.stripChars path.toList) before (front ++ rest) separators →
      Text.fold (String.ofList front) ∈ reserved → rest ≠ [] →
        (isReservedPath path = true ↔ Text.fold (String.ofList front) = "scriptcore" ∧
          Text.fold (String.ofList rest) = "_contracts")
  /-- A part that ends with a reserved name and is longer is not reserved. -/
  ending : ∀ path before front rest separators,
    Cut (Text.stripChars path.toList) before (front ++ rest) separators → front ≠ [] →
      Text.fold (String.ofList rest) ∈ reserved → isReservedPath path = false

/-- Names of artifacts and reservations obey the law. -/
theorem spelling_law : SpellingLaw := by
  have hdirectory : ∀ path before part separators,
      Cut (Text.stripChars path.toList) before part separators → part ≠ [] →
        (isReservedPath path = true ↔ Text.fold (String.ofList part) ∈ reserved) := by
    intro path before part separators hcut hne
    rw [isReservedPath_iff_name, name_of_cut hcut hne]
  constructor
  case respelled =>
    intro p q h
    have hname := name_of_respelling h
    exact ⟨hname, by rw [isReservedPath, isReservedPath, hname]⟩
  case separators => exact name_no_separator
  case nameless => exact fun path => name_eq_empty_iff
  case named => exact fun path => exists_cut_of_name
  case last => exact fun path before part separators hcut hne => name_of_cut hcut hne
  case own => exact reserved_eq
  case reserved_iff => exact fun path => isReservedPath_iff_cut
  case directory => exact hdirectory
  case beginning =>
    intro path before front rest separators hcut hfront hne
    rw [hdirectory path before _ separators hcut (List.append_ne_nil_of_right_ne_nil front hne),
      fold_append]
    exact append_mem_reserved_iff hfront fun hnil => hne (fold_eq_empty_iff.mp hnil)
  case ending =>
    intro path before front rest separators hcut hne hrest
    rw [← Bool.not_eq_true,
      hdirectory path before _ separators hcut (List.append_ne_nil_of_left_ne_nil hne rest),
      fold_append]
    exact append_not_mem_reserved hrest fun hnil => hne (fold_eq_empty_iff.mp hnil)

example : isReservedPath " C:\\libs/ScriptCore\\/\t" = true ∧
    isReservedPath "/scriptcore/Dapper.dll" = false := by decide +kernel

end Artifact

end ScriptHost
