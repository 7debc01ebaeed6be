import ScriptHost.Artifact

/-!
# Spellings of an artifact

The name of an artifact is read off a path by cutting the path into its pieces.  Here it is said the
other way round, which spellings a name has: any directory may stand in front of it, separators
behind it and blanks around all that, in any case.  A path that spells one of the reserved names in
any of these ways, and no other, is taken for one of the host's own.

## Main results

* `lastPiece_of_cut`, `exists_cut` — the last part of a path, and that there is one.
* `isReservedPath_iff` — the paths of the host's own artifacts are the spellings of their names.
-/

namespace ScriptHost

namespace Text

variable {isCut : Char → Bool}

/-- Between cuts in a row lie empty pieces. -/
theorem pieces_of_cuts {cs : List Char} (h : ∀ c ∈ cs, isCut c = true) :
    ∀ piece ∈ pieces isCut cs, piece = [] := by
  induction cs with
  | nil => simp [pieces]
  | cons c cs ih =>
      have hc : isCut c = true := h c List.mem_cons_self
      intro piece hpiece
      rw [pieces, if_pos hc] at hpiece
      rcases List.mem_cons.mp hpiece with rfl | hpiece
      · rfl
      · exact ih (fun d hd => h d (List.mem_cons_of_mem c hd)) piece hpiece

/-! ## Blanks -/

/-- The blanks that are not ASCII. -/
def wideBlanks : List Nat :=
  [0x85, 0xa0, 0x1680, 0x2000, 0x2001, 0x2002, 0x2003, 0x2004, 0x2005, 0x2006, 0x2007, 0x2008,
    0x2009, 0x200a, 0x2028, 0x2029, 0x202f, 0x205f, 0x3000]

theorem mem_wideBlanks {c : Char} (h : isBlank c = true) (hwide : ¬ c.toNat < 0x80) :
    c.toNat ∈ wideBlanks := by
  simp only [isBlank, Bool.or_eq_true, Bool.and_eq_true, decide_eq_true_eq, beq_iff_eq] at h
  simp only [wideBlanks, List.mem_cons, List.not_mem_nil, or_false]
  omega

theorem foldChar_wideBlanks :
    ∀ n ∈ wideBlanks, foldChar (Char.ofNat n) = [Char.ofNat n] := by
  decide +kernel

/-- A character below 128 that is no capital is its own folding. -/
theorem foldChar_self {c : Char} (hlt : c.toNat < 0x80)
    (hcapital : c.toNat < 0x41 ∨ 0x5a < c.toNat) : foldChar c = [c] := by
  have hlower : lowerAscii c.toNat = c.toNat := by
    rw [lowerAscii, if_neg]
    omega
  rw [foldChar_of_lt hlt, hlower, Char.ofNat_toNat]

/-- A blank is its own folding. -/
theorem foldChar_blank {c : Char} (h : isBlank c = true) : foldChar c = [c] := by
  by_cases hlt : c.toNat < 0x80
  · refine foldChar_self hlt (.inl ?_)
    simp only [isBlank, Bool.or_eq_true, Bool.and_eq_true, decide_eq_true_eq, beq_iff_eq] at h
    omega
  · have hfold := foldChar_wideBlanks c.toNat (mem_wideBlanks h hlt)
    rwa [Char.ofNat_toNat] at hfold

theorem stripRight_concat {c : Char} (h : isBlank c = false) (cs : List Char) :
    stripRight (cs ++ [c]) = cs ++ [c] := by
  induction cs with
  | nil => simp [stripRight, h]
  | cons d cs ih =>
      rw [List.cons_append, stripRight, ih]
      cases cs <;> rfl

/-- A text is what is left of it between the blanks at its right end. -/
theorem exists_stripRight (cs : List Char) :
    ∃ trail, cs = stripRight cs ++ trail ∧ ∀ c ∈ trail, isBlank c = true := by
  induction cs with
  | nil => exact ⟨[], rfl, nofun⟩
  | cons c cs ih =>
      obtain ⟨trail, heq, htrail⟩ := ih
      rw [stripRight]
      cases hstrip : stripRight cs with
      | cons d ds =>
          refine ⟨trail, ?_, htrail⟩
          rw [hstrip] at heq
          exact congrArg (c :: ·) heq
      | nil =>
          rw [hstrip, List.nil_append] at heq
          cases hc : isBlank c with
          | false =>
              refine ⟨trail, ?_, htrail⟩
              rw [heq]
              rfl
          | true =>
              refine ⟨c :: trail, ?_, ?_⟩
              · rw [heq]
                rfl
              · intro d hd
                rcases List.mem_cons.mp hd with rfl | hd
                · exact hc
                · exact htrail d hd

/-- A text is what is left of it between the blanks at its ends. -/
theorem exists_strip (cs : List Char) :
    ∃ lead trail, cs = lead ++ stripChars cs ++ trail ∧ (∀ c ∈ lead, isBlank c = true) ∧
      ∀ c ∈ trail, isBlank c = true := by
  obtain ⟨trail, heq, htrail⟩ := exists_stripRight (stripLeft cs)
  refine ⟨cs.takeWhile isBlank, trail, ?_, ?_, htrail⟩
  · rw [List.append_assoc, stripChars, ← heq, stripLeft, List.takeWhile_append_dropWhile]
  · intro c hc
    exact List.all_eq_true.mp List.all_takeWhile c hc

end Text

namespace Artifact

/-! ## The last part of a path -/

/-- Whether a text may stand in front of the last part of a path. -/
def IsDirectory (before : List Char) : Prop :=
  before = [] ∨ ∃ front s, before = front ++ [s] ∧ isSeparator s = true

theorem IsDirectory.cons {before : List Char} (h : IsDirectory before) (hne : before ≠ [])
    (c : Char) : IsDirectory (c :: before) := by
  rcases h with rfl | ⟨front, s, rfl, hs⟩
  · exact absurd rfl hne
  · exact .inr ⟨c :: front, s, rfl, hs⟩

/-- A path cut into what stands in front of its last part, that part, and the separators at its
end. -/
structure Cut (path before part separators : List Char) : Prop where
  eq : path = before ++ (part ++ separators)
  directory : IsDirectory before
  part : ∀ c ∈ part, isSeparator c = false
  separators : ∀ c ∈ separators, isSeparator c = true

/-- Every path has a last part, which is empty only if there is nothing but separators. -/
theorem exists_cut (path : List Char) :
    ∃ before part separators, Cut path before part separators ∧ (part = [] → before = []) := by
  induction path with
  | nil => exact ⟨[], [], [], ⟨rfl, .inl rfl, nofun, nofun⟩, fun _ => rfl⟩
  | cons c path ih =>
      obtain ⟨before, part, separators, ⟨rfl, hdirectory, hpart, hseparators⟩, hempty⟩ := ih
      by_cases hbefore : before = []
      · subst hbefore
        cases hc : isSeparator c with
        | false =>
            refine ⟨[], c :: part, separators, ⟨rfl, .inl rfl, ?_, hseparators⟩, nofun⟩
            intro d hd
            rcases List.mem_cons.mp hd with rfl | hd
            · exact hc
            · exact hpart d hd
        | true =>
            by_cases hnil : part = []
            · subst hnil
              refine ⟨[], [], c :: separators, ⟨rfl, .inl rfl, nofun, ?_⟩, fun _ => rfl⟩
              intro d hd
              rcases List.mem_cons.mp hd with rfl | hd
              · exact hc
              · exact hseparators d hd
            · exact ⟨[c], part, separators, ⟨rfl, .inr ⟨[], c, rfl, hc⟩, hpart, hseparators⟩,
                fun h => absurd h hnil⟩
      · exact ⟨c :: before, part, separators,
          ⟨rfl, hdirectory.cons hbefore c, hpart, hseparators⟩,
          fun h => absurd (hempty h) hbefore⟩

theorem filter_pieces_of_separators {cs : List Char} (h : ∀ c ∈ cs, isSeparator c = true) :
    (Text.pieces isSeparator cs).filter (fun p => !p.isEmpty) = [] := by
  apply List.filter_eq_nil_iff.mpr
  intro piece hpiece
  rw [Text.pieces_of_cuts h piece hpiece]
  decide

/-- The name of an artifact is the last part of its path. -/
theorem lastPiece_of_cut {path before part separators : List Char}
    (h : Cut path before part separators) (hne : part ≠ []) : lastPiece path = part := by
  obtain ⟨rfl, hdirectory, hpart, hseparators⟩ := h
  have hpieces : (Text.pieces isSeparator (part ++ separators)).filter (fun p => !p.isEmpty) =
      [part] := by
    have hone : [part].filter (fun p => !p.isEmpty) = [part] := by simpa using hne
    cases separators with
    | nil => rw [List.append_nil, Text.pieces_of_no_cut hpart, hone]
    | cons s separators =>
        have hrest := filter_pieces_of_separators fun c hc =>
          hseparators c (List.mem_cons_of_mem s hc)
        rw [Text.pieces_append_cut part (hseparators s List.mem_cons_self),
          Text.pieces_of_no_cut hpart, List.filter_append, hone, hrest, List.append_nil]
  have hlast : lastPiece (part ++ separators) = part := by
    rw [lastPiece, hpieces]
    rfl
  rcases hdirectory with rfl | ⟨front, s, rfl, hs⟩
  · exact hlast
  · rw [List.append_assoc, List.singleton_append, lastPiece_append_separator front _ hs, hlast]
    have hmem : part ∈ [part] := List.mem_singleton.mpr rfl
    rw [← hpieces] at hmem
    exact ⟨part, (List.mem_filter.mp hmem).1, hne⟩

/-! ## The spellings of a name -/

/-- Whether a path spells a name: the name is its last part, and there may be blanks around it. -/
def Spells (path : String) (part : List Char) : Prop :=
  ∃ lead cs trail before separators, path.toList = lead ++ cs ++ trail ∧
    (∀ c ∈ lead, Text.isBlank c = true) ∧ (∀ c ∈ trail, Text.isBlank c = true) ∧
    Cut cs before part separators

/-- Whether a path spells, in any case, the name of one of the host's own artifacts. -/
def IsOwn (path : String) : Prop :=
  ∃ part, Spells path part ∧ Text.fold (String.ofList part) ∈ reserved

theorem not_blank_of_separator {c : Char} (h : isSeparator c = true) : Text.isBlank c = false := by
  simp only [isSeparator, Bool.or_eq_true, beq_iff_eq] at h
  rcases h with rfl | rfl
  · decide
  · decide

/-- A reserved name is spelled without blanks. -/
theorem not_blank_of_reserved {part : List Char}
    (h : Text.fold (String.ofList part) ∈ reserved) : ∀ c ∈ part, Text.isBlank c = false := by
  intro c hc
  cases hblank : Text.isBlank c with
  | false => rfl
  | true =>
      have hmem : c ∈ Text.foldChars part := by
        refine List.mem_flatMap.mpr ⟨c, hc, ?_⟩
        rw [Text.foldChar_blank hblank]
        exact List.mem_singleton.mpr rfl
      have hall : (reserved.all fun word => word.toList.all fun d => !Text.isBlank d) = true := by
        decide +kernel
      have hlist : (Text.fold (String.ofList part)).toList = Text.foldChars part := by
        simp [Text.fold]
      have hno := List.all_eq_true.mp (List.all_eq_true.mp hall _ h) c (hlist ▸ hmem)
      rw [hblank] at hno
      exact hno.symm

theorem ne_nil_of_reserved {part : List Char}
    (h : Text.fold (String.ofList part) ∈ reserved) : part ≠ [] := by
  rintro rfl
  revert h
  decide +kernel

/-- What is left of a text between the blanks at its ends, if a directory may stand in front and the
rest begins and ends without a blank. -/
theorem stripChars_directory {before rest : List Char} (h : IsDirectory before)
    (hfirst : ∀ c ∈ rest.head?, Text.isBlank c = false)
    (hlast : ∀ c ∈ rest.getLast?, Text.isBlank c = false) (hne : rest ≠ []) :
    ∃ before', IsDirectory before' ∧ Text.stripChars (before ++ rest) = before' ++ rest := by
  have hright : ∀ front : List Char, Text.stripRight (front ++ rest) = front ++ rest := by
    intro front
    obtain ⟨init, c, rfl⟩ : ∃ init c, rest = init ++ [c] :=
      ⟨rest.dropLast, rest.getLast hne, (List.dropLast_concat_getLast hne).symm⟩
    rw [← List.append_assoc]
    exact Text.stripRight_concat (hlast c (by simp)) _
  rcases h with rfl | ⟨front, s, rfl, hs⟩
  · refine ⟨[], .inl rfl, ?_⟩
    obtain ⟨c, cs, rfl⟩ := List.exists_cons_of_ne_nil hne
    have hc : Text.isBlank c = false := hfirst c rfl
    have hleft : Text.stripLeft (c :: cs) = c :: cs := by simp [Text.stripLeft, hc]
    rw [List.nil_append, Text.stripChars, hleft]
    exact hright []
  · have hsep := not_blank_of_separator hs
    have hleft : ∃ front', Text.stripLeft (front ++ [s] ++ rest) = front' ++ [s] ++ rest := by
      induction front with
      | nil => exact ⟨[], by simp [Text.stripLeft, hsep]⟩
      | cons c front ih =>
          cases hc : Text.isBlank c with
          | false => exact ⟨c :: front, by simp [Text.stripLeft, hc]⟩
          | true =>
              obtain ⟨front', heq⟩ := ih
              refine ⟨front', ?_⟩
              rw [← heq]
              simp [Text.stripLeft, hc]
    obtain ⟨front', heq⟩ := hleft
    refine ⟨front' ++ [s], .inr ⟨front', s, rfl, hs⟩, ?_⟩
    rw [Text.stripChars, heq, hright]

/-- The last part of a path that spells a reserved name is that name. -/
theorem nameChars_of_spells {path : String} {part : List Char} (h : Spells path part)
    (hreserved : Text.fold (String.ofList part) ∈ reserved) : nameChars path.toList = part := by
  obtain ⟨lead, cs, trail, before, separators, hpath, hlead, htrail, rfl, hdirectory, hpart,
    hseparators⟩ := h
  have hne := ne_nil_of_reserved hreserved
  have hblank := not_blank_of_reserved hreserved
  have hall : ∀ c ∈ part ++ separators, Text.isBlank c = false := by
    intro c hc
    rcases List.mem_append.mp hc with hc | hc
    · exact hblank c hc
    · exact not_blank_of_separator (hseparators c hc)
  obtain ⟨before', hdirectory', hstrip⟩ := stripChars_directory hdirectory
    (fun c hc => hall c (List.mem_of_mem_head? hc)) (fun c hc => hall c (List.mem_of_getLast? hc))
    (List.append_ne_nil_of_left_ne_nil hne separators)
  rw [nameChars, hpath, Text.stripChars_append_blanks _ htrail,
    Text.stripChars_blanks_append _ hlead, hstrip]
  exact lastPiece_of_cut ⟨rfl, hdirectory', hpart, hseparators⟩ hne

/-- The paths that lead to the host's own artifacts are the spellings of their names. -/
theorem isReservedPath_iff {path : String} : isReservedPath path = true ↔ IsOwn path := by
  have hname : isReservedPath path = true ↔
      Text.fold (String.ofList (nameChars path.toList)) ∈ reserved := by
    rw [isReservedPath, List.contains_iff_mem]
    rfl
  rw [hname]
  constructor
  · intro h
    obtain ⟨lead, trail, hpath, hlead, htrail⟩ := Text.exists_strip path.toList
    obtain ⟨before, part, separators, hcut, hempty⟩ := exists_cut (Text.stripChars path.toList)
    have hpart : nameChars path.toList = part := by
      by_cases hnil : part = []
      · obtain ⟨heq, -, -, hseparators⟩ := hcut
        rw [hempty hnil, hnil, List.nil_append, List.nil_append] at heq
        rw [nameChars, heq, lastPiece, filter_pieces_of_separators hseparators, hnil]
        rfl
      · exact lastPiece_of_cut hcut hnil
    rw [hpart] at h
    exact ⟨part, ⟨lead, _, trail, before, separators, hpath, hlead, htrail, hcut⟩, h⟩
  · rintro ⟨part, hspells, hreserved⟩
    rw [nameChars_of_spells hspells hreserved]
    exact hreserved

end Artifact

end ScriptHost
