import ScriptHost.Path

/-!
# Paths and their texts

The names of a path that was read from a text are not empty, hold no slash, and are not the name
`.`.  A path with such names is read back from its own text, so a text that was made by joining two
others is read as the join of the two paths, and two such paths are the same if their texts are.

## Main results

* `ofString_toString` — a path with proper names is read back from its text.
* `ofString_joinText` — texts are joined as paths are.
* `toString_inj`, `join_inj` — which paths have the same text, and which the same join.
-/

namespace ScriptHost.Path

/-! ## Proper names -/

/-- Whether a text is a name that a path goes through. -/
structure IsName (s : String) : Prop where
  no_slash : '/' ∉ s.toList
  not_empty : s.toList ≠ []
  not_dot : s.toList ≠ ['.']

/-- Whether all names of a path are proper ones. -/
def IsProper (p : Path) : Prop := ∀ s ∈ p.parts, IsName s

theorem isStep_iff {piece : List Char} : isStep piece = true ↔ piece ≠ [] ∧ piece ≠ ['.'] := by
  simp [isStep]

/-- The names of a path that was read are proper. -/
theorem ofString_isProper (s : String) : (ofString s).IsProper := by
  intro part hpart
  rw [ofString, List.mem_map] at hpart
  obtain ⟨piece, hpiece, rfl⟩ := hpart
  rw [List.mem_filter] at hpiece
  obtain ⟨hmem, hstep⟩ := hpiece
  obtain ⟨hne, hdot⟩ := isStep_iff.mp hstep
  have hslash : '/' ∉ piece := by
    intro hin
    have hcut := Text.pieces_no_cut s.toList piece hmem '/' hin
    cases hcut
  rw [← String.toList_ofList (l := piece)] at hslash hne hdot
  exact ⟨hslash, hne, hdot⟩

theorem join_isProper {p q : Path} (hp : p.IsProper) (hq : q.IsProper) :
    (p.join q).IsProper := by
  unfold join
  split
  · intro s hs
    rcases List.mem_append.mp hs with hin | hin
    · exact hp s hin
    · exact hq s hin
  · exact hq

/-! ## Reading back -/

theorem IsName.pieces_eq {s : String} (h : IsName s) :
    Text.pieces (· == '/') s.toList = [s.toList] := Text.pieces_of_not_mem h.no_slash

/-- The pieces of names with slashes between them are the names. -/
theorem pieces_joined {p : String} {ps : List String} (h : ∀ s ∈ p :: ps, IsName s) :
    Text.pieces (· == '/') (joined (p :: ps)) = (p :: ps).map String.toList := by
  induction ps generalizing p with
  | nil => exact (h p List.mem_cons_self).pieces_eq
  | cons q qs ih =>
      have hqs : ∀ s ∈ q :: qs, IsName s := fun s hs => h s (List.mem_cons_of_mem p hs)
      change Text.pieces (· == '/') (p.toList ++ '/' :: joined (q :: qs)) = _
      rw [Text.pieces_append_cut _ (by rfl), ih hqs, (h p List.mem_cons_self).pieces_eq]
      rfl

/-- Proper names are the steps among the pieces of their text. -/
theorem steps_joined {ps : List String} (h : ∀ s ∈ ps, IsName s) :
    ((Text.pieces (· == '/') (joined ps)).filter isStep).map String.ofList = ps := by
  cases ps with
  | nil => rfl
  | cons p ps =>
      rw [pieces_joined h, List.filter_eq_self.mpr]
      · simp [List.map_map]
      · intro piece hpiece
        obtain ⟨s, hs, rfl⟩ := List.mem_map.mp hpiece
        exact isStep_iff.mpr ⟨(h s hs).not_empty, (h s hs).not_dot⟩

/-- Proper names with slashes between them begin with no slash. -/
theorem head?_joined {ps : List String} (h : ∀ s ∈ ps, IsName s) :
    (joined ps).head? ≠ some '/' := by
  cases ps with
  | nil => simp [joined]
  | cons p ps =>
      have hp := h p List.mem_cons_self
      cases hchars : p.toList with
      | nil => exact absurd hchars hp.not_empty
      | cons c cs =>
          have hhead : (joined (p :: ps)).head? = some c := by
            cases ps with
            | nil =>
                change p.toList.head? = _
                rw [hchars]
                rfl
            | cons q qs =>
                change (p.toList ++ '/' :: joined (q :: qs)).head? = _
                rw [hchars]
                rfl
          have hne : c ≠ '/' := by
            intro e
            apply hp.no_slash
            rw [hchars, e]
            exact List.mem_cons_self
          rw [hhead]
          simpa using hne

theorem rootOf_of_head {cs : List Char} (h : cs.head? ≠ some '/') : rootOf cs = .relative := by
  cases cs with
  | nil => rfl
  | cons c cs =>
      have hne : c ≠ '/' := by simpa using h
      simp [rootOf, hne]

theorem rootOf_slash {cs : List Char} (h : cs.head? ≠ some '/') : rootOf ('/' :: cs) = .root := by
  cases cs with
  | nil => rfl
  | cons c cs =>
      have hne : c ≠ '/' := by simpa using h
      simp [rootOf, hne]

theorem rootOf_slash_ne (cs : List Char) : rootOf ('/' :: cs) ≠ .relative := by
  unfold rootOf
  split
  · simp
  · simp
  · simp
  · next hother => exact absurd rfl (hother cs)

theorem rootOf_slashes {cs : List Char} (h : cs.head? ≠ some '/') :
    rootOf ('/' :: '/' :: cs) = .doubleRoot := by
  cases cs with
  | nil => rfl
  | cons c cs =>
      have hne : c ≠ '/' := by simpa using h
      simp [rootOf, hne]

theorem pieces_slash (cs : List Char) :
    ((Text.pieces (· == '/') ('/' :: cs)).filter isStep) =
      (Text.pieces (· == '/') cs).filter isStep := by
  rw [Text.pieces, if_pos (by rfl), List.filter_cons_of_neg (by simp [isStep])]

/-- A path with proper names is read back from its text. -/
theorem ofString_toString {p : Path} (h : p.IsProper) : ofString p.toString = p := by
  obtain ⟨origin, parts⟩ := p
  have hsteps := steps_joined h
  have hhead := head?_joined h
  cases origin with
  | relative =>
      cases parts with
      | nil => rfl
      | cons p ps =>
          change ofString (String.ofList (joined (p :: ps))) = _
          rw [ofString, String.toList_ofList, hsteps, rootOf_of_head hhead]
  | root =>
      change ofString (String.ofList ('/' :: joined parts)) = _
      rw [ofString, String.toList_ofList, pieces_slash, hsteps, rootOf_slash hhead]
  | doubleRoot =>
      change ofString (String.ofList ('/' :: '/' :: joined parts)) = _
      rw [ofString, String.toList_ofList, pieces_slash, pieces_slash, hsteps,
        rootOf_slashes hhead]

/-- Paths with proper names are told apart by their texts. -/
theorem toString_inj {p q : Path} (hp : p.IsProper) (hq : q.IsProper) :
    p.toString = q.toString ↔ p = q := by
  constructor
  · intro h
    rw [← ofString_toString hp, ← ofString_toString hq, h]
  · intro h
    rw [h]

/-- Texts are joined as paths are. -/
theorem ofString_joinText (s t : String) :
    ofString (joinText s t) = (ofString s).join (ofString t) :=
  ofString_toString (join_isProper (ofString_isProper s) (ofString_isProper t))

/-- A text spells an absolute path if the path begins somewhere. -/
theorem isAbsoluteText_iff (s : String) :
    isAbsoluteText s = true ↔ (ofString s).root ≠ .relative := by
  rw [isAbsoluteText, beq_iff_eq]
  change s.toList.head? = some '/' ↔ rootOf s.toList ≠ .relative
  by_cases hslash : s.toList.head? = some '/'
  · refine iff_of_true hslash ?_
    cases hchars : s.toList with
    | nil => simp [hchars] at hslash
    | cons c cs =>
        have hc : c = '/' := by simpa [hchars] using hslash
        rw [hc]
        exact rootOf_slash_ne cs
  · exact iff_of_false hslash (fun hroot => hroot (rootOf_of_head hslash))

/-! ## Joining -/

/-- Behind a relative path two directories stay apart; an absolute one forgets them. -/
theorem join_inj {p q r : Path} : p.join r = q.join r ↔ r.root ≠ .relative ∨ p = q := by
  obtain ⟨origin, parts⟩ := r
  cases origin with
  | relative =>
      constructor
      · intro h
        obtain ⟨hroot, hparts⟩ := Path.mk.injEq .. ▸ h
        refine .inr ?_
        obtain ⟨proot, pparts⟩ := p
        obtain ⟨qroot, qparts⟩ := q
        cases hroot
        cases List.append_cancel_right hparts
        rfl
      · rintro (hroot | rfl)
        · exact absurd rfl hroot
        · rfl
  | root => exact iff_of_true rfl (.inl (by simp))
  | doubleRoot => exact iff_of_true rfl (.inl (by simp))

end ScriptHost.Path
