import ScriptHost.Disk.Basic

/-!
# What is found on a disk

A path that can be looked at leads to a file, to a directory or to nothing; it cannot be looked at
only if it is too long.  A file that is found can be read, and so can its text if the bytes are one.

## Main results

* `look_eq_error_iff` — when a path cannot be looked at.
* `contentOf_of_file`, `contentOf_of_directory` — what is read of what is found.
-/

namespace ScriptHost

namespace Disk

variable {d : Disk} {path : String}

theorem refusal_of_walk {base names : List String} {r : DiskRefusal}
    (h : d.walk base names = .error r) : r = .missing ∨ r = .notDirectory ∨ r = .nameTooLong := by
  induction names generalizing base with
  | nil => cases h
  | cons name names ih =>
      rw [walk] at h
      split at h
      · cases h
        exact .inl rfl
      · cases h
        exact .inr (.inl rfl)
      · split at h
        · cases h
          exact .inr (.inr rfl)
        · exact ih h

theorem refusal_of_find {p : Path} {r : DiskRefusal} (h : d.find p = .error r) :
    r = .missing ∨ r = .notDirectory ∨ r = .nameTooLong := by
  unfold find target at h
  split at h
  · next r' htarget =>
    cases h
    split at htarget
    · cases htarget
      exact .inr (.inr rfl)
    · split at htarget
      · cases htarget
        exact .inl rfl
      · exact refusal_of_walk htarget
  · split at h
    · cases h
      exact .inl rfl
    · cases h

/-- A path cannot be looked at just if it is too long. -/
theorem look_eq_error_iff {f : Failure} :
    d.look path = .error f ↔
      pathFault? path = none ∧ d.find (Path.ofString path) = .error .nameTooLong ∧
        f = .disk .nameTooLong (Path.normalText path) := by
  unfold look
  cases pathFault? path with
  | some f' => simp
  | none =>
      dsimp only [Option.isSome_none]
      cases hfind : d.find (Path.ofString path) with
      | ok node => simp
      | error r =>
          rcases refusal_of_find hfind with rfl | rfl | rfl
          · simp
          · simp
          · simp [Path.normalText, eq_comm]

theorem look_error {f : Failure} (h : d.look path = .error f) :
    f = .disk .nameTooLong (Path.normalText path) := (look_eq_error_iff.mp h).2.2

/-- A short name can always be looked at. -/
theorem look_of_short {name : String} (hpath : (Path.ofString name).parts = [name])
    (hlength : (Path.ofString name).toString.utf8ByteSize ≤ longestPath)
    (hname : name.utf8ByteSize ≤ longestName) : ∃ node?, d.look name = .ok node? := by
  cases h : d.look name with
  | ok node? => exact ⟨node?, rfl⟩
  | error f =>
      obtain ⟨-, hfind, -⟩ := look_eq_error_iff.mp h
      unfold find target at hfind
      rw [if_neg (Nat.not_lt.mpr hlength), hpath, walk] at hfind
      split at hfind
      · next hwalk =>
        cases hfind
        split at hwalk
        · cases hwalk
        · split at hwalk
          · cases hwalk
          · cases hwalk
          · rw [if_neg (Nat.not_lt.mpr hname)] at hwalk
            cases hwalk
      · split at hfind
        · cases hfind
        · cases hfind

theorem exists_of_look {node? : Option Node} (h : d.look path = .ok node?) :
    d.exists_ path = .ok node?.isSome := by
  rw [exists_, h]
  rfl

/-- Something is found under a text just if it is a path that leads there. -/
theorem look_eq_some_iff {node : Node} :
    d.look path = .ok (some node) ↔
      pathFault? path = none ∧ d.find (Path.ofString path) = .ok node := by
  unfold look
  cases pathFault? path with
  | some f => simp
  | none =>
      dsimp only [Option.isSome_none]
      cases d.find (Path.ofString path) with
      | ok found => simp
      | error r => cases r <;> simp

theorem contentOf_of_file {content : List UInt8} (h : d.look path = .ok (some (.file content))) :
    d.contentOf path = .ok content := by
  obtain ⟨hpath, hfind⟩ := look_eq_some_iff.mp h
  rw [contentOf, hpath]
  dsimp only
  rw [contentAt, hfind]
  rfl

theorem contentOf_of_directory (h : d.look path = .ok (some .directory)) :
    d.contentOf path = .error (.disk .isDirectory (Path.normalText path)) := by
  obtain ⟨hpath, hfind⟩ := look_eq_some_iff.mp h
  rw [contentOf, hpath]
  dsimp only
  rw [contentAt, hfind]
  rfl

/-- A file that is there is refused only if it is no text. -/
theorem isBadValue_of_textOf {f : Failure} (hfile : d.isFile path = .ok true)
    (h : d.textOf path = .error f) : f.isBadValue = true := by
  obtain ⟨node?, hlook, hnode⟩ := exists_of_map_ok hfile
  rcases node? with _ | (content | _)
  · cases hnode
  · rw [textOf, contentOf_of_file hlook] at h
    dsimp only at h
    split at h
    · cases h
      rfl
    · cases h
  · cases hnode

end Disk

end ScriptHost
