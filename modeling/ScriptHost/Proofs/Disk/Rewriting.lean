import ScriptHost.Disk.Basic

/-!
# Files that are written, and written again

A directory that was made is there, and is not made again.  A file that was written is read back,
and can be written once more: the directories on the way to it are there by then, and it stands
where a file may stand.  Whether a file can be written does not depend on what is written.

## Main results

* `contentOf_write`, `exists_of_write` — a file that was written is there, with what was written.
* `ensureParent_of_write` — the directory of a file that was written is there.
* `write_again`, `write_of_write` — where a file was written, any text can be written.
-/

namespace ScriptHost

namespace Disk

variable {d after : Disk} {p : Path}

/-! ## Directories -/

theorem find_eq_ok_iff {node : Node} :
    d.find p = .ok node ↔ ∃ names, d.target p = .ok names ∧ d.node? names = some node := by
  unfold find
  cases d.target p with
  | error r => simp
  | ok names =>
      cases hnode : d.node? names with
      | none => simp [hnode]
      | some other => simp [hnode]

/-- Storing something where no directory is leaves every directory where it was. -/
theorem find_store {names : List String} (h : d.node? names ≠ some .directory) (node : Node)
    (hp : d.find p = .ok .directory) : (d.store names node).find p = .ok .directory := by
  obtain ⟨there, htarget, hnode⟩ := find_eq_ok_iff.mp hp
  have hne : there ≠ names := fun heq => h (heq ▸ hnode)
  refine find_eq_ok_iff.mpr ⟨there, target_store h node htarget, ?_⟩
  rw [node?_store_of_ne d hne]
  exact hnode

/-- A directory that was made is there. -/
theorem find_of_makeDirectory (h : d.makeDirectory p = .ok after) :
    after.find p = .ok .directory := by
  unfold makeDirectory at h
  split at h
  · cases h
  · next names htarget =>
    split at h
    · cases h
    · next hnone =>
      cases h
      have hfree : d.node? names ≠ some .directory := by
        rw [hnone]
        exact nofun
      have hne : names ≠ [] := by
        rintro rfl
        cases hnone
      exact find_eq_ok_iff.mpr
        ⟨names, target_store hfree _ htarget, node?_store d hne .directory⟩

theorem makeDirectory_of_find (h : d.find p = .ok .directory) :
    d.makeDirectory p = .error .alreadyThere := by
  obtain ⟨names, htarget, hnode⟩ := find_eq_ok_iff.mp h
  rw [makeDirectory, htarget]
  dsimp only
  rw [hnode]

theorem find_of_keepDirectory (h : d.keepDirectory p = .ok after) :
    after.find p = .ok .directory := by
  unfold keepDirectory at h
  split at h
  · next made hmade =>
    cases h
    exact find_of_makeDirectory hmade
  · split at h
    · next hthere =>
      cases h
      exact hthere
    · cases h

/-- A directory that is there is kept. -/
theorem keepDirectory_of_find (h : d.find p = .ok .directory) : d.keepDirectory p = .ok d := by
  rw [keepDirectory, makeDirectory_of_find h]
  dsimp only
  rw [h]

theorem find_of_ensureDirectory {origin : PathRoot} {names : List String}
    (h : d.ensureDirectory origin names = .ok after) :
    after.find ⟨origin, names.reverse⟩ = .ok .directory := by
  cases names with
  | nil => exact find_of_keepDirectory h
  | cons name above =>
      -- whichever directories are made on the way, the last step keeps the directory itself
      rw [ensureDirectory] at h
      split at h
      · split at h
        · exact find_of_keepDirectory h
        · cases h
      · exact find_of_keepDirectory h

theorem ensureDirectory_of_find {origin : PathRoot} {names : List String}
    (h : d.find ⟨origin, names.reverse⟩ = .ok .directory) :
    d.ensureDirectory origin names = .ok d := by
  cases names with
  | nil => exact keepDirectory_of_find h
  | cons name above =>
      rw [ensureDirectory, makeDirectory_of_find h]
      exact keepDirectory_of_find h

theorem refuse_eq_ok_iff {α : Type} {path : String} {x : Except DiskRefusal α} {a : α} :
    refuse path x = .ok a ↔ x = .ok a := by
  cases x with
  | error r => exact ⟨nofun, nofun⟩
  | ok b =>
      change Except.ok b = .ok a ↔ _
      simp

/-! ## Files -/

/-- What a place that is no directory holds; nothing if nothing is there. -/
def heldIn : Option Node → List UInt8
  | some (.file content) => content
  | _ => []

section WriteAt

variable {content : List UInt8 → List UInt8}

/-- A file is written where no directory is. -/
theorem writeAt_eq_ok_iff : d.writeAt p content = .ok after ↔
    ∃ names, d.target p = .ok names ∧ d.node? names ≠ some .directory ∧
      after = d.store names (.file (content (heldIn (d.node? names)))) := by
  unfold writeAt
  cases d.target p with
  | error r => simp
  | ok names =>
      cases hnode : d.node? names with
      | none => simp [hnode, heldIn, eq_comm]
      | some node =>
          cases node with
          | file old => simp [hnode, heldIn, eq_comm]
          | directory => simp [hnode]

/-- Where a file can be written, it can be written whatever it is to hold. -/
theorem writeAt_of_writeAt (h : d.writeAt p content = .ok after)
    (other : List UInt8 → List UInt8) : ∃ done, d.writeAt p other = .ok done := by
  obtain ⟨names, htarget, hfree, -⟩ := writeAt_eq_ok_iff.mp h
  exact ⟨_, writeAt_eq_ok_iff.mpr ⟨names, htarget, hfree, rfl⟩⟩

/-- Writing a file leaves every directory where it was. -/
theorem find_writeAt (h : d.writeAt p content = .ok after) {q : Path}
    (hq : d.find q = .ok .directory) : after.find q = .ok .directory := by
  obtain ⟨names, -, hfree, rfl⟩ := writeAt_eq_ok_iff.mp h
  exact find_store hfree _ hq

theorem find_of_writeAt (h : d.writeAt p content = .ok after) :
    ∃ old, after.find p = .ok (.file (content old)) := by
  obtain ⟨old, hcontent⟩ := contentAt_writeAt h
  unfold contentAt at hcontent
  split at hcontent
  · next there hthere =>
    cases hcontent
    exact ⟨old, hthere⟩
  · cases hcontent
  · cases hcontent

/-- A file that was written can be written again. -/
theorem writeAt_again (h : d.writeAt p content = .ok after) (other : List UInt8 → List UInt8) :
    ∃ done, after.writeAt p other = .ok done := by
  obtain ⟨old, hfind⟩ := find_of_writeAt h
  obtain ⟨names, htarget, hnode⟩ := find_eq_ok_iff.mp hfind
  have hfree : after.node? names ≠ some .directory := by
    rw [hnode]
    exact nofun
  exact ⟨_, writeAt_eq_ok_iff.mpr ⟨names, htarget, hfree, rfl⟩⟩

end WriteAt

section Write

variable {path text : String}

theorem write_eq_ok_iff : d.write path text = .ok after ↔
    pathFault? path = none ∧
      d.writeAt (Path.ofString path) (fun _ => Text.encodeUtf8 text) = .ok after := by
  unfold write
  cases pathFault? path with
  | some f => simp
  | none => simp [refuse_eq_ok_iff]

/-- A file that was written holds what was written. -/
theorem contentOf_write (h : d.write path text = .ok after) :
    after.contentOf path = .ok (Text.encodeUtf8 text) := by
  obtain ⟨hpath, hwrite⟩ := write_eq_ok_iff.mp h
  obtain ⟨old, hcontent⟩ := contentAt_writeAt hwrite
  rw [contentOf, hpath]
  dsimp only
  rw [hcontent]
  rfl

/-- A file that was written is there. -/
theorem exists_of_write (h : d.write path text = .ok after) : after.exists_ path = .ok true := by
  obtain ⟨hpath, hwrite⟩ := write_eq_ok_iff.mp h
  obtain ⟨old, hfind⟩ := find_of_writeAt hwrite
  rw [exists_, look, hpath]
  simp [hfind, Except.map]

/-- Where a text was written, any text can be written. -/
theorem write_of_write (h : d.write path text = .ok after) (other : String) :
    ∃ done, d.write path other = .ok done := by
  obtain ⟨hpath, hwrite⟩ := write_eq_ok_iff.mp h
  obtain ⟨done, hdone⟩ := writeAt_of_writeAt hwrite fun _ => Text.encodeUtf8 other
  exact ⟨done, write_eq_ok_iff.mpr ⟨hpath, hdone⟩⟩

/-- A file that was written can be written again. -/
theorem write_again (h : d.write path text = .ok after) (other : String) :
    ∃ done, after.write path other = .ok done := by
  obtain ⟨hpath, hwrite⟩ := write_eq_ok_iff.mp h
  obtain ⟨done, hdone⟩ := writeAt_again hwrite fun _ => Text.encodeUtf8 other
  exact ⟨done, write_eq_ok_iff.mpr ⟨hpath, hdone⟩⟩

end Write

/-! ## The directory of a file -/

section Parent

variable {path : String}

theorem find_of_ensureParent (h : d.ensureParent path = .ok after) :
    after.find (Path.ofString path).parent = .ok .directory := by
  have hfind := find_of_ensureDirectory (refuse_eq_ok_iff.mp h)
  rwa [List.reverse_reverse] at hfind

theorem ensureParent_of_find (h : d.find (Path.ofString path).parent = .ok .directory) :
    d.ensureParent path = .ok d := by
  unfold ensureParent
  rw [refuse_eq_ok_iff]
  apply ensureDirectory_of_find
  rw [List.reverse_reverse]
  exact h

/-- The directory of a file that was written is there. -/
theorem ensureParent_of_write {text : String} {ready : Disk} (h : d.ensureParent path = .ok ready)
    (hwrite : ready.write path text = .ok after) : after.ensureParent path = .ok after :=
  ensureParent_of_find
    (find_writeAt (write_eq_ok_iff.mp hwrite).2 (find_of_ensureParent h))

/-- The path without names is its own directory, so no file is written there. -/
theorem ne_nil_of_write {text : String} {ready : Disk} (h : d.ensureParent path = .ok ready)
    (hwrite : ready.write path text = .ok after) : path ≠ "" := by
  rintro rfl
  obtain ⟨names, htarget, hnode⟩ := find_eq_ok_iff.mp (find_of_ensureParent h)
  obtain ⟨others, hothers, hfree, -⟩ := writeAt_eq_ok_iff.mp (write_eq_ok_iff.mp hwrite).2
  have hparent : (Path.ofString "").parent = Path.ofString "" := by decide
  rw [hparent, hothers] at htarget
  cases htarget
  exact hfree hnode

end Parent

end Disk

end ScriptHost
