import ScriptHost.Trail

/-!
# File systems

What the host needs of a file system: the current directory, the names of three folders, and
whether a file exists and what is in it.  Reading a name may fail, as it does for a current
directory that was removed.  A name that a file system does not have is absent, and joining an
absent name to a path is an error of type.

## Main results

* `join_eq_ok`, `join_eq_error` — when two names are joined, and how joining them fails.
-/

namespace ScriptHost

/-- The name of a directory or a folder as it is read; it may be absent. -/
abbrev PlaceName := Except Fault (Option String)

/-- A file system as the host sees it. -/
structure FileSystem where
  kind : String
  /-- The current directory, given the calls made before. -/
  currentDirectory : List Call → PlaceName
  binFolder : PlaceName
  cacheFolder : PlaceName
  packagesFolder : PlaceName
  /-- Whether a file exists, given the calls made before. -/
  fileExists : List Call → String → Except Failure Bool
  /-- The text of a file, given the calls made before. -/
  fileText : List Call → String → Except Failure String

namespace FileSystem

/-- The folders of a file system: for binaries, for compiled scripts, and for packages. -/
def folders (fs : FileSystem) : List PlaceName := [fs.binFolder, fs.cacheFolder, fs.packagesFolder]

/-- A name that may be missing as well: a missing one counts as absent. -/
def present : PlaceName → Except Failure (Option String)
  | .ok name => .ok name
  | .error fault => if fault.kind = "AttributeError" then .ok none else .error (.raised fault)

/-- The text of a path that is read and must be there. -/
def pathText : PlaceName → Except Failure String
  | .ok (some s) => .ok s
  | .ok none => .error (.wrongType "expected str, bytes or os.PathLike object, not NoneType")
  | .error fault => .error (.raised fault)

/-- A path continued by another; both must be there, and the first is read first. -/
def join (base more : PlaceName) : Except Failure String :=
  match pathText base with
  | .error f => .error f
  | .ok b =>
    match pathText more with
    | .error f => .error f
    | .ok m => .ok (Path.joinText b m)

theorem pathText_eq_ok {name : PlaceName} {path : String} (h : pathText name = .ok path) :
    name = .ok (some path) := by
  cases name with
  | error fault => cases h
  | ok found =>
      cases found with
      | none => cases h
      | some s =>
          cases h
          rfl

/-- Two names are joined only if both are read and are there. -/
theorem join_eq_ok {base more : PlaceName} {path : String} (h : join base more = .ok path) :
    ∃ b m, base = .ok (some b) ∧ more = .ok (some m) ∧ path = Path.joinText b m := by
  unfold join at h
  cases hb : pathText base with
  | error f => simp only [hb, reduceCtorEq] at h
  | ok b =>
      cases hm : pathText more with
      | error f => simp only [hb, hm, reduceCtorEq] at h
      | ok m =>
          simp only [hb, hm, Except.ok.injEq] at h
          exact ⟨b, m, pathText_eq_ok hb, pathText_eq_ok hm, h.symm⟩

end FileSystem

/-- Whether a failure is that of a path that cannot be told: a name is absent, or reading it
failed. -/
def Failure.IsUntold (f : Failure) : Prop :=
  (∃ detail, f = .wrongType detail) ∨ ∃ fault, f = .raised fault

namespace FileSystem

theorem pathText_eq_error {name : PlaceName} {f : Failure} (h : pathText name = .error f) :
    f.IsUntold := by
  cases name with
  | error fault =>
      cases h
      exact .inr ⟨fault, rfl⟩
  | ok found =>
      cases found with
      | none =>
          cases h
          exact .inl ⟨_, rfl⟩
      | some s => cases h

/-- Two names that are not joined are a path that cannot be told. -/
theorem join_eq_error {base more : PlaceName} {f : Failure} (h : join base more = .error f) :
    f.IsUntold := by
  unfold join at h
  cases hb : pathText base with
  | error g =>
      simp only [hb, Except.error.injEq] at h
      exact h ▸ pathText_eq_error hb
  | ok b =>
      cases hm : pathText more with
      | error g =>
          simp only [hb, hm, Except.error.injEq] at h
          exact h ▸ pathText_eq_error hm
      | ok m => simp only [hb, hm, reduceCtorEq] at h

end FileSystem

/-- A file system in memory: files by the exact text of their paths. -/
structure FileTable where
  currentDirectory : Option String
  binFolder : Option String
  cacheFolder : Option String
  packagesFolder : Option String
  files : Sequence.Entries String
  deriving Repr

/-- The file system of a table; a file that is not in it is missing. -/
def FileTable.fileSystem (table : FileTable) (kind : String) : FileSystem where
  kind := kind
  currentDirectory _ := .ok table.currentDirectory
  binFolder := .ok table.binFolder
  cacheFolder := .ok table.cacheFolder
  packagesFolder := .ok table.packagesFolder
  fileExists _ path := .ok (table.files.get? path).isSome
  fileText _ path :=
    match table.files.get? path with
    | some text => .ok text
    | none => .error (.raised ⟨"FileNotFoundError", path⟩)

end ScriptHost
