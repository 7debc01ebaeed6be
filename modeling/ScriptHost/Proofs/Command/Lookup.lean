import ScriptHost.Proofs.Command.Search
import ScriptHost.Proofs.Console.Places
import ScriptHost.Proofs.Path.RoundTrip

/-!
# What is told about the script library

A command line can ask where the library for the scripts of a directory is looked for.  What it is
told is what an execution in that directory does, if both read the directory in the same way.  An
execution reads it from the working directory of the configuration, while the command that tells
reads it from the directory of the process; without a directory it tells about the working
directory, and is right.

## Main results

* `seenFrom_parent`, `resolve_of_no_parent` — the two ways in which a directory is read.
* `lookup_law` — what is told, what is done, and when both agree.
-/

namespace ScriptHost

theorem eq_ok_of_mapError {ε ε' α : Type} {f : ε → ε'} {answer : Except ε α} {a : α}
    (h : answer.mapError f = .ok a) : answer = .ok a := by
  cases answer with
  | error e => cases h
  | ok b =>
      cases h
      rfl

/-! ## The place of a disk -/

namespace Disk

/-- Whether two disks have the same current directory, which is there on both or on neither. -/
structure SamePlace (d' d : Disk) : Prop where
  place : d'.place = d.place
  isLost : d'.isLost = d.isLost

theorem SamePlace.refl (d : Disk) : d.SamePlace d := ⟨rfl, rfl⟩

theorem SamePlace.trans {d₁ d₂ d₃ : Disk} (h : d₁.SamePlace d₂) (h' : d₂.SamePlace d₃) :
    d₁.SamePlace d₃ := ⟨h.place.trans h'.place, h.isLost.trans h'.isLost⟩

theorem samePlace_store (d : Disk) (names : List String) (node : Node) :
    (d.store names node).SamePlace d := ⟨rfl, rfl⟩

theorem samePlace_makeDirectory {d d' : Disk} {p : Path} (h : d.makeDirectory p = .ok d') :
    d'.SamePlace d := by
  unfold makeDirectory at h
  split at h
  · cases h
  · split at h
    · cases h
    · cases h
      exact samePlace_store d _ _

theorem samePlace_keepDirectory {d d' : Disk} {p : Path} (h : d.keepDirectory p = .ok d') :
    d'.SamePlace d := by
  unfold keepDirectory at h
  split at h
  · next made hmade =>
    cases h
    exact samePlace_makeDirectory hmade
  · split at h
    · cases h
      exact .refl d
    · cases h

theorem samePlace_ensureDirectory {d d' : Disk} {origin : PathRoot} {names : List String}
    (h : d.ensureDirectory origin names = .ok d') : d'.SamePlace d := by
  induction names generalizing d' with
  | nil => exact samePlace_keepDirectory h
  | cons name above ih =>
      simp only [ensureDirectory] at h
      split at h
      · cases habove : d.ensureDirectory origin above with
        | error r =>
            rw [habove] at h
            cases h
        | ok d₁ =>
            rw [habove] at h
            exact (samePlace_keepDirectory h).trans (ih habove)
      · exact samePlace_keepDirectory h

theorem samePlace_writeAt {d d' : Disk} {p : Path} {content : List UInt8 → List UInt8}
    (h : d.writeAt p content = .ok d') : d'.SamePlace d := by
  unfold writeAt at h
  split at h
  · cases h
  · split at h
    · cases h
    · cases h
      exact samePlace_store d _ _
    · cases h
      exact samePlace_store d _ _

end Disk

/-- Setting up the log leaves the current directory as it was. -/
theorem Log.Loggers.samePlace_setUp (ls : Log.Loggers) (d : Disk) (s : Log.Loggers.Setup) :
    (ls.setUp d s).2.1.SamePlace d := by
  unfold Log.Loggers.setUp
  dsimp only
  split
  · exact .refl d
  · exact .refl d
  · next path _ _ =>
    cases hparent : d.ensureParent path with
    | error f => exact .refl d
    | ok d₁ =>
        have hplace : d₁.SamePlace d :=
          Disk.samePlace_ensureDirectory (eq_ok_of_mapError hparent)
        dsimp only
        cases d₁.resolved path with
        | error f => exact hplace
        | ok place =>
            dsimp only
            cases hwrite : Disk.refuse place.toString (d₁.writeAt place id) with
            | error f => exact hplace
            | ok d₂ => exact (Disk.samePlace_writeAt (eq_ok_of_mapError hwrite)).trans hplace

/-! ## Reading directories -/

namespace Disk

/-- Whether the current directory of a disk has proper names. -/
def HasProperPlace (d : Disk) : Prop := Path.IsProper ⟨.root, d.place⟩

theorem mem_flatten {base names : List String} {s : String} (h : s ∈ flatten base names) :
    s ∈ base ∨ s ∈ names := by
  induction names generalizing base with
  | nil => exact .inl h
  | cons name names ih =>
      rw [flatten] at h
      rcases ih h with hbase | hnames
      · split at hbase
        · exact .inl (List.dropLast_subset base hbase)
        · rcases List.mem_append.mp hbase with hin | hin
          · exact .inl hin
          · exact .inr (List.mem_cons.mpr (.inl (List.mem_singleton.mp hin)))
      · exact .inr (List.mem_cons_of_mem name hnames)

/-- Without `..` a path leads through all of its names. -/
theorem flatten_of_no_parent {names : List String} (h : ".." ∉ names) (base : List String) :
    flatten base names = base ++ names := by
  induction names generalizing base with
  | nil => simp [flatten]
  | cons name names ih =>
      rw [List.mem_cons, not_or] at h
      rw [flatten, if_neg (Ne.symm h.1), ih h.2, List.append_assoc]
      rfl

theorem start_subset {d : Disk} {p : Path} {s : String} (h : s ∈ d.start p) : s ∈ d.place := by
  unfold start at h
  split at h
  · exact h
  · cases h

theorem resolve_isProper {d : Disk} (hplace : d.HasProperPlace) (path : String) :
    (d.resolve path).IsProper := by
  intro s hs
  rcases mem_flatten hs with hbase | hnames
  · exact hplace s (start_subset hbase)
  · exact Path.ofString_isProper path s hnames

theorem eq_of_resolved {d : Disk} {path : String} {p : Path} (h : d.resolved path = .ok p) :
    p = d.resolve path := by
  unfold resolved at h
  split at h
  · cases h
  · split at h
    · cases h
    · exact (Except.ok.inj h).symm

/-- A path without `..` is read from the directory of the process. -/
theorem resolve_of_no_parent {d : Disk} {path : String} (h : ".." ∉ (Path.ofString path).parts) :
    d.resolve path = ⟨.root, d.start (Path.ofString path) ++ (Path.ofString path).parts⟩ := by
  rw [resolve, flatten_of_no_parent h]

end Disk

/-- Whether a path leads to something directly inside a directory. -/
def Path.IsIn (p directory : Path) : Prop :=
  ∃ name, p = ⟨directory.root, directory.parts ++ [name]⟩

namespace Command

open Console

/-- A path seen from a directory is read as if it were joined to it. -/
theorem ofString_seenFrom (here path : String) :
    Path.ofString (seenFrom here path) = (Path.ofString here).join (Path.ofString path) := by
  unfold seenFrom
  split
  · next habsolute =>
    exact (Path.join_of_absolute _ ((Path.isAbsoluteText_iff path).mp habsolute)).symm
  · exact Path.ofString_joinText here path

/-- The directory of a script is read from the working directory. -/
theorem seenFrom_parent {here script directory : String}
    (h : (Path.ofString script).IsIn (Path.ofString directory)) :
    (Path.ofString (seenFrom here script)).parent =
      (Path.ofString here).join (Path.ofString directory) := by
  obtain ⟨name, hname⟩ := h
  rw [ofString_seenFrom, hname]
  obtain ⟨origin, parts⟩ := Path.ofString directory
  cases origin with
  | relative => simp [Path.join, Path.parent]
  | root => simp [Path.join, Path.parent]
  | doubleRoot => simp [Path.join, Path.parent]

/-! ## What an execution does -/

theorem samePlace_setUpLog {d : Disk} {m : Manner} {c : Configuration} {desktop : Desktop}
    (h : setUpLog d m c = .ok desktop) : desktop.disk.SamePlace d := by
  unfold setUpLog at h
  dsimp only at h
  split at h
  · next loggers d' heq =>
    cases h
    have hplace := Log.Loggers.empty.samePlace_setUp d
      ⟨if m.isDebug then .debug else c.logging.threshold.level, c.logging.file, c.logging.isJson,
        true⟩
    rw [heq] at hplace
    exact hplace
  · cases h

theorem resolved_of_samePlace {d d' : Disk} (h : d'.SamePlace d) (path : String) :
    d'.resolved path = d.resolved path := by
  have hstart : ∀ p, d'.start p = d.start p := by
    intro p
    unfold Disk.start
    rw [h.place]
  unfold Disk.resolved Disk.resolve Disk.isAdrift
  simp only [hstart, h.isLost]

/-- The working directory depends on the configuration and the current directory only. -/
theorem workplace_of_samePlace {c : Configuration} {d d' : Disk} (h : d'.SamePlace d) :
    workplace c d' = workplace c d := by
  unfold workplace FolderSettings.pinned Disk.here
  rw [h.place, h.isLost]
  cases c.folders.currentDirectory with
  | none => rfl
  | some path => simp only [resolved_of_samePlace h]

/-- The sources of the executor of a configuration: the disk, with the folders that the
configuration names, and the library that it names. -/
theorem sources_of_executor {w : Surroundings} {d : Disk} {c : Configuration} {e : Executor}
    (h : executor w d c = .ok e) :
    ∃ folders, c.folders.pinned d = .ok folders ∧ e.fileSystem = d.fileSystem folders ∧
      e.libraryFile = c.library.fileName := by
  obtain ⟨folders, hpinned, hof⟩ := executor_eq_ok h
  obtain ⟨engine, pp, -, -, hnew⟩ := Executor.ofConfiguration_eq_ok hof
  obtain ⟨fs, hfs, heq⟩ := Executor.new_eq hnew
  cases hfs
  exact ⟨folders, hpinned, by rw [heq], by rw [heq]⟩

/-- The working directory is where the file system of the executor says that it is. -/
theorem currentDirectory_of_executor {w : Surroundings} {d : Disk} {c : Configuration}
    {e : Executor} (h : executor w d c = .ok e) (calls : List Call) :
    (e.fileSystem.currentDirectory calls).mapError Failure.raised =
      (workplace c d).map some := by
  obtain ⟨folders, hpinned, hfs, -⟩ := sources_of_executor h
  rw [hfs, currentDirectory_of_pinned hpinned calls]

theorem libraryPath_of_executor {w : Surroundings} {d : Disk} {c : Configuration} {e : Executor}
    (h : executor w d c = .ok e) (directory : String) :
    e.libraryPath (some directory) = .ok (bundlePath c directory) := by
  obtain ⟨folders, hpinned, hfs, hfile⟩ := sources_of_executor h
  rw [Sources.libraryPath, hfs, hfile, pinned_folders hpinned]
  rfl

/-- Where the bundle for the scripts of a directory is looked for: the directory is read from the
working directory. -/
def searchedPath (c : Configuration) (here directory : String) : String :=
  bundlePath c (Path.joinText here directory)

/-- Whether an execution looks for the bundle at a path and nowhere else: it does so once, unless it
ends before that, without a result. -/
structure LooksAt (course : Course (Disk × ScriptResult)) (path : String) : Prop where
  only : ∀ other, .probe other ∈ course.trail.calls → other = path
  once : probed course.trail.calls.reverse = [path] ∨ probed course.trail.calls.reverse = []
  asked : ∀ a, course.task = .ok a → .probe path ∈ course.trail.calls

theorem looksAt_of_ready {w : Surroundings} {d : Disk} {m : Manner} {x : Execution}
    {path : String}
    (h : ∀ r, prepare w d m x = .ok r → r.executor.fileSystem.HasFolders ∧
      ∀ calls, r.executor.BundleAt calls path x.source) :
    LooksAt (runScript w d m x) path := by
  cases hready : prepare w d m x with
  | error o =>
      rw [runScript, hready]
      constructor
      case only => exact fun other hother => absurd hother List.not_mem_nil
      case once => exact .inr rfl
      case asked =>
        intro a htask
        cases htask
  | ok r =>
      obtain ⟨hfolders, hplace⟩ := h r hready
      have hcalls : ∀ {paths}, Trail.Probed paths .empty (conduct w r x).trail →
          probed (conduct w r x).trail.calls.reverse = paths := by
        intro paths hprobed
        obtain ⟨cs, hmade, hpaths⟩ := hprobed
        rw [Trail.reverse_calls hmade, hpaths]
      rw [runScript, hready]
      have hnone := (executor_of_ready hready).1
      rcases probed_conduct hnone hfolders hplace with hasked | ⟨hasked, o, hfails⟩
      · constructor
        case only =>
          intro other hother
          exact List.mem_singleton.mp ((hasked.mem_iff other).mp hother)
        case once => exact .inl (hcalls hasked)
        case asked =>
          intro a _
          exact (hasked.mem_iff path).mpr List.mem_cons_self
      · constructor
        case only =>
          intro other hother
          exact absurd ((hasked.mem_iff other).mp hother) List.not_mem_nil
        case once => exact .inr (hcalls hasked)
        case asked =>
          intro a htask
          cases hfails.symm.trans htask

/-! ## What is told -/

/-- Where a command that tells about the library of a directory says that it is looked for. -/
def toldPath (c : Configuration) (d : Disk) : Option String → Except Failure String
  | none | some "" => (workplace c d).map (bundlePath c)
  | some directory => (d.resolved directory).map fun p => bundlePath c p.toString

theorem toldPath_some {directory : String} (h : directory ≠ "") (c : Configuration) (d : Disk) :
    toldPath c d (some directory) =
      (d.resolved directory).map fun p => bundlePath c p.toString := by
  unfold toldPath
  split
  · next heq => cases heq
  · next heq =>
    cases heq
    exact absurd rfl h
  · next heq =>
    cases heq
    rfl

/-- What is said in front of the path of a library. -/
def libraryLabel (isThere : Bool) : String :=
  if isThere then "Script library found:" else "No script library at:"

/-- What is told about a library, as markup. -/
def libraryReport (path : String) (isThere : Bool) : String :=
  if isThere then "[success]Script library found:[/] " ++ path
  else "[info]No script library at:[/] " ++ path

/-- Tests a path and tells about it. -/
def tell (d : Disk) (path : String) : Task Outcome := do
  let isThere ← orRaise d (d.isFile path)
  return .say d 0 (libraryReport path isThere)

theorem libraryReport_eq (path : String) (isThere : Bool) :
    libraryReport path isThere = (Place.library isThere).markup path := by
  cases isThere with
  | true => rfl
  | false => rfl

/-- What is told about a library at a plain path. -/
theorem shown_libraryReport {path : String} (h : IsPlain path.toList) (isThere : Bool) :
    shown (libraryReport path isThere) = .ok (libraryLabel isThere ++ " " ++ path) := by
  have hkeeps : (Place.library isThere).Keeps path := by
    refine ⟨h.isLiteral, ?_, h.still⟩
    intro hwithin
    cases hwithin
  have hfront : (Place.library isThere).front = libraryLabel isThere ++ " " := by
    cases isThere with
    | true => rfl
    | false => rfl
  rw [libraryReport_eq, ((Place.library isThere).shown_iff path).mpr hkeeps, hfront]

/-- The command that tells about a library tests the path that it tells. -/
theorem showLibrary_eq {w : Surroundings} {d : Disk} {m : Manner} {c : Configuration}
    {e : Executor} (hconfiguration : configuration w d m.configuration = .ok c)
    (hexecutor : executor w d c = .ok e) (directory : Option String) :
    showLibrary w d m directory = orRaise d (toldPath c d directory) >>= tell d := by
  have htell : ∀ place, (do
      let path ← orRaise d (e.toSources.libraryPath (some place))
      let isThere ← orRaise d (e.fileSystem.fileExists [] path)
      return Outcome.say d 0 (libraryReport path isThere)) = tell d (bundlePath c place) := by
    intro place
    obtain ⟨folders, -, hfs, -⟩ := sources_of_executor hexecutor
    rw [libraryPath_of_executor hexecutor, hfs]
    rfl
  unfold showLibrary
  rw [hconfiguration]
  change (executor w d c >>= _) = _
  rw [hexecutor]
  -- an empty directory counts as none
  by_cases hgiven : directory = none ∨ directory = some ""
  · have htold : toldPath c d directory = (workplace c d).map (bundlePath c) := by
      rcases hgiven with rfl | rfl
      · rfl
      · rfl
    have hread : (do
        let place ← orRaise d ((e.fileSystem.currentDirectory []).mapError .raised)
        let path ← orRaise d (e.toSources.libraryPath place)
        let isThere ← orRaise d (e.fileSystem.fileExists [] path)
        return Outcome.say d 0 (libraryReport path isThere)) =
          orRaise d (toldPath c d directory) >>= tell d := by
      rw [htold, currentDirectory_of_executor hexecutor]
      cases workplace c d with
      | error f => rfl
      | ok here => exact htell here
    rw [← hread]
    rcases hgiven with rfl | rfl
    · rfl
    · rfl
  · rw [not_or] at hgiven
    cases directory with
    | none => exact absurd rfl hgiven.1
    | some path =>
        have hne : path ≠ "" := fun e => hgiven.2 (congrArg some e)
        rw [toldPath_some hne]
        dsimp only [bind, Except.bind]
        split
        · next heq => cases heq
        · next heq =>
          cases heq
          exact absurd rfl hne
        · next heq =>
          cases heq
          cases d.resolved path with
          | error f => rfl
          | ok p => exact htell p.toString

/-! ## Comparing both -/

/-- The bundle is looked for at the same path for two directories if they are the same one, or if
the packages folder or the file name says where it is by itself. -/
theorem bundlePath_inj (c : Configuration) (s t : String) :
    bundlePath c s = bundlePath c t ↔
      Path.isAbsoluteText c.library.fileName = true ∨
        Path.isAbsoluteText c.folders.packagesFolder = true ∨
          Path.ofString s = Path.ofString t := by
  have hproper : ∀ place, ((Path.ofString (Path.joinText place c.folders.packagesFolder)).join
      (Path.ofString c.library.fileName)).IsProper := fun place =>
    Path.join_isProper (Path.ofString_isProper _) (Path.ofString_isProper _)
  have hsame := Path.toString_inj (hproper s) (hproper t)
  change bundlePath c s = bundlePath c t ↔ _ at hsame
  rw [hsame, Path.join_inj, Path.ofString_joinText, Path.ofString_joinText, Path.join_inj,
    Path.isAbsoluteText_iff, Path.isAbsoluteText_iff]

/-- The working directory as a path. -/
theorem ofString_workplace {c : Configuration} {d : Disk} {here : String}
    (hplace : d.HasProperPlace) (h : workplace c d = .ok here) :
    Path.ofString here =
      match c.folders.currentDirectory with
      | none => ⟨.root, d.place⟩
      | some path => d.resolve path := by
  unfold workplace FolderSettings.pinned Disk.here at h
  cases hsetting : c.folders.currentDirectory with
  | none =>
      simp only [hsetting, bind, Except.bind] at h
      split at h
      · cases h
      · cases h
        exact Path.ofString_toString hplace
  | some path =>
      cases hresolved : d.resolved path with
      | error f => simp [hsetting, hresolved, Except.map, bind, Except.bind] at h
      | ok p =>
          simp only [hsetting, hresolved, Except.map, bind, Except.bind, Except.ok.injEq] at h
          rw [← h, Disk.eq_of_resolved hresolved]
          exact Path.ofString_toString (Disk.resolve_isProper hplace path)

/-- A directory is read alike from the directory of the process and from the working directory. -/
def ReadsAlike (d : Disk) (here directory : String) : Prop :=
  (Path.ofString directory).root = .root ∨
    (Path.ofString directory).root = .relative ∧ Path.ofString here = ⟨.root, d.place⟩

theorem resolve_eq_join_iff {d : Disk} {here directory : String}
    (hroot : (Path.ofString here).root = .root) (h : ".." ∉ (Path.ofString directory).parts) :
    d.resolve directory = (Path.ofString here).join (Path.ofString directory) ↔
      ReadsAlike d here directory := by
  rw [Disk.resolve_of_no_parent h, ReadsAlike]
  generalize Path.ofString here = working at hroot ⊢
  generalize Path.ofString directory = p
  obtain ⟨_, names⟩ := working
  obtain ⟨origin, parts⟩ := p
  cases hroot
  cases origin with
  | relative =>
      simp only [Disk.start, Path.join, Path.mk.injEq, true_and, reduceCtorEq, false_or]
      exact ⟨fun heq => (List.append_cancel_right heq).symm, fun heq => by rw [heq]⟩
  | root => simp [Disk.start, Path.join]
  -- two slashes in front are kept by joining only
  | doubleRoot => simp [Disk.start, Path.join]

/-- The law of what is told about the library, for a configuration and its working directory. -/
structure LookupLaw (w : Surroundings) (d : Disk) (m : Manner) (c : Configuration)
    (here : String) : Prop where
  /-- The working directory is the one of the configuration, seen from the directory of the process,
  or that directory. -/
  working : Path.ofString here =
    match c.folders.currentDirectory with
    | none => ⟨.root, d.place⟩
    | some path => d.resolve path
  /-- The path that is told is the one that is tested. -/
  tested : ∀ e directory, executor w d c = .ok e →
    showLibrary w d m directory = orRaise d (toldPath c d directory) >>= tell d
  /-- A plain path is told as it stands. -/
  verbatim : ∀ e directory path isThere, executor w d c = .ok e →
    toldPath c d directory = .ok path → d.isFile path = .ok isThere → IsPlain path.toList →
    showLibrary w d m directory =
      .ok ⟨0, [.line (libraryLabel isThere ++ " " ++ path)], none, d⟩
  /-- What is told without a directory is where an execution of a text looks. -/
  text : ∀ x code, x.source = .text code →
    ∃ path, toldPath c d none = .ok path ∧ LooksAt (runScript w d m x) path
  /-- An execution of a file looks in its directory, read from the working directory. -/
  file : ∀ x script directory, x.source = .file script →
    (Path.ofString script).IsIn (Path.ofString directory) →
    LooksAt (runScript w d m x) (searchedPath c here directory)
  /-- What is told about a directory without `..` is where they look, just if the directory is read
  alike, or the packages folder or the file name does not depend on it. -/
  alike : ∀ directory path, directory ≠ "" → ".." ∉ (Path.ofString directory).parts →
    toldPath c d (some directory) = .ok path →
    (path = searchedPath c here directory ↔
      Path.isAbsoluteText c.library.fileName = true ∨
        Path.isAbsoluteText c.folders.packagesFolder = true ∨ ReadsAlike d here directory)
  /-- Otherwise no execution of a file in the directory looks where it is told. -/
  astray : ∀ x script directory path, x.source = .file script →
    (Path.ofString script).IsIn (Path.ofString directory) → directory ≠ "" →
    ".." ∉ (Path.ofString directory).parts → toldPath c d (some directory) = .ok path →
    Path.isAbsoluteText c.library.fileName = false →
    Path.isAbsoluteText c.folders.packagesFolder = false → ¬ ReadsAlike d here directory →
    .probe path ∉ (runScript w d m x).trail.calls

/-- A configuration with a working directory obeys the law. -/
theorem lookupLaw_of_workplace {w : Surroundings} {d : Disk} {m : Manner} {c : Configuration}
    {here : String} (hconfiguration : configuration w d m.configuration = .ok c)
    (hhere : workplace c d = .ok here) (hplace : d.HasProperPlace) :
    LookupLaw w d m c here := by
  have hworking := ofString_workplace hplace hhere
  have hroot : (Path.ofString here).root = .root := by
    rw [hworking]
    cases c.folders.currentDirectory with
    | none => rfl
    | some path => rfl
  have hsources : ∀ {x r}, prepare w d m x = .ok r →
      r.executor.fileSystem.HasFolders ∧
        (∀ calls, r.executor.fileSystem.currentDirectory calls = .ok (some here)) ∧
        ∀ directory, r.executor.libraryPath (some directory) = .ok (bundlePath c directory) := by
    intro x r hready
    obtain ⟨c', hc', hlog, hexecutor, -⟩ := prepare_eq_ok hready
    cases hconfiguration.symm.trans hc'
    have hcurrent : ∀ calls,
        r.executor.fileSystem.currentDirectory calls = .ok (some here) := by
      intro calls
      have hread := currentDirectory_of_executor hexecutor calls
      -- the executor is made on the disk that setting up the log leaves
      rw [workplace_of_samePlace (samePlace_setUpLog hlog), hhere] at hread
      exact eq_ok_of_mapError hread
    obtain ⟨folders, -, hfs, -⟩ := sources_of_executor hexecutor
    refine ⟨⟨here, folders.binFolder, folders.cacheFolder, hcurrent [], ?_, ?_⟩, hcurrent,
      libraryPath_of_executor hexecutor⟩
    · rw [hfs]
      rfl
    · rw [hfs]
      rfl
  have hfile : ∀ x script directory, x.source = .file script →
      (Path.ofString script).IsIn (Path.ofString directory) →
      LooksAt (runScript w d m x) (searchedPath c here directory) := by
    intro x script directory hsource hin
    apply looksAt_of_ready
    intro r hready
    obtain ⟨hfolders, hcurrent, hlibrary⟩ := hsources hready
    refine ⟨hfolders, fun calls => ?_⟩
    rw [hsource]
    refine ⟨seenFrom here script, ?_, ?_⟩
    · rw [Executor.scriptPath, hcurrent]
      unfold seenFrom
      split
      · rfl
      · rfl
    · rw [hlibrary, seenFrom_parent hin]
      rfl
  have halike : ∀ directory path, directory ≠ "" → ".." ∉ (Path.ofString directory).parts →
      toldPath c d (some directory) = .ok path →
      (path = searchedPath c here directory ↔
        Path.isAbsoluteText c.library.fileName = true ∨
          Path.isAbsoluteText c.folders.packagesFolder = true ∨ ReadsAlike d here directory) := by
    intro directory path hne hparent htold
    have hpath : path = bundlePath c (d.resolve directory).toString := by
      rw [toldPath_some hne] at htold
      cases hresolved : d.resolved directory with
      | error f => simp [hresolved, Except.map] at htold
      | ok p =>
          simp only [hresolved, Except.map, Except.ok.injEq] at htold
          rw [← htold, Disk.eq_of_resolved hresolved]
    rw [hpath, searchedPath, bundlePath_inj, Path.ofString_joinText,
      Path.ofString_toString (Disk.resolve_isProper hplace directory),
      resolve_eq_join_iff hroot hparent]
  constructor
  case working => exact hworking
  case tested =>
    intro e directory hexecutor
    exact showLibrary_eq hconfiguration hexecutor directory
  case verbatim =>
    intro e directory path isThere hexecutor htold hthere hplain
    rw [showLibrary_eq hconfiguration hexecutor directory, htold]
    change tell d path = _
    rw [tell, hthere]
    change Except.ok (Outcome.say d 0 (libraryReport path isThere)) = _
    rw [Outcome.say, shown_libraryReport hplain]
  case text =>
    intro x code hsource
    refine ⟨bundlePath c here, by rw [toldPath, hhere]; rfl, ?_⟩
    apply looksAt_of_ready
    intro r hready
    obtain ⟨hfolders, hcurrent, hlibrary⟩ := hsources hready
    refine ⟨hfolders, fun calls => ?_⟩
    rw [hsource]
    exact ⟨some here, hcurrent _, hlibrary here⟩
  case file => exact hfile
  case alike => exact halike
  case astray =>
    intro x script directory path hsource hin hne hparent htold hname hfolder hunlike hprobe
    have hsame := (hfile x script directory hsource hin).only path hprobe
    rw [halike directory path hne hparent htold, hname, hfolder] at hsame
    simp only [Bool.false_eq_true, false_or] at hsame
    exact hunlike hsame

/-- Every configuration obeys the law; without a working directory what is told is tested all the
same, and no execution looks anywhere. -/
theorem lookup_law {w : Surroundings} {d : Disk} {m : Manner} {c : Configuration}
    (hconfiguration : configuration w d m.configuration = .ok c) (hplace : d.HasProperPlace) :
    (∀ here, workplace c d = .ok here → LookupLaw w d m c here) ∧
      ∀ f, workplace c d = .error f →
        (∀ e directory, executor w d c = .ok e →
          showLibrary w d m directory = orRaise d (toldPath c d directory) >>= tell d) ∧
        ∀ x path, .probe path ∉ (runScript w d m x).trail.calls := by
  refine ⟨fun here hhere => lookupLaw_of_workplace hconfiguration hhere hplace, ?_⟩
  intro f hnowhere
  refine ⟨fun e directory hexecutor => showLibrary_eq hconfiguration hexecutor directory, ?_⟩
  intro x path hprobe
  cases hready : prepare w d m x with
  | error o =>
      rw [runScript, hready] at hprobe
      cases hprobe
  | ok r =>
      have hlost : ¬ r.executor.fileSystem.HasFolders := by
        intro hfolders
        obtain ⟨c', hc', hlog, hexecutor, -⟩ := prepare_eq_ok hready
        cases hconfiguration.symm.trans hc'
        obtain ⟨here, hhere⟩ := workplace_of_folders hexecutor hfolders
        rw [workplace_of_samePlace (samePlace_setUpLog hlog), hnowhere] at hhere
        cases hhere
      have hcalls := (conduct_of_no_folders (w := w) (x := x) (executor_of_ready hready).1 hlost).2
      rw [runScript, hready] at hprobe
      change _ ∈ (conduct w r x).trail.calls at hprobe
      rw [hcalls] at hprobe
      cases hprobe

/-! ## A sample -/

/-- A configuration with a working directory below the directory of the process. -/
def strayConfiguration : Configuration :=
  { sampleConfiguration with
    folders := ⟨some "other", "bin", ".cache", "packages"⟩
    execution := { sampleConfiguration.execution with references := [] } }

/-- Surroundings that come to that configuration. -/
def straySurroundings : Surroundings :=
  sampleGreetings [("SCRIPTCORE_LOGGING__LEVEL", "ERROR"),
    ("SCRIPTCORE_FILESYSTEM__CURRENT_DIRECTORY", "other")]

/-- A disk with a script below the working directory. -/
def strayDisk : Disk :=
  { sampleDisk with
    nodes := sampleDisk.nodes ++ [(["work", "other"], .directory),
      (["work", "other", "jobs"], .directory),
      (["work", "other", "jobs", "a.csx"], .file (Text.encodeUtf8 "one();"))] }

/-- In the sample what is told about the directory of a script is not where its execution looks. -/
theorem library_astray_in_sample :
    toldPath strayConfiguration strayDisk (some "jobs") =
        .ok "/work/jobs/packages/ScriptLibraries.csx" ∧
      .probe "/work/other/jobs/packages/ScriptLibraries.csx" ∈
        (runScript straySurroundings strayDisk sampleManner
          ⟨.file "jobs/a.csx", [], [], []⟩).trail.calls ∧
      .probe "/work/jobs/packages/ScriptLibraries.csx" ∉
        (runScript straySurroundings strayDisk sampleManner
          ⟨.file "jobs/a.csx", [], [], []⟩).trail.calls := by
  have hconfiguration : configuration straySurroundings strayDisk sampleManner.configuration =
      .ok strayConfiguration := eq_ok_of_toOption (by decide +kernel)
  have hhere : workplace strayConfiguration strayDisk = .ok "/work/other" :=
    eq_ok_of_toOption (by decide +kernel)
  have htold : toldPath strayConfiguration strayDisk (some "jobs") =
      .ok "/work/jobs/packages/ScriptLibraries.csx" := eq_ok_of_toOption (by decide +kernel)
  have hplace : strayDisk.HasProperPlace := by
    intro s hs
    rw [List.mem_singleton.mp hs]
    exact ⟨by decide, by decide, by decide⟩
  have hlaw := (lookup_law hconfiguration hplace).1 _ hhere
  have hin : (Path.ofString "jobs/a.csx").IsIn (Path.ofString "jobs") := ⟨"a.csx", by decide⟩
  obtain ⟨a, hrun⟩ : ∃ a, (runScript straySurroundings strayDisk sampleManner
      ⟨.file "jobs/a.csx", [], [], []⟩).task = .ok a := by
    apply exists_of_toOption
    rw [runScript, prepare, hconfiguration]
    decide +kernel
  have hasked := (hlaw.file ⟨.file "jobs/a.csx", [], [], []⟩ _ _ rfl hin).asked a hrun
  have hpath : searchedPath strayConfiguration "/work/other" "jobs" =
      "/work/other/jobs/packages/ScriptLibraries.csx" := by decide +kernel
  rw [hpath] at hasked
  have hunlike : ¬ ReadsAlike strayDisk "/work/other" "jobs" := by
    unfold ReadsAlike
    decide +kernel
  exact ⟨htold, hasked, hlaw.astray _ _ _ _ rfl hin (by decide) (by decide) htold (by decide)
    (by decide) hunlike⟩

end Command

end ScriptHost
