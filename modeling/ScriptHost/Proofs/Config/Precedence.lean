import ScriptHost.Proofs.Config.Chosen
import ScriptHost.Proofs.Config.Sections

/-!
# Where every value of a configuration comes from

A configuration has thirteen values, and each of them is settled for itself: by the chosen file if
that mentions it, whatever it says, else by the environment, and else by its default.  What settles
it is checked as one whole; nothing is put together from several places.

## Main results

* `make_eq_ok_iff` — a configuration is the one whose every value is what settles it.
* `precedence_law` — what settles each value, and when there is a configuration at all.
-/

namespace ScriptHost

open Schema (Checked Fields)
open Sequence (Entries)

namespace Configuration

/-! ## Leaves -/

/-- One value of a configuration: where it is set, how it is read, its default, and what it is in a
configuration. -/
structure Leaf where
  shape : SectionShape
  field : String × Bool
  Value : Type
  read : Datum → Checked Value
  default : Value
  get : Configuration → Value

/-- The value of a leaf that is settled in some way, or by nothing. -/
def Leaf.checked (leaf : Leaf) (setting : Option Datum) : Checked leaf.Value :=
  setting.elim (.ok leaf.default) leaf.read

namespace Leaf

/-- The working directory. -/
def currentDirectory : Leaf :=
  ⟨folderShape, ("current_directory", false), _, Schema.optionalText,
    none, fun c => c.folders.currentDirectory⟩

/-- The folder for binaries. -/
def binFolder : Leaf :=
  ⟨folderShape, ("bin_folder", false), _, Schema.folder, "bin", fun c => c.folders.binFolder⟩

/-- The folder for what is kept of executions. -/
def cacheFolder : Leaf :=
  ⟨folderShape, ("dll_cache_folder", false), _, Schema.folder,
    ".cache", fun c => c.folders.cacheFolder⟩

/-- The folder for packages. -/
def packagesFolder : Leaf :=
  ⟨folderShape, ("packages_folder", false), _, Schema.folder,
    "packages", fun c => c.folders.packagesFolder⟩

/-- The file of the script library. -/
def fileName : Leaf :=
  ⟨libraryShape, ("file_name", false), _, Schema.text,
    "ScriptLibraries.csx", fun c => c.library.fileName⟩

/-- The further references. -/
def references : Leaf :=
  ⟨executionShape, ("references", true), _, Schema.texts, [], fun c => c.execution.references⟩

/-- The further namespaces. -/
def namespaces : Leaf :=
  ⟨executionShape, ("namespaces", true), _, Schema.texts, [], fun c => c.execution.namespaces⟩

/-- The script packs. -/
def packs : Leaf :=
  ⟨executionShape, ("script_packs", true), _, Schema.texts, [], fun c => c.execution.packs⟩

/-- The engine. -/
def engine : Leaf :=
  ⟨executionShape, ("engine", false), _, Schema.text,
    "scriptcore.hosting.engine:DryRunEngine", fun c => c.execution.engine⟩

/-- The pre-processor. -/
def preProcessor : Leaf :=
  ⟨executionShape, ("preprocessor", false), _, Schema.text,
    "scriptcore.hosting.preprocessor:PassthroughPreProcessor", fun c => c.execution.preProcessor⟩

/-- How much is logged. -/
def threshold : Leaf :=
  ⟨loggingShape, ("level", false), _, Schema.threshold, .info, fun c => c.logging.threshold⟩

/-- The log file. -/
def file : Leaf :=
  ⟨loggingShape, ("file", false), _, Schema.optionalText, none, fun c => c.logging.file⟩

/-- Whether logs are written as JSON. -/
def isJson : Leaf :=
  ⟨loggingShape, ("json_format", false), _, Schema.truth, false, fun c => c.logging.isJson⟩

end Leaf

/-- The values among the folders. -/
def folderLeaves : List Leaf := [.currentDirectory, .binFolder, .cacheFolder, .packagesFolder]

/-- The value of the library. -/
def libraryLeaves : List Leaf := [.fileName]

/-- The values that scripts are executed with. -/
def executionLeaves : List Leaf := [.references, .namespaces, .packs, .engine, .preProcessor]

/-- The values of logging. -/
def loggingLeaves : List Leaf := [.threshold, .file, .isJson]

/-- All values of a configuration. -/
def leaves : List Leaf := folderLeaves ++ libraryLeaves ++ executionLeaves ++ loggingLeaves

/-- Every field of every section is a leaf. -/
example : leaves.map (fun leaf => (leaf.shape, leaf.field)) =
    sectionShapes.flatMap fun shape => shape.fields.map fun field => (shape, field) := rfl

/-! ### Reading leaves -/

theorem optional_eq_ok_iff {α : Type} {name : String} {read : Datum → Checked α} {default a : α}
    {value : Option Datum} (h : Datum.IsSection value) :
    Schema.optional name read default (fieldsOf value) = .ok a ↔
      (Datum.fieldOf name value).elim (.ok default) read = .ok a := by
  unfold Schema.optional
  rw [entry?_fieldsOf name h]
  cases Datum.fieldOf name value with
  | none => exact Iff.rfl
  | some d =>
      dsimp only
      rw [Checked.within, Option.elim_some]
      cases read d with
      | ok b => exact Iff.rfl
      | error issues => simp [Except.mapError]

section Read

variable {value : Option Datum} {c : Configuration}

theorem folders_eq_ok_iff (h : Datum.IsSection value) :
    FolderSettings.ofFields (fieldsOf value) = .ok c.folders ↔
      ∀ leaf ∈ folderLeaves,
        leaf.checked (Datum.fieldOf leaf.field.1 value) = .ok (leaf.get c) := by
  obtain ⟨⟨_, _, _, _⟩, _, _, _⟩ := c
  simp [FolderSettings.ofFields, Checked.field_eq_ok_iff, optional_eq_ok_iff h, folderLeaves,
    Leaf.checked, Leaf.currentDirectory, Leaf.binFolder, Leaf.cacheFolder, Leaf.packagesFolder,
    and_assoc]

theorem library_eq_ok_iff (h : Datum.IsSection value) :
    LibrarySettings.ofFields (fieldsOf value) = .ok c.library ↔
      ∀ leaf ∈ libraryLeaves,
        leaf.checked (Datum.fieldOf leaf.field.1 value) = .ok (leaf.get c) := by
  obtain ⟨_, ⟨_⟩, _, _⟩ := c
  simp [LibrarySettings.ofFields, Checked.field_eq_ok_iff, optional_eq_ok_iff h, libraryLeaves,
    Leaf.checked, Leaf.fileName]

theorem execution_eq_ok_iff (h : Datum.IsSection value) :
    ExecutionSettings.ofFields (fieldsOf value) = .ok c.execution ↔
      ∀ leaf ∈ executionLeaves,
        leaf.checked (Datum.fieldOf leaf.field.1 value) = .ok (leaf.get c) := by
  obtain ⟨_, _, ⟨_, _, _, _, _⟩, _⟩ := c
  simp [ExecutionSettings.ofFields, Checked.field_eq_ok_iff, optional_eq_ok_iff h,
    executionLeaves, Leaf.checked, Leaf.references, Leaf.namespaces, Leaf.packs, Leaf.engine,
    Leaf.preProcessor, and_assoc]

theorem logging_eq_ok_iff (h : Datum.IsSection value) :
    LoggingSettings.ofFields (fieldsOf value) = .ok c.logging ↔
      ∀ leaf ∈ loggingLeaves,
        leaf.checked (Datum.fieldOf leaf.field.1 value) = .ok (leaf.get c) := by
  obtain ⟨_, _, _, ⟨_, _, _⟩⟩ := c
  simp [-Bool.exists_bool, LoggingSettings.ofFields, Checked.field_eq_ok_iff, optional_eq_ok_iff h,
    loggingLeaves, Leaf.checked, Leaf.threshold, Leaf.file, Leaf.isJson]

end Read

/-! ## What settles a leaf -/

/-- What is given for a leaf, if its section mentions it. -/
def givenSetting (given : List (String × Datum)) (leaf : Leaf) : Option Datum :=
  Datum.fieldOf leaf.field.1 (givenSection given leaf.shape.name)

/-- What settles a leaf: what is given for it, or else what the environment sets it to. -/
def settingOf (env : Environment) (given : List (String × Datum)) (leaf : Leaf) : Option Datum :=
  (givenSetting given leaf).or (env.setting leaf.shape leaf.field)

/-- Given sections without directives, which are mappings, and an environment that can be decoded
and holds objects, or nothing, in the variables of sections, and no variable below a field. -/
structure IsOrdinary (env : Environment) (given : List (String × Datum)) : Prop where
  undirected : IsUndirected given
  mappings : ∀ g ∈ given, IsKnown g.1 → ∃ fields, g.2 = .dict fields
  decoded : ∃ environment, env.sections .usual = .ok environment
  objects : ∀ shape ∈ sectionShapes, ∀ text,
    Environment.lookup? env shape.variableName = some text →
      (∃ members, Json.parse? text = some (.obj members)) ∨ Json.parse? text = some .null
  unnested : ∀ shape ∈ sectionShapes, ∀ field ∈ shape.fields, ∀ v ∈ env,
    ¬ shape.IsBelow field.1 (Text.lower v.1)

theorem isSection_givenSection {given : List (String × Datum)}
    (h : ∀ g ∈ given, IsKnown g.1 → ∃ fields, g.2 = .dict fields) {shape : SectionShape}
    (hshape : shape ∈ sectionShapes) : Datum.IsSection (givenSection given shape.name) := by
  unfold givenSection
  cases hfind : given.find? fun g => Text.lower g.1 = shape.name with
  | none => exact .inl rfl
  | some g =>
      have hname : Text.lower g.1 = shape.name := by simpa using List.find?_some hfind
      obtain ⟨fields, hfields⟩ := h g (List.mem_of_find?_eq_some hfind) ⟨shape, hshape, hname.symm⟩
      exact .inr ⟨fields, by rw [Option.map_some, hfields]⟩

section Made

variable {env : Environment} {given : List (String × Datum)}

/-- What the sections of a configuration are read from. -/
def sectionsFrom (given environment : List (String × Datum)) : Fields :=
  (merge (namedSections given) environment).map fun e => (Datum.text e.1, e.2)

/-- A section is read from a mapping whose fields are what settles them. -/
theorem section_spec (h : IsOrdinary env given) {environment : List (String × Datum)}
    (henv : env.sections .usual = .ok environment) {shape : SectionShape}
    (hshape : shape ∈ sectionShapes) :
    Datum.IsSection (Datum.entry? shape.name (sectionsFrom given environment)) ∧
      ∀ field ∈ shape.fields,
        Datum.fieldOf field.1 (Datum.entry? shape.name (sectionsFrom given environment)) =
          (Datum.fieldOf field.1 (givenSection given shape.name)).or (env.setting shape field) := by
  have hvalue := get?_environment henv hshape
  obtain ⟨htheirs, hset⟩ := Environment.sectionValue_spec hshape (h.unnested shape hshape)
    (h.objects shape hshape) hvalue
  have hmine : Datum.IsSection (Entries.get? (namedSections given) shape.name) := by
    rw [get?_namedSections given hshape]
    exact isSection_givenSection h.mappings hshape
  obtain ⟨hsection, hfields⟩ := fieldOf_merge hmine htheirs
  rw [sectionsFrom, Datum.entry?_texts]
  refine ⟨hsection, fun field hfield => ?_⟩
  rw [hfields, get?_namedSections given hshape, hset field hfield]

/-- The leaves of a section are read from what settles them. -/
theorem settled_iff (h : IsOrdinary env given) {environment : List (String × Datum)}
    (henv : env.sections .usual = .ok environment) {shape : SectionShape}
    (hshape : shape ∈ sectionShapes) {leaves : List Leaf}
    (hleaves : leaves.map (fun leaf => (leaf.shape, leaf.field)) =
      shape.fields.map fun field => (shape, field)) (c : Configuration) :
    (∀ leaf ∈ leaves, leaf.checked (Datum.fieldOf leaf.field.1
      (Datum.entry? shape.name (sectionsFrom given environment))) = .ok (leaf.get c)) ↔
        ∀ leaf ∈ leaves, leaf.checked (settingOf env given leaf) = .ok (leaf.get c) := by
  apply forall₂_congr
  intro leaf hleaf
  have hin : (leaf.shape, leaf.field) ∈ shape.fields.map fun field => (shape, field) := by
    rw [← hleaves]
    exact List.mem_map.mpr ⟨leaf, hleaf, rfl⟩
  obtain ⟨field, hfield, heq⟩ := List.mem_map.mp hin
  obtain ⟨rfl, rfl⟩ := Prod.mk.inj heq
  rw [(section_spec h henv hshape).2 leaf.field hfield, settingOf, givenSetting]

theorem names_sections {environment : List (String × Datum)}
    (henv : env.sections .usual = .ok environment) :
    unknownNames ((sectionsFrom given environment).filterMap fun e =>
      e.1.text?.map fun name => (name, e.2)) = .ok () ↔ ∀ g ∈ given, IsKnown g.1 := by
  have hnames := names_environment henv
  rw [sectionsFrom, filterMap_texts, unknownNames_eq_ok_iff]
  constructor
  · intro hall g hg
    by_contra hunknown
    obtain ⟨shape, hshape, hname⟩ := hall g (mem_merge_of_unknown hnames hg hunknown)
    exact hunknown (hname ▸ isKnown_of_name hshape)
  · exact fun hall e he => known_of_mem_merge hnames hall he

/-- A configuration is the one whose every value is what settles it; there is none if a value cannot
be read or a given name is no section. -/
theorem make_eq_ok_iff (d : Disk) (h : IsOrdinary env given) (c : Configuration) :
    make env d given = .ok c ↔
      (∀ leaf ∈ leaves, leaf.checked (settingOf env given leaf) = .ok (leaf.get c)) ∧
        ∀ g ∈ given, IsKnown g.1 := by
  obtain ⟨environment, henv⟩ := h.decoded
  have hmade : make env d given = ofSections (sectionsFrom given environment) :=
    make_of_sections d h.undirected henv
  have hsection : ∀ shape ∈ sectionShapes,
      Datum.IsSection (Datum.entry? shape.name (sectionsFrom given environment)) :=
    fun shape hshape => (section_spec h henv hshape).1
  have hfolders : folderShape ∈ sectionShapes := by simp [sectionShapes]
  have hlibrary : libraryShape ∈ sectionShapes := by simp [sectionShapes]
  have hexecution : executionShape ∈ sectionShapes := by simp [sectionShapes]
  have hlogging : loggingShape ∈ sectionShapes := by simp [sectionShapes]
  rw [hmade, ofSections_eq_ok_iff, names_sections henv,
    sectionOf_eq_ok_iff (hsection _ hfolders), folders_eq_ok_iff (hsection _ hfolders),
    sectionOf_eq_ok_iff (hsection _ hlibrary), library_eq_ok_iff (hsection _ hlibrary),
    sectionOf_eq_ok_iff (hsection _ hexecution), execution_eq_ok_iff (hsection _ hexecution),
    sectionOf_eq_ok_iff (hsection _ hlogging), logging_eq_ok_iff (hsection _ hlogging),
    settled_iff h henv hfolders rfl, settled_iff h henv hlibrary rfl,
    settled_iff h henv hexecution rfl, settled_iff h henv hlogging rfl]
  simp only [leaves, List.forall_mem_append, and_assoc]

/-- There is a configuration if every value can be read and every given name is a section. -/
theorem make_ok_iff (d : Disk) (h : IsOrdinary env given) :
    (∃ c, make env d given = .ok c) ↔
      (∀ leaf ∈ leaves, ∃ v, leaf.checked (settingOf env given leaf) = .ok v) ∧
        ∀ g ∈ given, IsKnown g.1 := by
  constructor
  · rintro ⟨c, hc⟩
    obtain ⟨hleaves, hknown⟩ := (make_eq_ok_iff d h c).mp hc
    exact ⟨fun leaf hleaf => ⟨leaf.get c, hleaves leaf hleaf⟩, hknown⟩
  · rintro ⟨hleaves, hknown⟩
    simp only [leaves, folderLeaves, libraryLeaves, executionLeaves, loggingLeaves,
      List.forall_mem_append, List.forall_mem_cons] at hleaves
    obtain ⟨⟨⟨⟨⟨directory, h₁⟩, ⟨bin, h₂⟩, ⟨cache, h₃⟩, ⟨packages, h₄⟩, -⟩, ⟨⟨file, h₅⟩, -⟩⟩,
      ⟨⟨references, h₆⟩, ⟨namespaces, h₇⟩, ⟨packs, h₈⟩, ⟨engine, h₉⟩, ⟨preProcessor, h₁₀⟩, -⟩⟩,
      ⟨⟨level, h₁₁⟩, ⟨log, h₁₂⟩, ⟨isJson, h₁₃⟩, -⟩⟩ := hleaves
    -- the values that can be read, each for itself, make up a configuration
    refine ⟨⟨⟨directory, bin, cache, packages⟩, ⟨file⟩,
      ⟨references, namespaces, packs, engine, preProcessor⟩, ⟨level, log, isJson⟩⟩,
      (make_eq_ok_iff d h _).mpr ⟨?_, hknown⟩⟩
    simp only [leaves, folderLeaves, libraryLeaves, executionLeaves, loggingLeaves,
      List.forall_mem_append, List.forall_mem_cons]
    exact ⟨⟨⟨⟨h₁, h₂, h₃, h₄, nofun⟩, ⟨h₅, nofun⟩⟩, ⟨h₆, h₇, h₈, h₉, h₁₀, nofun⟩⟩,
      ⟨h₁₁, h₁₂, h₁₃, nofun⟩⟩

/-- A given name that is no section is reported. -/
theorem make_of_unknown (d : Disk) (h : IsOrdinary env given) {g : String × Datum} (hg : g ∈ given)
    (hunknown : ¬ IsKnown g.1) (hreadable : Text.isBroken g.1 = false) :
    ∃ issues, make env d given = .error (.invalid model issues) ∧
      ⟨[.field g.1], .unknownField, Checked.givenOf g.2⟩ ∈ issues := by
  obtain ⟨environment, henv⟩ := h.decoded
  have hin := mem_merge_of_unknown (names_environment henv) hg hunknown
  have hnone : ∀ shape ∈ sectionShapes, shape.name ≠ g.1 := fun shape hshape hname =>
    hunknown (hname ▸ isKnown_of_name hshape)
  rw [make_of_sections d h.undirected henv]
  exact ofSections_of_stray hin hnone hreadable

end Made

/-! ## The law -/

/-- What settles the values of a configuration that is loaded, where the chosen file gives some
sections. -/
structure PrecedenceLaw (env : Environment) (d : Disk) (path : Option String)
    (given : List (String × Datum)) : Prop where
  /-- A file that is asked for is the chosen one. -/
  asked : ∀ file, path = some file → file ≠ "" →
    d.exists_ file = .ok true ∧ sectionsIn d file = .ok given
  /-- Otherwise it is the first one with a usual name, and no other one counts. -/
  unasked : IsUnasked path →
    (given = [] ∧ ∀ name ∈ usualNames, d.exists_ name = .ok false) ∨
      ∃ before name after, usualNames = before ++ name :: after ∧ d.exists_ name = .ok true ∧
        (∀ earlier ∈ before, d.exists_ earlier = .ok false) ∧ sectionsIn d name = .ok given
  /-- Every value is settled for itself. -/
  loaded : ∀ c, load env d path = .ok c ↔
    (∀ leaf ∈ leaves, leaf.checked (settingOf env given leaf) = .ok (leaf.get c)) ∧
      ∀ g ∈ given, IsKnown g.1
  /-- Whether there is a configuration depends on nothing but what settles the values, and on the
  names of the given sections: other names within a section do not count. -/
  loads : (∃ c, load env d path = .ok c) ↔
    (∀ leaf ∈ leaves, ∃ v, leaf.checked (settingOf env given leaf) = .ok v) ∧
      ∀ g ∈ given, IsKnown g.1
  /-- What the file mentions is what the file says, even if that is nothing. -/
  byFile : ∀ c, load env d path = .ok c → ∀ leaf ∈ leaves, ∀ value,
    givenSetting given leaf = some value → leaf.read value = .ok (leaf.get c)
  /-- What it does not mention is what a variable of its own says, unless the object in the variable
  of the section spells its name as it is and further on in another way. -/
  byVariable : ∀ c, load env d path = .ok c → ∀ leaf ∈ leaves, ∀ value,
    givenSetting given leaf = none → env.ownSetting leaf.shape leaf.field = some value →
    (∀ j, (env.lookup? leaf.shape.variableName).bind Json.parse? = some j → ∃ members,
      j = .obj members ∧
        Entries.isRespelled (Environment.membersOf members) leaf.field.1 = false) →
    leaf.read value = .ok (leaf.get c)
  /-- Without such a variable, or in the case excepted, it is what that object says. -/
  byObject : ∀ c, load env d path = .ok c → ∀ leaf ∈ leaves, ∀ value members,
    givenSetting given leaf = none →
    (env.lookup? leaf.shape.variableName).bind Json.parse? = some (.obj members) →
    (env.ownSetting leaf.shape leaf.field = none ∨
      Entries.isRespelled (Environment.membersOf members) leaf.field.1 = true) →
    Environment.inObject (Environment.membersOf members) leaf.field.1 = some value →
    leaf.read value = .ok (leaf.get c)
  /-- What nothing says is the default, and so is what a file does not mention if the variable of
  the section holds nothing. -/
  byDefault : ∀ c, load env d path = .ok c → ∀ leaf ∈ leaves, givenSetting given leaf = none →
    (env.ownSetting leaf.shape leaf.field = none ∨
      (env.lookup? leaf.shape.variableName).bind Json.parse? = some .null) →
    (∀ members, (env.lookup? leaf.shape.variableName).bind Json.parse? = some (.obj members) →
      Environment.inObject (Environment.membersOf members) leaf.field.1 = none) →
    leaf.get c = leaf.default
  /-- A file that says the same about every value, whatever else its sections hold, gives the same
  configuration. -/
  ignored : ∀ other, IsOrdinary env other →
    (∀ leaf ∈ leaves, givenSetting other leaf = givenSetting given leaf) →
    ((∀ g ∈ other, IsKnown g.1) ↔ ∀ g ∈ given, IsKnown g.1) →
    ∀ c, make env d other = .ok c ↔ load env d path = .ok c
  /-- A name that is no section is reported. -/
  unknown : ∀ g ∈ given, ¬ IsKnown g.1 → Text.isBroken g.1 = false →
    ∃ issues, load env d path = .error (.invalid model issues) ∧
      ⟨[.field g.1], .unknownField, Checked.givenOf g.2⟩ ∈ issues

/-- Every configuration that is loaded obeys the law. -/
theorem precedence_law {env : Environment} {d : Disk} {path : Option String}
    {given : List (String × Datum)} (hgiven : givenBy d path = .ok given)
    (h : IsOrdinary env given) : PrecedenceLaw env d path given := by
  have hload : load env d path = make env d given := by
    rw [load_eq, hgiven]
    rfl
  have hvalue : ∀ c, load env d path = .ok c → ∀ leaf ∈ leaves,
      leaf.checked (settingOf env given leaf) = .ok (leaf.get c) := by
    intro c hc
    rw [hload] at hc
    exact ((make_eq_ok_iff d h c).mp hc).1
  have hread : ∀ c, load env d path = .ok c → ∀ leaf ∈ leaves, ∀ value,
      settingOf env given leaf = some value → leaf.read value = .ok (leaf.get c) := by
    intro c hc leaf hleaf value hsetting
    have hchecked := hvalue c hc leaf hleaf
    rw [hsetting] at hchecked
    exact hchecked
  constructor
  case asked =>
    rintro file rfl hne
    exact asked_of_givenBy hne hgiven
  case unasked => exact fun hpath => unasked_of_givenBy hpath hgiven
  case loaded =>
    intro c
    rw [hload]
    exact make_eq_ok_iff d h c
  case loads =>
    rw [hload]
    exact make_ok_iff d h
  case byFile =>
    intro c hc leaf hleaf value hfile
    apply hread c hc leaf hleaf
    rw [settingOf, hfile, Option.some_or]
  case byVariable =>
    intro c hc leaf hleaf value hfile hown hobject
    apply hread c hc leaf hleaf
    rw [settingOf, hfile, Option.none_or, Environment.setting]
    cases hparse : (env.lookup? leaf.shape.variableName).bind Json.parse? with
    | none => exact hown
    | some j =>
        obtain ⟨members, rfl, hspelled⟩ := hobject j hparse
        dsimp only
        rw [hspelled, if_neg Bool.false_ne_true, hown, Option.some_or]
  case byObject =>
    intro c hc leaf hleaf value members hfile hparse hown hobject
    apply hread c hc leaf hleaf
    rw [settingOf, hfile, Option.none_or, Environment.setting, hparse]
    dsimp only
    split
    · exact hobject
    · next hspelled =>
      rcases hown with hown | hown
      · rw [hown, Option.none_or, hobject]
      · exact absurd hown hspelled
  case byDefault =>
    intro c hc leaf hleaf hfile hown hobject
    have hnone : settingOf env given leaf = none := by
      rw [settingOf, hfile, Option.none_or, Environment.setting]
      rcases hown with hown | hnull
      · split
        · exact hown
        · next members hparse =>
          rw [hobject members hparse, hown]
          exact ite_self none
        · rfl
      · rw [hnull]
    have hchecked := hvalue c hc leaf hleaf
    rw [hnone] at hchecked
    exact (Except.ok.inj hchecked).symm
  case ignored =>
    intro other hother hsame hknown c
    have hsettings : ∀ leaf ∈ leaves, settingOf env other leaf = settingOf env given leaf := by
      intro leaf hleaf
      rw [settingOf, hsame leaf hleaf, settingOf]
    rw [hload, make_eq_ok_iff d hother, make_eq_ok_iff d h, hknown]
    apply and_congr_left'
    apply forall₂_congr
    intro leaf hleaf
    rw [hsettings leaf hleaf]
  case unknown =>
    intro g hg hunknown hreadable
    rw [hload]
    exact make_of_unknown d h hg hunknown hreadable

/-! ## A sample -/

/-- A directory with one file. -/
def fileDisk (name text : String) : Disk where
  nodes := [(["work"], .directory), (["work", name], .file (Text.encodeUtf8 text))]
  place := ["work"]

/-- The configuration of defaults alone. -/
def bare : Configuration where
  folders := ⟨none, "bin", ".cache", "packages"⟩
  library := ⟨"ScriptLibraries.csx"⟩
  execution := ⟨[], [], [], "scriptcore.hosting.engine:DryRunEngine",
    "scriptcore.hosting.preprocessor:PassthroughPreProcessor"⟩
  logging := ⟨.info, none, false⟩

/-- An environment that sets some values in each of the ways there are. -/
def sampleSettings : Environment := [
  ("Scriptcore_Library__File_Name", "Hidden.csx"),
  ("SCRIPTCORE_EXECUTION", "\x7b\"engine\": \"m:Hidden\", \"PreProcessor\": \"m:P\"\x7d"),
  ("SCRIPTCORE_EXECUTION__ENGINE", "m:E")]

/-- Whether a variable is missing or holds an object or nothing. -/
def holdsObject : Option String → Bool
  | none => true
  | some text =>
    match Json.parse? text with
    | some (.obj _) | some .null => true
    | _ => false

theorem object_of_holdsObject {value : Option String} (h : holdsObject value = true) {text : String}
    (htext : value = some text) :
    (∃ members, Json.parse? text = some (.obj members)) ∨ Json.parse? text = some .null := by
  subst htext
  rw [holdsObject] at h
  split at h
  · next members hparse => exact .inl ⟨members, hparse⟩
  · next hparse => exact .inr hparse
  · cases h

theorem make_sample : make sampleSettings (fileDisk "scriptcore.yaml" libraryText)
    [("library", .fields [("file_name", .text "Other.csx")])] = .ok
      { bare with
        library := ⟨"Other.csx"⟩
        execution := { bare.execution with engine := "m:E", preProcessor := "m:P" } } := by
  decide +kernel

theorem isOrdinary_sample :
    IsOrdinary sampleSettings [("library", .fields [("file_name", .text "Other.csx")])] := by
  have hundirected : IsUndirected [("library", .fields [("file_name", .text "Other.csx")])] := by
    intro g hg
    rw [List.mem_singleton.mp hg]
    rfl
  constructor
  case undirected => exact hundirected
  case mappings =>
    intro g hg _
    rw [List.mem_singleton.mp hg]
    exact ⟨_, rfl⟩
  case decoded => exact sections_of_make hundirected make_sample
  case objects =>
    have hall : ∀ shape ∈ sectionShapes,
        holdsObject (Environment.lookup? sampleSettings shape.variableName) = true := by
      decide +kernel
    exact fun shape hshape text htext => object_of_holdsObject (hall shape hshape) htext
  case unnested =>
    unfold SectionShape.IsBelow
    decide +kernel

theorem givenBy_sample : givenBy (fileDisk "scriptcore.yaml" libraryText) none =
    .ok [("library", .fields [("file_name", .text "Other.csx")])] := by
  have hsource : source (fileDisk "scriptcore.yaml" libraryText) none =
      .ok (some "scriptcore.yaml") := by decide +kernel
  have hcontent : (fileDisk "scriptcore.yaml" libraryText).contentOf "scriptcore.yaml" =
      .ok (Text.encodeUtf8 libraryText) := by decide +kernel
  rw [givenBy_of_source hsource]
  exact sectionsIn_library hcontent

/-- Whether JSON is an object of two texts. -/
def isPair (first second : String × String) : Option Json → Bool
  | some (.obj [(m, .text s), (n, .text t)]) => (m, s) == first && (n, t) == second
  | _ => false

theorem eq_of_isPair {first second : String × String} {j : Option Json}
    (h : isPair first second j = true) :
    j = some (.obj [(first.1, .text first.2), (second.1, .text second.2)]) := by
  unfold isPair at h
  split at h
  · rw [Bool.and_eq_true, beq_iff_eq, beq_iff_eq] at h
    obtain ⟨rfl, rfl⟩ := h
    rfl
  · cases h

theorem object_in_sample :
    (Environment.lookup? sampleSettings executionShape.variableName).bind Json.parse? =
      some (.obj [("engine", .text "m:Hidden"), ("PreProcessor", .text "m:P")]) := by
  have htext : Environment.lookup? sampleSettings executionShape.variableName =
      some "\x7b\"engine\": \"m:Hidden\", \"PreProcessor\": \"m:P\"\x7d" := by decide +kernel
  rw [htext, Option.bind_some]
  have hpair : isPair ("engine", "m:Hidden") ("PreProcessor", "m:P")
      (Json.parse? "\x7b\"engine\": \"m:Hidden\", \"PreProcessor\": \"m:P\"\x7d") = true := by
    decide +kernel
  exact eq_of_isPair hpair

/-- In the sample the file settles the name of the library, a variable of its own the engine, the
object in the variable of the section the pre-processor, and nothing the references. -/
theorem precedence_in_sample :
    (∃ c, load sampleSettings (fileDisk "scriptcore.yaml" libraryText) none = .ok c) ∧
      ∀ c, load sampleSettings (fileDisk "scriptcore.yaml" libraryText) none = .ok c →
        c.library.fileName = "Other.csx" ∧ c.execution.engine = "m:E" ∧
          c.execution.preProcessor = "m:P" ∧ c.execution.references = [] := by
  have hlaw := precedence_law givenBy_sample isOrdinary_sample
  refine ⟨⟨_, (hlaw.loaded _).mpr ((make_eq_ok_iff _ isOrdinary_sample _).mp make_sample)⟩, ?_⟩
  intro c hc
  have hfileName : Schema.text (.text "Other.csx") = .ok c.library.fileName :=
    hlaw.byFile c hc .fileName (by simp [leaves, libraryLeaves]) (.text "Other.csx") rfl
  have hengine : Schema.text (.text "m:E") = .ok c.execution.engine := by
    have hvariable : Environment.lookup? sampleSettings
        (Leaf.engine.shape.fieldVariable Leaf.engine.field.1) = some "m:E" := by decide +kernel
    refine hlaw.byVariable c hc .engine (by simp [leaves, executionLeaves]) (.text "m:E") rfl
      (Environment.ownSetting_of_some hvariable) ?_
    intro j hj
    have hobject := object_in_sample.symm.trans hj
    cases hobject
    exact ⟨_, rfl, by decide +kernel⟩
  have hpreProcessor : Schema.text (.text "m:P") = .ok c.execution.preProcessor := by
    have hvariable : Environment.lookup? sampleSettings
        (Leaf.preProcessor.shape.fieldVariable Leaf.preProcessor.field.1) = none := by
      decide +kernel
    refine hlaw.byObject c hc .preProcessor (by simp [leaves, executionLeaves]) (.text "m:P") _ rfl
      object_in_sample (.inl (Environment.ownSetting_of_none hvariable)) ?_
    rfl
  have hreferences : c.execution.references = [] := by
    have hvariable : Environment.lookup? sampleSettings
        (Leaf.references.shape.fieldVariable Leaf.references.field.1) = none := by decide +kernel
    refine hlaw.byDefault c hc .references (by simp [leaves, executionLeaves]) rfl
      (.inl (Environment.ownSetting_of_none hvariable)) ?_
    intro members hmembers
    have hobject := object_in_sample.symm.trans hmembers
    cases hobject
    rfl
  refine ⟨(Except.ok.inj hfileName).symm, (Except.ok.inj hengine).symm,
    (Except.ok.inj hpreProcessor).symm, hreferences⟩

/-! ## What the law excepts -/

theorem load_of_lone {text section_ field value : String}
    (hthere : (fileDisk "c.yaml" text).exists_ "c.yaml" = .ok true)
    (hcontent : (fileDisk "c.yaml" text).contentOf "c.yaml" = .ok (Text.encodeUtf8 text))
    (hread : Text.readPieces (Text.encodeUtf8 text) = (text.toList, none))
    (hlone : Yaml.isLone section_ field value (Yaml.document? (Yaml.tokens
      (Yaml.Source.ofChars (Text.plainNewlineChars text.toList) none))) = true)
    (env : Environment) :
    load env (fileDisk "c.yaml" text) (some "c.yaml") =
      make env (fileDisk "c.yaml" text) [(section_, .fields [(field, .text value)])] := by
  rw [load_eq, givenBy_asked (by decide) hthere, sectionsIn_of_lone hcontent hread hlone]
  rfl

/-- A file that begins with a directive. -/
def directiveText : String := "_case_sensitive:\n  file_name: x\n"

/-- A file that names a section in capitals. -/
def capitalText : String := "LIBRARY:\n  file_name: upper\n"

/-- A directive in a file is no unknown name, and a section may be named in capitals; an empty path
asks for no file; an object may spell a field in another case, and wins over the variable of the
field if it does so behind the name as it is; a section that holds nothing hides the variables of
its fields; and a variable below a field keeps it from being read. -/
theorem precedence_exceptions :
    load [] (fileDisk "c.yaml" directiveText) (some "c.yaml") = .ok bare ∧
    load [] (fileDisk "c.yaml" capitalText) (some "c.yaml") =
      .ok { bare with library := ⟨"upper"⟩ } ∧
    load [] (fileDisk "c.yaml" capitalText) (some "") = .ok bare ∧
    load [("SCRIPTCORE_LIBRARY", "\x7b\"FILE_NAME\":\"c\"\x7d")]
      (fileDisk "c.yaml" capitalText) none = .ok { bare with library := ⟨"c"⟩ } ∧
    load [("SCRIPTCORE_LIBRARY", "\x7b\"file_name\":\"a\",\"FILE_NAME\":\"c\"\x7d"),
        ("SCRIPTCORE_LIBRARY__FILE_NAME", "b")] (fileDisk "c.yaml" capitalText) none =
      .ok { bare with library := ⟨"c"⟩ } ∧
    load [("SCRIPTCORE_LIBRARY", "null"), ("SCRIPTCORE_LIBRARY__FILE_NAME", "b")]
      (fileDisk "c.yaml" capitalText) none = .ok bare ∧
    load [("SCRIPTCORE_LIBRARY__FILE_NAME__X", "1")] (fileDisk "c.yaml" capitalText) none =
      .error (.invalid model [⟨[.field "library", .field "file_name"], .textExpected,
        ⟨"\x7b'x': '1'\x7d", "dict"⟩⟩]) := by
  have hdirective : load [] (fileDisk "c.yaml" directiveText) (some "c.yaml") =
      make [] (fileDisk "c.yaml" directiveText)
        [("_case_sensitive", .fields [("file_name", .text "x")])] :=
    load_of_lone (by decide +kernel) (by decide +kernel) (by decide +kernel) (by decide +kernel) []
  have hcapital : load [] (fileDisk "c.yaml" capitalText) (some "c.yaml") =
      make [] (fileDisk "c.yaml" capitalText)
        [("LIBRARY", .fields [("file_name", .text "upper")])] :=
    load_of_lone (by decide +kernel) (by decide +kernel) (by decide +kernel) (by decide +kernel) []
  rw [hdirective, hcapital]
  exact ⟨by decide +kernel, by decide +kernel, by decide +kernel, by decide +kernel,
    by decide +kernel, by decide +kernel, by decide +kernel⟩

end Configuration

end ScriptHost
