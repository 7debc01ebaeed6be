import Mathlib.Data.List.DropRight
import ScriptHost.Proofs.Config.Sections

/-!
# Configurations that can be read

A configuration that was made of anything at all is sound: every code in its texts is that of a
character, and the names of its folders are neither blank nor surrounded by blanks.  Nothing more
is asked of a configuration, and reading a sound one gives it back: what the readers answer, they
accept, and a field that has no value has none by default.

## Main results

* `isSound_of_make` — what is made is sound.
* `make_of_isSound` — a sound configuration is made of its own fields.
* `isSound_iff_made` — a configuration is sound exactly when it can be made.
-/

namespace ScriptHost

open Schema (Checked Fields)
open Sequence (Entries)

/-! ## Values that were read -/

namespace Text

/-- A text is stripped at once. -/
theorem stripChars_stripChars (cs : List Char) : stripChars (stripChars cs) = stripChars cs := by
  obtain ⟨ws, hws, hblank⟩ := exists_stripRight_append (stripLeft cs)
  calc stripChars (stripRight (stripLeft cs))
    _ = stripChars (stripRight (stripLeft cs) ++ ws) := (stripChars_append_blanks _ hblank).symm
    _ = stripRight (stripLeft (stripLeft cs)) := by rw [← hws, stripChars]
    _ = stripRight (stripLeft cs) := by rw [stripLeft, stripLeft, List.dropWhile_idempotent]

theorem strip_strip (s : String) : strip (strip s) = strip s := by
  rw [strip, strip, String.toList_ofList, stripChars_stripChars]

/-- A text is whole if every code in it is that of a character. -/
def IsWhole (s : String) : Prop := isBroken s = false

instance (s : String) : Decidable (IsWhole s) := inferInstanceAs (Decidable (_ = _))

theorem isWhole_strip {s : String} (h : IsWhole s) : IsWhole (strip s) := by
  rw [IsWhole, isBroken, List.any_eq_false] at h ⊢
  intro c hc
  rw [strip, String.toList_ofList] at hc
  exact h c (mem_of_mem_stripChars hc)

end Text

namespace Schema

variable {α : Type} {d : Datum}

theorem whole_eq_ok_iff {s t : String} : whole s = .ok t ↔ Text.IsWhole s ∧ s = t := by
  unfold whole Text.IsWhole
  cases Text.isBroken s with
  | true => simp [Checked.complain]
  | false => simp

/-- A text that was read is whole. -/
theorem isWhole_of_text {s : String} (h : text d = .ok s) : Text.IsWhole s := by
  unfold text at h
  split at h
  · obtain ⟨hwhole, rfl⟩ := whole_eq_ok_iff.mp h
    exact hwhole
  · split at h
    · obtain ⟨hwhole, rfl⟩ := whole_eq_ok_iff.mp h
      exact hwhole
    · cases h
  · cases h

theorem text_of_isWhole {s : String} (h : Text.IsWhole s) : text (.text s) = .ok s :=
  whole_eq_ok_iff.mpr ⟨h, rfl⟩

/-- The name of a folder is neither blank nor surrounded by blanks. -/
def IsTrimmed (s : String) : Prop := Text.strip s = s ∧ s ≠ ""

instance (s : String) : Decidable (IsTrimmed s) := inferInstanceAs (Decidable (_ ∧ _))

theorem isTrimmed_of_folder {s : String} (h : folder d = .ok s) :
    Text.IsWhole s ∧ IsTrimmed s := by
  unfold folder at h
  split at h
  · cases h
  · next given htext =>
    split at h
    · cases h
    · next hsome =>
      cases h
      refine ⟨Text.isWhole_strip (isWhole_of_text htext), Text.strip_strip given, ?_⟩
      intro hempty
      apply hsome
      rw [List.isEmpty_iff, ← String.toList_ofList (l := Text.stripChars given.toList)]
      exact congrArg String.toList hempty

theorem folder_of_isTrimmed {s : String} (hwhole : Text.IsWhole s) (h : IsTrimmed s) :
    folder (.text s) = .ok s := by
  have hchars : Text.stripChars s.toList = s.toList := by
    have hlist := congrArg String.toList h.1
    rwa [Text.strip, String.toList_ofList] at hlist
  have hsome : ¬ s.toList.isEmpty = true := by
    rw [List.isEmpty_iff]
    exact fun hnil => h.2 (String.toList_inj.mp hnil)
  rw [folder, text_of_isWhole hwhole]
  dsimp only
  rw [hchars, if_neg hsome, h.1]

theorem isWhole_of_optionalText {value : Option String} (h : optionalText d = .ok value) :
    ∀ s ∈ value.toList, Text.IsWhole s := by
  unfold optionalText at h
  split at h
  · cases h
    exact fun s hnone => absurd hnone List.not_mem_nil
  · cases htext : text d with
    | error issues =>
        rw [htext] at h
        cases h
    | ok s =>
        rw [htext] at h
        cases h
        exact List.forall_mem_singleton.mpr (isWhole_of_text htext)

theorem optionalText_of_isWhole {s : String} (h : Text.IsWhole s) :
    optionalText (.text s) = .ok (some s) := by
  rw [optionalText, text_of_isWhole h]
  · rfl
  · exact nofun

theorem isWhole_of_itemsFrom {index : Nat} {items : List Datum} {ss : List String}
    (h : itemsFrom text index items = .ok ss) : ∀ s ∈ ss, Text.IsWhole s := by
  induction items generalizing index ss with
  | nil =>
      cases h
      exact fun s hnone => absurd hnone List.not_mem_nil
  | cons item items ih =>
      rw [itemsFrom] at h
      obtain ⟨_, rest, hfirst, hrest, rfl⟩ := Checked.field_eq_ok_iff.mp h
      obtain ⟨_, s, hcons, hitem, rfl⟩ := Checked.field_eq_ok_iff.mp hfirst
      cases hcons
      have hwhole : Text.IsWhole s := by
        rw [Checked.within] at hitem
        cases htext : text item with
        | error issues =>
            rw [htext] at hitem
            cases hitem
        | ok t =>
            rw [htext] at hitem
            cases hitem
            exact isWhole_of_text htext
      exact List.forall_mem_cons.mpr ⟨hwhole, ih hrest⟩

theorem isWhole_of_texts {ss : List String} (h : texts d = .ok ss) :
    ∀ s ∈ ss, Text.IsWhole s := by
  unfold texts at h
  split at h
  · exact isWhole_of_itemsFrom h
  · exact isWhole_of_itemsFrom h
  · exact isWhole_of_itemsFrom h
  · cases h

theorem itemsFrom_of_isWhole (index : Nat) {ss : List String} (h : ∀ s ∈ ss, Text.IsWhole s) :
    itemsFrom text index (ss.map Datum.text) = .ok ss := by
  induction ss generalizing index with
  | nil => rfl
  | cons s ss ih =>
      obtain ⟨hs, hrest⟩ := List.forall_mem_cons.mp h
      rw [List.map_cons, itemsFrom, ih (index + 1) hrest, text_of_isWhole hs]
      rfl

theorem texts_of_isWhole {ss : List String} (h : ∀ s ∈ ss, Text.IsWhole s) :
    texts (.texts ss) = .ok ss := itemsFrom_of_isWhole 0 h

theorem threshold_word (t : Threshold) : threshold (.text t.word) = .ok t := by
  rw [threshold, Datum.text?, Option.bind_some, Threshold.ofWord?_word]

/-- What holds of the default and of all that can be read holds of a field. -/
theorem of_optional {P : α → Prop} {name : String} {read : Datum → Checked α} {default a : α}
    {fields : Fields} (h : optional name read default fields = .ok a) (hdefault : P default)
    (hread : ∀ d b, read d = .ok b → P b) : P a := by
  unfold optional at h
  split at h
  · next d _ =>
    rw [Checked.within] at h
    cases hvalue : read d with
    | error issues =>
        rw [hvalue] at h
        cases h
    | ok b =>
        rw [hvalue] at h
        cases h
        exact hread d _ hvalue
  · cases h
    exact hdefault

theorem optional_of_some {name : String} {read : Datum → Checked α} {default a : α}
    {fields : Fields} (h : Datum.entry? name fields = some d) (hread : read d = .ok a) :
    optional name read default fields = .ok a := by
  rw [optional, h]
  dsimp only
  rw [Checked.within, hread]
  rfl

theorem optional_of_none {name : String} {read : Datum → Checked α} {default : α}
    {fields : Fields} (h : Datum.entry? name fields = none) :
    optional name read default fields = .ok default := by
  rw [optional, h]

end Schema

/-! ## Sound sections -/

/-- The folders have trimmed names, and all texts are whole. -/
structure FolderSettings.IsSound (s : FolderSettings) : Prop where
  currentDirectory : ∀ t ∈ s.currentDirectory.toList, Text.IsWhole t
  whole : ∀ t ∈ [s.binFolder, s.cacheFolder, s.packagesFolder], Text.IsWhole t
  trimmed : ∀ t ∈ [s.binFolder, s.cacheFolder, s.packagesFolder], Schema.IsTrimmed t

/-- The name of the library's file is whole. -/
structure LibrarySettings.IsSound (s : LibrarySettings) : Prop where
  fileName : Text.IsWhole s.fileName

/-- The texts that scripts are executed with are whole. -/
structure ExecutionSettings.IsSound (s : ExecutionSettings) : Prop where
  references : ∀ t ∈ s.references, Text.IsWhole t
  namespaces : ∀ t ∈ s.namespaces, Text.IsWhole t
  packs : ∀ t ∈ s.packs, Text.IsWhole t
  engine : Text.IsWhole s.engine
  preProcessor : Text.IsWhole s.preProcessor

/-- The path of the log file is whole. -/
structure LoggingSettings.IsSound (s : LoggingSettings) : Prop where
  file : ∀ t ∈ s.file.toList, Text.IsWhole t

/-- Every section is sound. -/
structure Configuration.IsSound (c : Configuration) : Prop where
  folders : c.folders.IsSound
  library : c.library.IsSound
  execution : c.execution.IsSound
  logging : c.logging.IsSound

/-! ### What is read is sound -/

section Read

variable {fields : Fields}

/-- The name of a folder that has a trimmed default is trimmed. -/
theorem isTrimmed_of_optional {name default t : String}
    (h : Schema.optional name Schema.folder default fields = .ok t)
    (hdefault : Text.IsWhole default ∧ Schema.IsTrimmed default) :
    Text.IsWhole t ∧ Schema.IsTrimmed t :=
  Schema.of_optional (P := fun t => Text.IsWhole t ∧ Schema.IsTrimmed t) h hdefault
    fun _ _ => Schema.isTrimmed_of_folder

/-- A text that has a whole default is whole. -/
theorem isWhole_of_optional {name default t : String}
    (h : Schema.optional name Schema.text default fields = .ok t)
    (hdefault : Text.IsWhole default) : Text.IsWhole t :=
  Schema.of_optional (P := Text.IsWhole) h hdefault fun _ _ => Schema.isWhole_of_text

/-- Texts that are none by default are whole. -/
theorem areWhole_of_optional {name : String} {ts : List String}
    (h : Schema.optional name Schema.texts [] fields = .ok ts) : ∀ t ∈ ts, Text.IsWhole t :=
  Schema.of_optional (P := fun ts => ∀ t ∈ ts, Text.IsWhole t) h
    (fun _ hnone => absurd hnone List.not_mem_nil) fun _ _ => Schema.isWhole_of_texts

/-- A text that is left out by default is whole. -/
theorem isWhole_of_optional_none {name : String} {value : Option String}
    (h : Schema.optional name Schema.optionalText none fields = .ok value) :
    ∀ t ∈ value.toList, Text.IsWhole t :=
  Schema.of_optional (P := fun value => ∀ t ∈ value.toList, Text.IsWhole t) h
    (fun _ hnone => absurd hnone List.not_mem_nil) fun _ _ => Schema.isWhole_of_optionalText

theorem FolderSettings.isSound_of_ofFields {s : FolderSettings} (h : ofFields fields = .ok s) :
    s.IsSound := by
  obtain ⟨directory, bin, cache, packages⟩ := s
  simp only [ofFields, Checked.field_eq_ok_iff] at h
  obtain ⟨_, _, ⟨_, _, ⟨_, _, ⟨_, _, hmk, hdirectory, rfl⟩, hbin, rfl⟩, hcache, rfl⟩, hpackages,
    hs⟩ := h
  cases hmk
  cases hs
  have hbin := isTrimmed_of_optional hbin ⟨rfl, by decide⟩
  have hcache := isTrimmed_of_optional hcache ⟨rfl, by decide⟩
  have hpackages := isTrimmed_of_optional hpackages ⟨rfl, by decide⟩
  constructor
  case currentDirectory => exact isWhole_of_optional_none hdirectory
  case whole => simp [hbin.1, hcache.1, hpackages.1]
  case trimmed => simp [hbin.2, hcache.2, hpackages.2]

theorem LibrarySettings.isSound_of_ofFields {s : LibrarySettings} (h : ofFields fields = .ok s) :
    s.IsSound := by
  simp only [ofFields, Checked.field_eq_ok_iff] at h
  obtain ⟨_, _, hmk, hfileName, rfl⟩ := h
  cases hmk
  exact ⟨isWhole_of_optional hfileName rfl⟩

theorem ExecutionSettings.isSound_of_ofFields {s : ExecutionSettings}
    (h : ofFields fields = .ok s) : s.IsSound := by
  simp only [ofFields, Checked.field_eq_ok_iff] at h
  obtain ⟨_, _, ⟨_, _, ⟨_, _, ⟨_, _, ⟨_, _, hmk, hreferences, rfl⟩, hnamespaces, rfl⟩, hpacks,
    rfl⟩, hengine, rfl⟩, hpreProcessor, rfl⟩ := h
  cases hmk
  constructor
  case references => exact areWhole_of_optional hreferences
  case namespaces => exact areWhole_of_optional hnamespaces
  case packs => exact areWhole_of_optional hpacks
  case engine => exact isWhole_of_optional hengine (by decide +kernel)
  case preProcessor => exact isWhole_of_optional hpreProcessor (by decide +kernel)

theorem LoggingSettings.isSound_of_ofFields {s : LoggingSettings} (h : ofFields fields = .ok s) :
    s.IsSound := by
  simp only [ofFields, Checked.field_eq_ok_iff] at h
  obtain ⟨_, _, ⟨_, _, ⟨_, _, hmk, -, rfl⟩, hfile, rfl⟩, -, rfl⟩ := h
  cases hmk
  exact ⟨isWhole_of_optional_none hfile⟩

end Read

namespace Configuration

/-- A section is read from some fields, or from none. -/
theorem exists_of_sectionOf {α : Type} {shape : SectionShape} {read : Fields → Checked α}
    {sections : Fields} {a : α} (h : sectionOf shape read sections = .ok a) :
    ∃ fields, read fields = .ok a := by
  unfold sectionOf at h
  split at h
  · next d _ =>
    rw [Checked.within] at h
    cases hvalue : Schema.section_ shape.model read d with
    | error issues =>
        rw [hvalue] at h
        cases h
    | ok b =>
        rw [hvalue] at h
        cases h
        unfold Schema.section_ at hvalue
        split at hvalue
        · exact ⟨_, hvalue⟩
        · cases hvalue
  · exact ⟨[], h⟩

theorem isSound_of_ofSections {sections : Fields} {c : Configuration}
    (h : ofSections sections = .ok c) : c.IsSound := by
  obtain ⟨hfolders, hlibrary, hexecution, hlogging, -⟩ := ofSections_eq_ok_iff.mp h
  obtain ⟨_, hfolders⟩ := exists_of_sectionOf hfolders
  obtain ⟨_, hlibrary⟩ := exists_of_sectionOf hlibrary
  obtain ⟨_, hexecution⟩ := exists_of_sectionOf hexecution
  obtain ⟨_, hlogging⟩ := exists_of_sectionOf hlogging
  constructor
  case folders => exact FolderSettings.isSound_of_ofFields hfolders
  case library => exact LibrarySettings.isSound_of_ofFields hlibrary
  case execution => exact ExecutionSettings.isSound_of_ofFields hexecution
  case logging => exact LoggingSettings.isSound_of_ofFields hlogging

/-- Whatever a configuration is made of, it is sound. -/
theorem isSound_of_make {env : Environment} {d : Disk} {given : List (String × Datum)}
    {c : Configuration} (h : make env d given = .ok c) : c.IsSound := by
  obtain ⟨_, -, h⟩ := exists_of_bind_ok h
  obtain ⟨_, -, h⟩ := exists_of_bind_ok h
  obtain ⟨_, -, h⟩ := exists_of_bind_ok h
  obtain ⟨_, -, h⟩ := exists_of_bind_ok h
  obtain ⟨_, -, h⟩ := exists_of_bind_ok h
  obtain ⟨_, -, h⟩ := exists_of_bind_ok h
  exact isSound_of_ofSections h

end Configuration

/-! ### What is sound is read -/

/-- A mapping without the fields that hold nothing. -/
def Datum.withoutNothing : Datum → Datum
  | dict entries => dict (entries.filter fun e => match e.2 with | null => false | _ => true)
  | d => d

theorem FolderSettings.section_of_isSound {s : FolderSettings} (h : s.IsSound) :
    Schema.section_ folderShape.model ofFields s.toDatum.withoutNothing = .ok s := by
  obtain ⟨directory, bin, cache, packages⟩ := s
  have hbin := Schema.folder_of_isTrimmed (h.whole bin (by simp)) (h.trimmed bin (by simp))
  have hcache := Schema.folder_of_isTrimmed (h.whole cache (by simp)) (h.trimmed cache (by simp))
  have hpackages :=
    Schema.folder_of_isTrimmed (h.whole packages (by simp)) (h.trimmed packages (by simp))
  cases directory with
  | none =>
      change ofFields [(.text "bin_folder", .text bin), (.text "dll_cache_folder", .text cache),
        (.text "packages_folder", .text packages)] = _
      unfold ofFields
      rw [Schema.optional_of_none rfl, Schema.optional_of_some rfl hbin,
        Schema.optional_of_some rfl hcache, Schema.optional_of_some rfl hpackages]
      rfl
  | some directory =>
      have hdirectory := Schema.optionalText_of_isWhole (h.currentDirectory directory (by simp))
      change ofFields [(.text "current_directory", .text directory),
        (.text "bin_folder", .text bin), (.text "dll_cache_folder", .text cache),
        (.text "packages_folder", .text packages)] = _
      unfold ofFields
      rw [Schema.optional_of_some rfl hdirectory, Schema.optional_of_some rfl hbin,
        Schema.optional_of_some rfl hcache, Schema.optional_of_some rfl hpackages]
      rfl

theorem LibrarySettings.section_of_isSound {s : LibrarySettings} (h : s.IsSound) :
    Schema.section_ libraryShape.model ofFields s.toDatum.withoutNothing = .ok s := by
  change ofFields [(.text "file_name", .text s.fileName)] = _
  unfold ofFields
  rw [Schema.optional_of_some rfl (Schema.text_of_isWhole h.fileName)]
  rfl

theorem ExecutionSettings.section_of_isSound {s : ExecutionSettings} (h : s.IsSound) :
    Schema.section_ executionShape.model ofFields s.toDatum.withoutNothing = .ok s := by
  change ofFields [(.text "references", .texts s.references),
    (.text "namespaces", .texts s.namespaces), (.text "script_packs", .texts s.packs),
    (.text "engine", .text s.engine), (.text "preprocessor", .text s.preProcessor)] = _
  unfold ofFields
  rw [Schema.optional_of_some rfl (Schema.texts_of_isWhole h.references),
    Schema.optional_of_some rfl (Schema.texts_of_isWhole h.namespaces),
    Schema.optional_of_some rfl (Schema.texts_of_isWhole h.packs),
    Schema.optional_of_some rfl (Schema.text_of_isWhole h.engine),
    Schema.optional_of_some rfl (Schema.text_of_isWhole h.preProcessor)]
  rfl

theorem LoggingSettings.section_of_isSound {s : LoggingSettings} (h : s.IsSound) :
    Schema.section_ loggingShape.model ofFields s.toDatum.withoutNothing = .ok s := by
  obtain ⟨threshold, file, isJson⟩ := s
  have hlevel := Schema.threshold_word threshold
  have hjson : Schema.truth (.bool isJson) = .ok isJson := rfl
  cases file with
  | none =>
      change ofFields [(.text "level", .text threshold.word),
        (.text "json_format", .bool isJson)] = _
      unfold ofFields
      rw [Schema.optional_of_some rfl hlevel, Schema.optional_of_none rfl,
        Schema.optional_of_some rfl hjson]
      rfl
  | some file =>
      have hfile := Schema.optionalText_of_isWhole (h.file file (by simp))
      change ofFields [(.text "level", .text threshold.word), (.text "file", .text file),
        (.text "json_format", .bool isJson)] = _
      unfold ofFields
      rw [Schema.optional_of_some rfl hlevel, Schema.optional_of_some rfl hfile,
        Schema.optional_of_some rfl hjson]
      rfl

namespace Configuration

/-- The sections of a configuration without the fields that have no value. -/
def given (c : Configuration) : List (String × Datum) :=
  c.sections.map fun e => (e.1, e.2.withoutNothing)

theorem names_given (c : Configuration) :
    c.given.map Prod.fst = sectionShapes.map SectionShape.name := rfl

theorem isUndirected_given (c : Configuration) : IsUndirected c.given := by
  have hnames : ∀ name ∈ sectionShapes.map SectionShape.name, ∀ value,
      Convention.usual.obey name value = none := by
    simp [sectionShapes, folderShape, libraryShape, executionShape, loggingShape, Convention.obey,
      Convention.otherDirectives]
  intro g hg
  exact hnames g.1 (names_given c ▸ List.mem_map.mpr ⟨g, hg, rfl⟩) g.2

/-- The sections of a configuration are given under their own names, in order. -/
theorem namedSections_given (c : Configuration) : namedSections c.given = c.given := by
  have hlower : ∀ shape ∈ sectionShapes, Text.lower shape.name = shape.name :=
    fun _ => lower_name
  have hnames : folderShape.name = "filesystem" ∧ libraryShape.name = "library" ∧
      executionShape.name = "execution" ∧ loggingShape.name = "logging" := ⟨rfl, rfl, rfl, rfl⟩
  simp only [sectionShapes, List.forall_mem_cons, hnames] at hlower
  simp [namedSections, given, sections, sectionShapes, hnames, hlower]

theorem sectionOf_of_section {α : Type} {shape : SectionShape} {read : Fields → Checked α}
    {sections : Fields} {d : Datum} {a : α} (h : Datum.entry? shape.name sections = some d)
    (hread : Schema.section_ shape.model read d = .ok a) :
    sectionOf shape read sections = .ok a := by
  rw [sectionOf, h]
  dsimp only
  rw [hread]
  rfl

/-- A sound configuration is read from its own sections. -/
theorem ofSections_of_isSound {c : Configuration} (h : c.IsSound) :
    ofSections (c.given.map fun e => (Datum.text e.1, e.2)) = .ok c := by
  rw [ofSections_eq_ok_iff]
  refine ⟨sectionOf_of_section rfl (FolderSettings.section_of_isSound h.folders),
    sectionOf_of_section rfl (LibrarySettings.section_of_isSound h.library),
    sectionOf_of_section rfl (ExecutionSettings.section_of_isSound h.execution),
    sectionOf_of_section rfl (LoggingSettings.section_of_isSound h.logging), rfl⟩

end Configuration

/-! ## Making -/

/-- Whether an environment has no variable of the usual convention, in whatever case. -/
def Environment.IsQuiet (env : Environment) : Prop :=
  ∀ v ∈ env, ¬ (Text.lower Convention.usual.mark).toList <+: (Text.lower v.1).toList

namespace Environment

variable {env : Environment}

/-- The names of all variables of a section begin with the mark of the convention. -/
theorem mark_prefix_nameOf {shape : SectionShape} (h : shape ∈ sectionShapes) :
    (Text.lower Convention.usual.mark).toList <+: (Convention.usual.nameOf shape.name).toList := by
  have hall : ∀ name ∈ sectionShapes.map SectionShape.name,
      (Text.lower Convention.usual.mark).toList <+: (Convention.usual.nameOf name).toList := by
    decide +kernel
  exact hall shape.name (List.mem_map.mpr ⟨shape, h, rfl⟩)

theorem not_prefix_of_mem (h : env.IsQuiet) {name : String}
    (hname : name ∈ Entries.names (lookedUp env)) {shape : SectionShape}
    (hshape : shape ∈ sectionShapes) :
    ¬ (Convention.usual.nameOf shape.name).toList <+: name.toList := by
  obtain ⟨v, hv, rfl⟩ := exists_of_mem_lookedUp hname
  exact fun hprefix => h v hv ((mark_prefix_nameOf hshape).trans hprefix)

/-- No variable of a quiet environment sets a field. -/
theorem ownFields_of_quiet (h : env.IsQuiet) {shape : SectionShape} (hshape : shape ∈ sectionShapes)
    {vars : Entries (Option String)} (hvars : ∀ v ∈ vars, v ∈ lookedUp env) :
    ownFields .usual "__" shape vars [] = some [] := by
  induction vars with
  | nil => rfl
  | cons v vars ih =>
      obtain ⟨name, text⟩ := v
      have hnone : behind? (Convention.usual.nameOf shape.name ++ "__") name = none := by
        cases hbehind : behind? (Convention.usual.nameOf shape.name ++ "__") name with
        | none => rfl
        | some tail =>
            have hname : name ∈ Entries.names (lookedUp env) :=
              List.mem_map.mpr ⟨_, hvars _ List.mem_cons_self, rfl⟩
            refine absurd ?_ (not_prefix_of_mem h hname hshape)
            rw [behind?_eq_some hbehind, String.toList_append, String.toList_append,
              List.append_assoc]
            exact List.prefix_append _ _
      rw [ownFields, hnone]
      exact ih fun v hv => hvars v (List.mem_cons_of_mem _ hv)

theorem sectionValue_of_quiet (h : env.IsQuiet) {shape : SectionShape}
    (hshape : shape ∈ sectionShapes) :
    sectionValue .environment .usual (lookedUp env) shape = .ok none := by
  have hown : ownFields .usual "__" shape (lookedUp env) [] = some [] :=
    ownFields_of_quiet h hshape fun _ hv => hv
  have hunset : Entries.get? (lookedUp env) (Convention.usual.nameOf shape.name) = none := by
    cases hget : Entries.get? (lookedUp env) (Convention.usual.nameOf shape.name) with
    | none => rfl
    | some text =>
        exact absurd (List.prefix_refl _)
          (not_prefix_of_mem h (Entries.mem_names_of_get? hget) hshape)
  have hdelimiter : Convention.usual.delimiter = some "__" := rfl
  unfold sectionValue
  simp only [hunset, Option.join_none, hdelimiter, hown]

/-- A quiet environment sets nothing. -/
theorem sections_of_quiet (h : env.IsQuiet) : env.sections .usual = .ok [] := by
  have hall : ∀ shapes : List SectionShape, (∀ shape ∈ shapes, shape ∈ sectionShapes) →
      sectionsOf .environment .usual (lookedUp env) shapes = .ok [] := by
    intro shapes hshapes
    induction shapes with
    | nil => rfl
    | cons shape shapes ih =>
        rw [sectionsOf, sectionValue_of_quiet h (hshapes shape List.mem_cons_self)]
        dsimp only
        rw [ih fun s hs => hshapes s (List.mem_cons_of_mem shape hs)]
  exact hall sectionShapes fun _ hshape => hshape

end Environment

namespace Configuration

/-- A sound configuration is made of its own fields, where the environment sets nothing. -/
theorem make_of_isSound {env : Environment} (d : Disk) (henv : env.IsQuiet) {c : Configuration}
    (h : c.IsSound) : make env d c.given = .ok c := by
  rw [make_of_sections d (isUndirected_given c) (Environment.sections_of_quiet henv),
    namedSections_given, merge_nil]
  exact ofSections_of_isSound h

/-- A configuration is sound exactly when it can be made. -/
theorem isSound_iff_made {c : Configuration} :
    c.IsSound ↔ ∃ env d given, make env d given = .ok c :=
  ⟨fun h => ⟨[], .empty "/", c.given,
      make_of_isSound _ (fun _ hnone => absurd hnone List.not_mem_nil) h⟩,
    fun ⟨_, _, _, h⟩ => isSound_of_make h⟩

end Configuration

end ScriptHost
