import ScriptHost.Proofs.Config.Chosen
import ScriptHost.Proofs.Config.Sound
import ScriptHost.Proofs.Disk.Rewriting
import ScriptHost.Proofs.Text.Ascii
import ScriptHost.Proofs.Yaml.Writing

/-!
# Saving and loading a configuration

The text of a configuration file is ASCII without carriage returns, so what a reader of the file
starts from is that very text.  If the text stands for the mapping it was written for, the file
gives the fields that have a value, section by section, and a sound configuration is made of them
again.  Saving it once more writes the same text to a place that is ready for it.

## Main results

* `toDatum_written` — what is written of a configuration.
* `sectionsIn_of_readsBack` — what a saved file gives.
* `saving_law` — what is loaded from a saved file, and what is written for it.
-/

namespace ScriptHost

open Yaml (Block)

namespace Yaml.Block

/-! ## Ordinary characters in a file -/

theorem isAscii_of_isOrdinary {c : Char} (h : isOrdinary c = true) : Text.IsAscii c := by
  rw [isOrdinary, Bool.or_eq_true, beq_iff_eq, Bool.and_eq_true, decide_eq_true_eq,
    decide_eq_true_eq] at h
  rcases h with rfl | h
  · decide
  · exact Nat.lt_of_le_of_lt h.2 (by decide)

theorem isAllowed_of_isOrdinary {c : Char} (h : isOrdinary c = true) : isAllowed c = true := by
  rw [isOrdinary, Bool.or_eq_true, Bool.and_eq_true] at h
  unfold isAllowed
  rcases h with hline | hprintable
  · simp [hline]
  · simp [hprintable.1, hprintable.2]

theorem not_mem_return {cs : List Char} (h : ∀ c ∈ cs, isOrdinary c = true) : '\r' ∉ cs := by
  intro hreturn
  exact absurd (h _ hreturn) (by decide)

end Yaml.Block

namespace Configuration

/-! ## What is written -/

/-- What is written of a configuration, section by section. -/
def written (c : Configuration) : List (String × Block) := [
  (folderShape.name, c.folders.written), (libraryShape.name, c.library.written),
  (executionShape.name, c.execution.written), (loggingShape.name, c.logging.written)]

/-- What is written of a configuration are its fields, without those that have no value. -/
theorem toDatum_written (c : Configuration) :
    (Block.fields c.written).toDatum = .fields c.given := by
  obtain ⟨⟨directory, bin, cache, packages⟩, ⟨fileName⟩, execution, ⟨threshold, file, isJson⟩⟩ := c
  cases directory with
  | none =>
      cases file with
      | none => rfl
      | some file => rfl
  | some directory =>
      cases file with
      | none => rfl
      | some file => rfl

theorem areNamed_written (c : Configuration) : Block.areNamed c.written = true := by
  obtain ⟨⟨directory, bin, cache, packages⟩, ⟨fileName⟩, execution, ⟨threshold, file, isJson⟩⟩ := c
  cases directory with
  | none =>
      cases file with
      | none => rfl
      | some file => rfl
  | some directory =>
      cases file with
      | none => rfl
      | some file => rfl

theorem toList_fileText (c : Configuration) :
    c.fileText.toList = Block.entryChars 0 c.written ++ ['\n'] :=
  String.toList_ofList

/-- A configuration file is written in ordinary characters. -/
theorem fileText_ordinary (c : Configuration) :
    ∀ ch ∈ c.fileText.toList, Block.isOrdinary ch = true :=
  Block.print_ordinary (areNamed_written c)

/-- Whether the text of a configuration file stands for the mapping that it was written for: its
texts, truth values, lists and sections. -/
def ReadsBack (c : Configuration) : Prop :=
  Yaml.read ⟨c.fileText.toList, none⟩ = .ok (Block.fields c.written).toDatum

/-! ## What a saved file gives -/

theorem sectionsOf_given (c : Configuration) : sectionsOf (.fields c.given) = .ok c.given := rfl

/-- A file that holds the text of a configuration gives the fields that have a value. -/
theorem sectionsIn_of_readsBack {d : Disk} {path : String} {c : Configuration} (h : c.ReadsBack)
    (hcontent : d.contentOf path = .ok (Text.encodeUtf8 c.fileText)) :
    sectionsIn d path = .ok c.given := by
  have hordinary := fileText_ordinary c
  have hpieces : Text.readPieces (Text.encodeUtf8 c.fileText) = (c.fileText.toList, none) :=
    Text.readPieces_encodeUtf8 fun ch hch => Block.isAscii_of_isOrdinary (hordinary ch hch)
  have hlines : Text.plainNewlineChars c.fileText.toList = c.fileText.toList :=
    Text.plainNewlineChars_eq_self (Block.not_mem_return hordinary)
  have hsource : Yaml.Source.ofChars c.fileText.toList none = ⟨c.fileText.toList, none⟩ :=
    Yaml.Source.ofChars_allowed fun ch hch => Block.isAllowed_of_isOrdinary (hordinary ch hch)
  unfold sectionsIn
  rw [hcontent]
  simp only [bind, Except.bind, hpieces, Option.map_none]
  rw [hlines, hsource, h, toDatum_written]
  exact sectionsOf_given c

/-! ## Saving -/

section Save

variable {c : Configuration} {d saved : Disk} {path : String}

theorem save_eq_ok_iff : c.save d path = .ok saved ↔
    ∃ ready, d.ensureParent path = .ok ready ∧ ready.write path c.fileText = .ok saved := by
  constructor
  · exact exists_of_bind_ok
  · rintro ⟨ready, hready, hwrite⟩
    rw [save, hready]
    exact hwrite

/-- Whether something can be saved does not depend on what it is. -/
theorem save_of_save (h : c.save d path = .ok saved) (other : Configuration) :
    ∃ done, other.save d path = .ok done := by
  obtain ⟨ready, hready, hwrite⟩ := save_eq_ok_iff.mp h
  obtain ⟨done, hdone⟩ := Disk.write_of_write hwrite other.fileText
  exact ⟨done, save_eq_ok_iff.mpr ⟨ready, hready, hdone⟩⟩

/-- Where something was saved, anything can be saved. -/
theorem save_again (h : c.save d path = .ok saved) (other : Configuration) :
    ∃ again, other.save saved path = .ok again ∧
      again.contentOf path = .ok (Text.encodeUtf8 other.fileText) := by
  obtain ⟨ready, hready, hwrite⟩ := save_eq_ok_iff.mp h
  obtain ⟨again, hagain⟩ := Disk.write_again hwrite other.fileText
  exact ⟨again, save_eq_ok_iff.mpr ⟨saved, Disk.ensureParent_of_write hready hwrite, hagain⟩,
    Disk.contentOf_write hagain⟩

/-- A saved file gives the fields of the configuration that have a value. -/
theorem givenBy_of_save (hread : c.ReadsBack) (h : c.save d path = .ok saved) :
    givenBy saved (some path) = .ok c.given := by
  obtain ⟨ready, hready, hwrite⟩ := save_eq_ok_iff.mp h
  rw [givenBy_asked (Disk.ne_nil_of_write hready hwrite) (Disk.exists_of_write hwrite)]
  exact sectionsIn_of_readsBack hread (Disk.contentOf_write hwrite)

end Save

/-! ## The law -/

/-- What follows where a configuration was saved at a path. -/
structure SavingLaw (env : Environment) (d : Disk) (path : String) (c : Configuration)
    (saved : Disk) : Prop where
  /-- The file gives the fields of the configuration, less those that have no value. -/
  mapping : sectionsIn saved path = .ok c.given
  /-- What is loaded from the file is the configuration. -/
  loaded : load env saved (some path) = .ok c
  /-- What is loaded can be saved again, and the file is the same and gives the same. -/
  again : ∀ loaded, load env saved (some path) = .ok loaded →
    ∃ again, loaded.save saved path = .ok again ∧
      again.contentOf path = saved.contentOf path ∧ sectionsIn again path = .ok c.given
  /-- It is also what is loaded from where it is saved again. -/
  elsewhere : ∀ loaded, load env saved (some path) = .ok loaded →
    ∀ there place copied, loaded.save there place = .ok copied →
      sectionsIn copied place = .ok c.given ∧ load env copied (some place) = .ok c
  /-- Whether a configuration can be saved at the path does not depend on the configuration. -/
  anyone : ∀ other : Configuration, ∃ done, other.save d path = .ok done

/-- A configuration that was made of anything, saved where it can be, is loaded as it is by an
environment without variables, if its text stands for what was written. -/
theorem saving_law {env : Environment} {d saved : Disk} {path : String} {c : Configuration}
    (hmade : ∃ env d given, make env d given = .ok c) (henv : env.IsQuiet) (hread : c.ReadsBack)
    (hsave : c.save d path = .ok saved) : SavingLaw env d path c saved := by
  have hsound : c.IsSound := isSound_iff_made.mpr hmade
  have hback : ∀ {there copied : Disk} {place : String}, c.save there place = .ok copied →
      sectionsIn copied place = .ok c.given ∧ load env copied (some place) = .ok c := by
    intro there copied place hcopied
    obtain ⟨ready, hready, hwrite⟩ := save_eq_ok_iff.mp hcopied
    refine ⟨sectionsIn_of_readsBack hread (Disk.contentOf_write hwrite), ?_⟩
    rw [load_eq, givenBy_of_save hread hcopied]
    exact make_of_isSound copied henv hsound
  obtain ⟨hmapping, hloaded⟩ := hback hsave
  have heq : ∀ {loaded}, load env saved (some path) = .ok loaded → loaded = c := by
    intro loaded hload
    rw [hloaded] at hload
    cases hload
    rfl
  constructor
  case mapping => exact hmapping
  case loaded => exact hloaded
  case again =>
    intro loaded hload
    rw [heq hload]
    obtain ⟨ready, -, hwrite⟩ := save_eq_ok_iff.mp hsave
    obtain ⟨again, hagain, hcontent⟩ := save_again hsave c
    exact ⟨again, hagain, hcontent.trans (Disk.contentOf_write hwrite).symm,
      sectionsIn_of_readsBack hread hcontent⟩
  case elsewhere =>
    intro loaded hload there place copied hcopied
    rw [heq hload] at hcopied
    exact hback hcopied
  case anyone => exact save_of_save hsave

/-! ## A sample -/

/-- Settings with blanks to be stripped, texts that need quotes, and others left out. -/
def sampleGiven : List (String × Datum) := [
  ("filesystem", .fields [("bin_folder", .text " b "), ("dll_cache_folder", .text "it's")]),
  ("library", .fields [("file_name", .text "")]),
  ("execution", .fields [("references", .texts ["[x]", "true", "ä"]), ("engine", .text "m: E"),
    ("preprocessor", .text "#p")]),
  ("logging", .fields [("level", .text "ERROR"), ("json_format", .text "yes")])]

/-- The configuration of the sample settings. -/
def sampleSaved : Configuration where
  folders := ⟨none, "b", "it's", "packages"⟩
  library := ⟨""⟩
  execution := ⟨["[x]", "true", "ä"], [], [], "m: E", "#p"⟩
  logging := ⟨.error, none, true⟩

/-- The sample is saved in a directory that is made for it, and loaded from there. -/
theorem saved_in_sample : (∃ env d given, make env d given = .ok sampleSaved) ∧
    Environment.IsQuiet [("PATH", "/bin")] ∧ sampleSaved.ReadsBack ∧
    ∃ saved, sampleSaved.save (.empty "/work") "conf/s.yaml" = .ok saved ∧
      SavingLaw [("PATH", "/bin")] (.empty "/work") "conf/s.yaml" sampleSaved saved := by
  have hmade : make [] (.empty "/") sampleGiven = .ok sampleSaved :=
    eq_ok_of_toOption (by decide +kernel)
  have hquiet : Environment.IsQuiet [("PATH", "/bin")] :=
    List.forall_mem_singleton.mpr (by decide +kernel)
  have hread : sampleSaved.ReadsBack := by
    rw [ReadsBack, toList_fileText]
    exact Yaml.read_of_spells (by decide +kernel)
  obtain ⟨saved, hsave⟩ : ∃ saved, sampleSaved.save (.empty "/work") "conf/s.yaml" = .ok saved :=
    exists_of_toOption (by decide +kernel)
  exact ⟨⟨_, _, _, hmade⟩, hquiet, hread, saved, hsave,
    saving_law ⟨_, _, _, hmade⟩ hquiet hread hsave⟩

end Configuration

end ScriptHost
