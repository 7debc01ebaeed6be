import ScriptHost.Proofs.Command.Quiet
import ScriptHost.Proofs.Config.Chosen
import ScriptHost.Proofs.Console.Sheet

/-!
# The configuration that is shown

A configuration can be shown.  The command that does so has an option of its own for the file, and
does not look at the one in front of it, while all commands that are carried out with a
configuration load the file of that one.  So what is shown is what they are carried out with if both
options name the same file, or none; behind an option that only they look at it need not be.

## Main results

* `shown_describe` — what is shown of a configuration whose values are plain.
* `answer_of_load` — a request depends on its configuration file only through what is loaded.
* `showing_law` — what is shown, and what other commands are carried out with.
-/

namespace ScriptHost

open Console

/-- Whether the values of a configuration that are shown as texts are plain. -/
structure Configuration.IsPlain (c : Configuration) : Prop where
  currentDirectory : Console.IsPlain (c.folders.currentDirectory.getD "").toList
  binFolder : Console.IsPlain c.folders.binFolder.toList
  cacheFolder : Console.IsPlain c.folders.cacheFolder.toList
  packagesFolder : Console.IsPlain c.folders.packagesFolder.toList
  fileName : Console.IsPlain c.library.fileName.toList
  engine : Console.IsPlain c.execution.engine.toList
  preProcessor : Console.IsPlain c.execution.preProcessor.toList
  packs : Console.IsPlain (", ".intercalate c.execution.packs).toList

namespace Command

/-! ## The card of a configuration -/

/-- The labels of a card, and the texts behind them. -/
def cardParts (c : Configuration) : List Labelled :=
  let f := c.folders
  let x := c.execution
  orLabel ⟨"bold".toList, "File System:".toList, row "Current Directory" ""⟩
      (f.currentDirectory.getD "") "process cwd"
      (row "Bin Folder" f.binFolder ++ row "Cache Folder" f.cacheFolder ++
        row "Packages Folder" f.packagesFolder ++ ['\n', '\n']) ++
    ⟨"bold".toList, "Script Library:".toList, row "File Name" c.library.fileName ++ ['\n', '\n']⟩ ::
    (orLabel ⟨"bold".toList, "Execution:".toList, row "Engine" x.engine ++
      row "Pre-processor" x.preProcessor ++ row "Script Packs" ""⟩
      (", ".intercalate x.packs) "none"
      (row "Extra References" (Number.natText x.references.length) ++
        row "Extra Namespaces" (Number.natText x.namespaces.length) ++ ['\n', '\n']) ++
    [⟨"bold".toList, "Logging:".toList, row "Level" c.logging.threshold.word⟩])

/-- What a configuration is shown as. -/
def cardText (c : Configuration) : String :=
  let f := c.folders
  let x := c.execution
  "\n".intercalate [
    "File System:",
    "  Current Directory: " ++ orElse (f.currentDirectory.getD "") "process cwd",
    "  Bin Folder: " ++ f.binFolder,
    "  Cache Folder: " ++ f.cacheFolder,
    "  Packages Folder: " ++ f.packagesFolder,
    "",
    "Script Library:",
    "  File Name: " ++ c.library.fileName,
    "",
    "Execution:",
    "  Engine: " ++ x.engine,
    "  Pre-processor: " ++ x.preProcessor,
    "  Script Packs: " ++ orElse (", ".intercalate x.packs) "none",
    "  Extra References: " ++ Number.natText x.references.length,
    "  Extra Namespaces: " ++ Number.natText x.namespaces.length,
    "",
    "Logging:",
    "  Level: " ++ c.logging.threshold.word]

theorem describe_eq_sheet (c : Configuration) : (describe c).toList = sheet (cardParts c) := by
  unfold describe cardParts orLabel orElse row
  dsimp only
  split
  · split
    · simp [String.toList_append, sheet, heading]
    · simp [String.toList_append, sheet, heading]
  · split
    · simp [String.toList_append, sheet, heading]
    · simp [String.toList_append, sheet, heading]

theorem cardText_eq_sheetText (c : Configuration) :
    (cardText c).toList = sheetText (cardParts c) := by
  unfold cardText cardParts orLabel orElse row
  dsimp only
  split
  · split
    · simp [String.toList_append, sheetText]
    · simp [String.toList_append, sheetText]
  · split
    · simp [String.toList_append, sheetText]
    · simp [String.toList_append, sheetText]

theorem isPlain_cardParts {c : Configuration} (h : c.IsPlain) : ∀ l ∈ cardParts c, l.IsPlain := by
  have hempty : Console.IsPlain "".toList := by decide
  have hfolders := (((isPlain_row "Bin Folder" (by decide) h.binFolder).append_row
    "Cache Folder" (by decide) h.cacheFolder).append_row
    "Packages Folder" (by decide) h.packagesFolder).append_gap
  have hlibrary := (isPlain_row "File Name" (by decide) h.fileName).append_gap
  have hclasses := (isPlain_row "Engine" (by decide) h.engine).append_row
    "Pre-processor" (by decide) h.preProcessor
  have hcounts := ((isPlain_row "Extra References" (by decide)
    (isPlain_natText c.execution.references.length)).append_row
    "Extra Namespaces" (by decide)
    (isPlain_natText c.execution.namespaces.length)).append_gap
  have hlevel : Console.IsPlain (row "Level" c.logging.threshold.word) ∧
      (row "Level" c.logging.threshold.word).getLast? ≠ some '\\' := by
    cases c.logging.threshold <;> exact ⟨(by decide), by decide⟩
  intro l hl
  simp only [cardParts, List.mem_append, List.mem_cons, List.not_mem_nil, or_false] at hl
  rcases hl with hl | rfl | hl | rfl
  · refine isPlain_orLabel (Labelled.isPlain_of (by decide) (by decide) ?_ ?_) ?_
      (by decide) (by decide) hfolders rfl (by simp) l hl
    · exact isPlain_row _ (by decide) hempty
    · simp [getLast?_row_empty]
    · rw [row_append]
      exact isPlain_row _ (by decide) h.currentDirectory
  · exact Labelled.isPlain_of (by decide) (by decide) hlibrary (by simp)
  · refine isPlain_orLabel (Labelled.isPlain_of (by decide) (by decide) ?_ ?_) ?_
      (by decide) (by decide) hcounts rfl (by simp) l hl
    · exact hclasses.append_row _ (by decide) hempty
    · simp [List.getLast?_append, getLast?_row_empty]
    · rw [List.append_assoc _ (row "Script Packs" ""), row_append]
      exact hclasses.append_row _ (by decide) h.packs
  · exact Labelled.isPlain_of (by decide) (by decide) hlevel.1 hlevel.2

theorem isMild_cardParts (c : Configuration) : ∀ l ∈ cardParts c, l.IsMild := by
  have hbold : ∀ label text, Labelled.IsMild ⟨"bold".toList, label, text⟩ := by
    have hslash : '\\' ∉ "bold".toList := by decide
    have hcolon : ':' ∉ "bold".toList := by decide
    exact fun label text => ⟨⟨'b', "old".toList, rfl, bold_isStyle⟩, hslash, hcolon⟩
  intro l hl
  simp only [cardParts, List.mem_append, List.mem_cons, List.not_mem_nil, or_false] at hl
  rcases hl with hl | rfl | hl | rfl
  · exact isMild_orLabel (hbold _ _) _ _ _ l hl
  · exact hbold _ _
  · exact isMild_orLabel (hbold _ _) _ _ _ l hl
  · exact hbold _ _

/-- A configuration is shown with its values as they stand just if nothing is lost of its card, and
nothing in it moves the cursor. -/
theorem shown_describe_iff (c : Configuration) :
    shown (describe c) = .ok (cardText c) ↔
      isKept (cardParts c) = true ∧ isStill (cardText c).toList = true := by
  rw [cardText_eq_sheetText]
  exact shown_sheet_iff (isMild_cardParts c) (describe_eq_sheet c) (cardText_eq_sheetText c)

/-- A configuration with plain values is shown with its values as they stand. -/
theorem shown_describe {c : Configuration} (h : c.IsPlain) :
    shown (describe c) = .ok (cardText c) := by
  have hplain := isPlain_cardParts h
  exact (shown_describe_iff c).mpr
    ⟨isKept_of_plain hplain, cardText_eq_sheetText c ▸ isStill_of_plain hplain⟩

/-! ## What requests are carried out with -/

/-- Whether a request is carried out with a configuration. -/
def Request.isConfigured : Request → Bool
  | .execute _ | .defaults | .library _ => true
  | .showConfiguration _ | .writeConfiguration _ _ => false

/-- The same manner with another configuration file, or none. -/
def Manner.configuredBy (m : Manner) (file : Option String) : Manner :=
  { m with configuration := file }

section Loading

variable {w : Surroundings} {d : Disk} {m : Manner}

theorem configuration_of_load {file : Option String} {c : Configuration}
    (h : Configuration.load w.environment d file = .ok c) : configuration w d file = .ok c := by
  rw [configuration, h]
  rfl

theorem load_of_configuration {file : Option String} {c : Configuration}
    (h : configuration w d file = .ok c) : Configuration.load w.environment d file = .ok c :=
  eq_ok_of_orRefuse h

/-- How a command ends whose configuration cannot be loaded. -/
def unconfigured (d : Disk) (f : Failure) : Outcome :=
  if isConfigurationFault f then .refuse d "Cannot load configuration: " f else .raise d f

theorem configuration_of_error {file : Option String} {f : Failure}
    (h : Configuration.load w.environment d file = .error f) :
    configuration w d file = .error (unconfigured d f) := by
  rw [configuration, h]
  rfl

/-- Files from which the same is loaded make no difference to a request. -/
theorem answer_of_load {file : Option String} {r : Request}
    (h : Configuration.load w.environment d file =
      Configuration.load w.environment d m.configuration) (hr : r.isConfigured = true) :
    answer w d (m.configuredBy file) r = answer w d m r := by
  have hsame : configuration w d file = configuration w d m.configuration := by
    rw [configuration, configuration, h]
  cases r with
  | execute x =>
      have hready : prepare w d (m.configuredBy file) x = prepare w d m x := by
        change (configuration w d file >>= _) = (configuration w d m.configuration >>= _)
        rw [hsame]
        rfl
      have hrun : runScript w d (m.configuredBy file) x = runScript w d m x := by
        rw [runScript, hready, runScript]
      change execute w d (m.configuredBy file) x = execute w d m x
      rw [execute, hrun]
      rfl
  | defaults =>
      change (configuration w d file >>= _) = (configuration w d m.configuration >>= _)
      rw [hsame]
  | library directory =>
      change (configuration w d file >>= _) = (configuration w d m.configuration >>= _)
      rw [hsame]
  | showConfiguration own => cases hr
  | writeConfiguration file' overwrite => cases hr

/-- Without its configuration an execution is not got ready. -/
theorem prepare_of_load_error {f : Failure}
    (h : Configuration.load w.environment d m.configuration = .error f) (x : Execution) :
    prepare w d m x = .error (unconfigured d f) := by
  change (configuration w d m.configuration >>= _) = _
  rw [configuration_of_error h]
  rfl

/-- Without its configuration a request is not carried out. -/
theorem answer_of_load_error {r : Request} {f : Failure}
    (h : Configuration.load w.environment d m.configuration = .error f)
    (hr : r.isConfigured = true) : answer w d m r = .error (unconfigured d f) := by
  have herror := configuration_of_error h
  cases r with
  | execute x =>
      change execute w d m x = _
      rw [execute, runScript, prepare_of_load_error h]
      rfl
  | defaults =>
      change (configuration w d m.configuration >>= _) = _
      rw [herror]
      rfl
  | library directory =>
      change (configuration w d m.configuration >>= _) = _
      rw [herror]
      rfl
  | showConfiguration own => cases hr
  | writeConfiguration file overwrite => cases hr

end Loading

/-! ## The law of what is shown -/

/-- The title of the card of a configuration. -/
def cardTitle : String := "scriptcore Configuration"

/-- The law of a command line that asks for the configuration of a file of its own, or of none. -/
structure ShowingLaw (w : Surroundings) (d : Disk) (words : List String) (own : Option String) :
    Prop where
  /-- Nothing in front of the command names the file whose configuration is shown. -/
  deaf : ∀ file, run w d ("--config" :: file :: words) = run w d words
  /-- What is loaded from the file of its own is shown on a card, as markup. -/
  card : ∀ c, Configuration.load w.environment d own = .ok c →
    run w d words =
      match shown (describe c) with
      | .ok text => .done d [.card cardTitle text]
      | .error f => .raise d f
  /-- Plain values are shown as they stand. -/
  verbatim : ∀ c, Configuration.load w.environment d own = .ok c → c.IsPlain →
    run w d words = .done d [.card cardTitle (cardText c)]
  /-- Without a configuration no card is shown. -/
  unloaded : ∀ f, Configuration.load w.environment d own = .error f →
    (run w d words).exit = 1 ∧ ∀ text, .card cardTitle text ∉ (run w d words).printed
  /-- Every other command that is carried out with a configuration is carried out with the one that
  is loaded from the file in front of it, whatever file that is. -/
  used : ∀ others m r, Reading.ofWords others = .request m r → r.isConfigured = true →
    ∀ file, Configuration.load w.environment d file =
        Configuration.load w.environment d m.configuration →
      run w d others = (answer w d (m.configuredBy file) r).outcome
  /-- It ends if that one cannot be loaded. -/
  unused : ∀ others m r f, Reading.ofWords others = .request m r → r.isConfigured = true →
    Configuration.load w.environment d m.configuration = .error f →
    run w d others = unconfigured d f
  /-- If both commands are given the same file, or files from which the same is loaded, what is
  shown is what the other one is carried out with, and neither is loaded without the other. -/
  agrees : ∀ m : Manner, Configuration.load w.environment d own =
      Configuration.load w.environment d m.configuration →
    (∀ c, configuration w d m.configuration = .ok c → c.IsPlain →
      run w d words = .done d [.card cardTitle (cardText c)]) ∧
    ((∃ c, Configuration.load w.environment d own = .ok c) ↔
      ∃ c, configuration w d m.configuration = .ok c)

/-- An error message ends a command with one, whether it can be shown or not. -/
theorem exit_said (d : Disk) (markup : String) : (Outcome.say d 1 markup).exit = 1 := by
  unfold Outcome.say
  split
  · rfl
  · rfl

theorem card_not_said (d : Disk) (exit : Nat) (markup title text : String) :
    .card title text ∉ (Outcome.say d exit markup).printed := by
  unfold Outcome.say
  split
  · simp
  · exact List.not_mem_nil

section Showing

variable {w : Surroundings} {d : Disk} {words : List String} {m : Manner} {own : Option String}
  (hwords : Reading.ofWords words = .request m (.showConfiguration own))
include hwords

theorem run_showConfiguration : run w d words = (showConfiguration w d own).outcome := by
  rw [run, hwords]
  rfl

/-- A configuration that is loaded is shown on a card. -/
theorem run_showing {c : Configuration} (h : Configuration.load w.environment d own = .ok c) :
    run w d words =
      match shown (describe c) with
      | .ok text => .done d [.card cardTitle text]
      | .error f => .raise d f := by
  rw [run_showConfiguration hwords, showConfiguration, h]
  dsimp only
  cases shown (describe c) with
  | ok text => rfl
  | error f => rfl

/-- One that is not loaded is an error. -/
theorem run_unloaded {f : Failure} (h : Configuration.load w.environment d own = .error f) :
    run w d words =
      if isConfigurationFault f then
        .say d 1 ("[red]Error loading config: " ++ f.message ++ "[/]")
      else .raise d f := by
  rw [run_showConfiguration hwords, showConfiguration, h]
  rfl

end Showing

/-- Every command line that asks for a configuration obeys the law. -/
theorem showing_law (w : Surroundings) (d : Disk) {words : List String} {m : Manner}
    {own : Option String} (hwords : Reading.ofWords words = .request m (.showConfiguration own)) :
    ShowingLaw w d words own := by
  have hverbatim : ∀ c, Configuration.load w.environment d own = .ok c → c.IsPlain →
      run w d words = .done d [.card cardTitle (cardText c)] := by
    intro c h hplain
    rw [run_showing hwords h, shown_describe hplain]
  constructor
  case deaf =>
    intro file
    have hsome : words ≠ [] := by
      rintro rfl
      cases hwords
    -- the option changes the manner, which the request does not look at
    rw [run_showConfiguration hwords, run, ofWords_configuration hsome, hwords]
    rfl
  case card =>
    intro c h
    have hshown := run_showing hwords h
    exact hshown
  case verbatim => exact hverbatim
  case unloaded =>
    intro f h
    rw [run_unloaded hwords h]
    split
    · exact ⟨exit_said d _, card_not_said d 1 _ cardTitle⟩
    · exact ⟨rfl, fun text => List.not_mem_nil⟩
  case used =>
    intro others m' r hothers hr file hload
    rw [run, hothers]
    change (answer w d m' r).outcome = _
    rw [answer_of_load hload hr]
  case unused =>
    intro others m' r f hothers hr hload
    rw [run, hothers]
    change (answer w d m' r).outcome = _
    rw [answer_of_load_error hload hr]
    rfl
  case agrees =>
    intro m' hload
    constructor
    · intro c hc hplain
      exact hverbatim c (hload.trans (load_of_configuration hc)) hplain
    · rw [hload]
      constructor
      · rintro ⟨c, hc⟩
        exact ⟨c, configuration_of_load hc⟩
      · rintro ⟨c, hc⟩
        exact ⟨c, load_of_configuration hc⟩

/-! ## A sample -/

/-- A disk with a configuration file that names another library. -/
def namedDisk : Disk :=
  { sampleDisk with
    nodes := sampleDisk.nodes ++
      [(["work", "other.yaml"], .file (Text.encodeUtf8 Configuration.libraryText))] }

/-- The configuration of the host, without anything else. -/
def plainConfiguration : Configuration :=
  { sampleConfiguration with
    execution := { sampleConfiguration.execution with references := [] } }

/-- In the sample the library in the file that is named in front of the command is not shown, while
other commands are carried out with it. -/
theorem configuration_unshown_in_sample :
    configuration (sampleGreetings [("SCRIPTCORE_LOGGING__LEVEL", "ERROR")]) namedDisk
        (some "other.yaml") = .ok { plainConfiguration with library := ⟨"Other.csx"⟩ } ∧
      run (sampleGreetings [("SCRIPTCORE_LOGGING__LEVEL", "ERROR")]) namedDisk
        ["--config", "other.yaml", "config", "show"] =
          .done namedDisk [.card cardTitle (cardText plainConfiguration)] := by
  have hshow : Reading.ofWords ["config", "show"] =
      .request ⟨false, false, none⟩ (.showConfiguration none) := by decide
  have hlaw := showing_law (sampleGreetings [("SCRIPTCORE_LOGGING__LEVEL", "ERROR")]) namedDisk
    hshow
  have hload : Configuration.load
      (sampleGreetings [("SCRIPTCORE_LOGGING__LEVEL", "ERROR")]).environment namedDisk none =
        .ok plainConfiguration := eq_ok_of_toOption (by decide +kernel)
  have hplain : plainConfiguration.IsPlain := by
    constructor <;> decide +kernel
  have hother : Configuration.load
      (sampleGreetings [("SCRIPTCORE_LOGGING__LEVEL", "ERROR")]).environment namedDisk
        (some "other.yaml") = .ok { plainConfiguration with library := ⟨"Other.csx"⟩ } := by
    have hthere : namedDisk.exists_ "other.yaml" = .ok true :=
      eq_ok_of_toOption (by decide +kernel)
    have hcontent : namedDisk.contentOf "other.yaml" =
        .ok (Text.encodeUtf8 Configuration.libraryText) := eq_ok_of_toOption (by decide +kernel)
    rw [Configuration.load_eq, Configuration.givenBy_asked (by decide) hthere,
      Configuration.sectionsIn_library hcontent]
    exact eq_ok_of_toOption (by decide +kernel)
  refine ⟨configuration_of_load hother, ?_⟩
  rw [hlaw.deaf "other.yaml"]
  exact hlaw.verbatim _ hload hplain

end Command

end ScriptHost
