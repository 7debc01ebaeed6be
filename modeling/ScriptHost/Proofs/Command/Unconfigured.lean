import ScriptHost.Proofs.Command.Display
import ScriptHost.Proofs.Config.Causes

/-!
# Commands without a configuration

A command that needs a configuration ends if it cannot be loaded, and nothing else is done: no
executor is made and no pack is loaded.  The failure is reported if the file is missing or a value
is at fault, as when bytes are no text, a setting cannot be decoded or fields are invalid.  Any
other failure comes out of the command, and nothing is told: when the file is a directory, when its
text is no document, when the document gives no sections, when a directive has a wrong type, and
when a path is too long.

## Main results

* `unconfigured_law` — how a command ends whose configuration cannot be loaded, by cause.
-/

namespace ScriptHost.Command

open ScriptHost.Configuration
open Console (IsRestored)

/-- What is told in front of the failure to load a configuration. -/
def loadLabel : String := "Cannot load configuration: "

theorem isErrorLabel_loadLabel : IsErrorLabel loadLabel :=
  ⟨" Cannot load configuration:".toList, by decide, by decide⟩

/-- Whether a command reports a failure to load its configuration, and does nothing else. -/
def Reports (w : Surroundings) (d : Disk) (words : List String) (f : Failure) : Prop :=
  ∃ rest, run w d words = ⟨1, [.line ("Error: " ++ loadLabel ++ rest)], none, d⟩ ∧
    (IsRestored f.message.toList → rest = f.message)

/-- The law of a command line whose request needs a configuration. -/
structure UnconfiguredLaw (w : Surroundings) (d : Disk) (words : List String) (m : Manner)
    (r : Request) : Prop where
  /-- There is no configuration for one of the causes, and for no others. -/
  cause : ∀ f, load w.environment d m.configuration = .error f ↔
    Cause w.environment d m.configuration f
  /-- Failures of the two kinds that commands handle are reported. -/
  handled : ∀ f, load w.environment d m.configuration = .error f → isConfigurationFault f = true →
    Reports w d words f
  /-- Any other failure comes out, and nothing is told. -/
  unhandled : ∀ f, load w.environment d m.configuration = .error f →
    isConfigurationFault f = false → run w d words = .raise d f
  /-- A file that is asked for and missing is reported. -/
  missing : ∀ path, m.configuration = some path → path ≠ "" → d.look path = .ok none →
    Reports w d words (.missingConfiguration (Path.normalText path))
  /-- A path that is too long is not. -/
  tooLong : ∀ path f, m.configuration = some path → path ≠ "" → d.look path = .error f →
    run w d words = .raise d (.disk .nameTooLong (Path.normalText path))
  /-- Nor is a directory. -/
  directory : ∀ file, source d m.configuration = .ok (some file) →
    d.look file = .ok (some .directory) →
    run w d words = .raise d (.disk .isDirectory (Path.normalText file))
  /-- Bytes that are no text are reported if they lie in the first steps in which the file is
  read. -/
  undecodable : ∀ content cs fault, IsChosen d m.configuration content →
    Text.readPieces content = (cs, some fault) → cs.length < 2 * Yaml.Source.stepLength →
    Reports w d words (.undecodable fault)
  /-- A text that is no document is not reported. -/
  malformed : ∀ content, IsChosen d m.configuration content →
    documentOf content = .error .malformedDocument → run w d words = .raise d .malformedDocument
  /-- Nor is a document that is neither nothing nor a mapping whose keys are texts. -/
  shape : ∀ content document, IsChosen d m.configuration content →
    documentOf content = .ok document → ¬ IsNamed document →
    ∃ detail, run w d words = .raise d (.wrongType detail)
  /-- Every other document gives sections. -/
  sections : ∀ content document, IsChosen d m.configuration content →
    documentOf content = .ok document → IsNamed document →
    ∃ given, givenBy d m.configuration = .ok given
  /-- What is given without directives is reported if it is refused, whatever the environment
  sets. -/
  values : ∀ given f, givenBy d m.configuration = .ok given → IsUndirected given →
    make w.environment d given = .error f → Reports w d words f
  /-- With directives it is reported unless one of them is to blame. -/
  directives : ∀ given f, givenBy d m.configuration = .ok given →
    make w.environment d given = .error f →
    (¬ Misdirected given f → Reports w d words f) ∧
      (Misdirected given f → run w d words = .raise d f)
  /-- Nothing that could be loaded, and nothing that is installed, makes a difference. -/
  alone : ∀ f catalogue home entryPoints stamp duration,
    load w.environment d m.configuration = .error f →
    run ⟨catalogue, home, entryPoints, w.environment, stamp, duration⟩ d words = run w d words
  /-- Nothing is called and nothing is said in the log. -/
  still : ∀ f x, load w.environment d m.configuration = .error f → r = .execute x →
    runScript w d m x = ⟨.error (run w d words), .empty, none⟩

section Unconfigured

variable {w : Surroundings} {d : Disk} {words : List String} {m : Manner} {r : Request}
  (hwords : Reading.ofWords words = .request m r) (hr : r.isConfigured = true) {f : Failure}
  (h : load w.environment d m.configuration = .error f)
include hwords hr h

theorem run_unconfigured : run w d words = unconfigured d f := by
  rw [run, hwords]
  change (answer w d m r).outcome = _
  rw [answer_of_load_error h hr]
  rfl

theorem reports_of_fault (hfault : isConfigurationFault f = true) : Reports w d words f := by
  obtain ⟨rest, hrefuse, hverbatim⟩ := refuse_eq d isErrorLabel_loadLabel f
  refine ⟨rest, ?_, hverbatim⟩
  rw [run_unconfigured hwords hr h, unconfigured, if_pos hfault]
  exact hrefuse

theorem raises_of_no_fault (hfault : isConfigurationFault f = false) :
    run w d words = .raise d f := by
  rw [run_unconfigured hwords hr h, unconfigured, if_neg (Bool.eq_false_iff.mp hfault)]

end Unconfigured

/-- Every command line whose request needs a configuration obeys the law. -/
theorem unconfigured_law (w : Surroundings) (d : Disk) {words : List String} {m : Manner}
    {r : Request} (hwords : Reading.ofWords words = .request m r)
    (hr : r.isConfigured = true) : UnconfiguredLaw w d words m r := by
  have hreports : ∀ {f}, Cause w.environment d m.configuration f → isConfigurationFault f = true →
      Reports w d words f :=
    fun hcause => reports_of_fault hwords hr (load_eq_error_iff.mpr hcause)
  have hraises : ∀ {f}, Cause w.environment d m.configuration f → isConfigurationFault f = false →
      run w d words = .raise d f :=
    fun hcause => raises_of_no_fault hwords hr (load_eq_error_iff.mpr hcause)
  have hvalues : ∀ {given f}, givenBy d m.configuration = .ok given →
      make w.environment d given = .error f → ¬ Misdirected given f → Reports w d words f := by
    intro given f hgiven hmake hdirected
    have hbad := (isBadValue_or_misdirected hmake).resolve_right hdirected
    refine hreports (.values hgiven hmake) ?_
    rw [isConfigurationFault, hbad, Bool.or_true]
  constructor
  case cause => exact fun f => load_eq_error_iff
  case handled => exact fun f h => reports_of_fault hwords hr h
  case unhandled => exact fun f h => raises_of_no_fault hwords hr h
  case missing => exact fun path hasked hne hgone => hreports (.missing hasked hne hgone) rfl
  case tooLong =>
    intro path f hasked hne hlook
    obtain rfl := Disk.look_error hlook
    exact hraises (.tooLong hasked hne hlook) rfl
  case directory => exact fun file hsource hlook => hraises (.directory hsource hlook) rfl
  case undecodable =>
    intro content cs fault hchosen hbytes hfirst
    exact hreports (.document hchosen (documentOf_of_undecodable hbytes hfirst)) rfl
  case malformed => exact fun content hchosen hread => hraises (.document hchosen hread) rfl
  case shape =>
    intro content document hchosen hread hunnamed
    obtain ⟨detail, hsections⟩ := sectionsOf_of_unnamed hunnamed
    exact ⟨detail, hraises (.shape hchosen hread hsections) rfl⟩
  case sections =>
    intro content document hchosen hread hnamed
    obtain ⟨given, hsections⟩ := sectionsOf_of_named hnamed
    exact ⟨given, by rw [givenBy_of_chosen hchosen, hread]; exact hsections⟩
  case values =>
    exact fun given f hgiven hundirected hmake =>
      hvalues hgiven hmake (not_misdirected hundirected f)
  case directives =>
    refine fun given f hgiven hmake => ⟨hvalues hgiven hmake, fun hdirected => ?_⟩
    refine hraises (.values hgiven hmake) ?_
    cases hdirected with
    | wrongType => rfl
    | tooLong => rfl
  case alone =>
    intro f catalogue home entryPoints stamp duration h
    rw [run_unconfigured hwords hr h]
    exact run_unconfigured hwords hr h
  case still =>
    rintro f x h rfl
    rw [run_unconfigured hwords hr h, runScript, prepare_of_load_error h]

/-! ## A sample -/

/-- The sample disk with a directory in place of a configuration file. -/
def blockedDisk : Disk :=
  { sampleDisk with nodes := sampleDisk.nodes ++ [(["work", "scriptcore.yaml"], .directory)] }

/-- In the sample a directory in place of the configuration file is not reported by any command. -/
theorem directory_unreported_in_sample :
    run sampleSurroundings blockedDisk ["defaults"] =
        .raise blockedDisk (.disk .isDirectory "scriptcore.yaml") ∧
      run sampleSurroundings blockedDisk ["eval", "one();"] =
        .raise blockedDisk (.disk .isDirectory "scriptcore.yaml") ∧
      run sampleSurroundings blockedDisk ["library"] =
        .raise blockedDisk (.disk .isDirectory "scriptcore.yaml") := by
  have hsource : source blockedDisk none = .ok (some "scriptcore.yaml") :=
    eq_ok_of_toOption (by decide +kernel)
  have hlook : blockedDisk.look "scriptcore.yaml" = .ok (some .directory) :=
    eq_ok_of_toOption (by decide +kernel)
  have hraises : ∀ {words r}, Reading.ofWords words = .request sampleManner r →
      r.isConfigured = true → run sampleSurroundings blockedDisk words =
        .raise blockedDisk (.disk .isDirectory "scriptcore.yaml") :=
    fun hwords hr =>
      (unconfigured_law sampleSurroundings blockedDisk hwords hr).directory _ hsource hlook
  exact ⟨hraises (r := .defaults) (by decide) rfl,
    hraises (r := .execute ⟨.text "one();", [], [], []⟩) (by decide) rfl,
    hraises (r := .library none) (by decide) rfl⟩

end ScriptHost.Command
