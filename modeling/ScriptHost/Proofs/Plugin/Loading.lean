import ScriptHost.Assembly
import ScriptHost.Proofs.Executor.Operation
import ScriptHost.Proofs.Plugin.Importing

/-!
# How loading a plugin fails

A pack that cannot be imported, or that is no pack, is refused as a plugin, and so is the class of
an engine or of a pre-processor.  What a constructor raises is not the host's to refuse, as that of
a class of which nothing can be made: it comes out as it is.  So does what the code of a module
raises that is imported on the way, unless it is the failure of an import.

An executor is built in stages.  Both classes are loaded before either is made, then the
pre-processor is made and then the engine, and at last the file system has to have the folders of an
engine.  The first stage that fails gives the failure.

The laws speak of paths that do not name a module by where it stands.

## Main results

* `loadPack_eq_ok_iff`, `loadPack_eq_error_iff` — what loading a pack answers.
* `ofConfiguration_eq_ok_iff`, `ofConfiguration_eq_error_iff` — what building an executor answers.
* `loading_law` — both, with the exact condition under which nothing but refusals comes out.
-/

namespace ScriptHost

namespace Plugin

section Loading

variable {c : Catalogue} {path : String}

/-! ## Imports -/

section Importing

variable {refuse : ImportFault → PluginRefusal}

theorem importing_of_unimportable {cause : ImportFault} (h : Unimportable c path cause) :
    importing refuse (resolve c path) = .error (.plugin (refuse cause)) := by
  rw [resolve_of_fails h]
  rfl

theorem importing_of_codeRaises {f : Failure} (h : CodeRaises c path f) :
    importing refuse (resolve c path) = .error f := by
  obtain ⟨hfails, hother⟩ := h
  rw [resolve_of_fails hfails]
  unfold importing
  split
  · next cause heq => exact absurd (Except.error.inj heq) (hother cause)
  · rfl

theorem importing_of_relative {f : Failure} (h : Relative path f) :
    importing refuse (resolve c path) = .error f := by
  rw [resolve_of_relative h]
  cases h
  rfl

theorem importing_of_leads {target : Target} (h : Leads c path target) :
    importing refuse (resolve c path) = .ok target := by
  rw [resolve_of_leads h]
  rfl

theorem importing_eq_ok_iff {target : Target} :
    importing refuse (resolve c path) = .ok target ↔ Leads c path target := by
  rw [← resolve_eq_ok_iff]
  unfold importing
  split
  · next cause heq => simp [heq]
  · rfl

theorem importing_eq_error_iff {f : Failure} :
    importing refuse (resolve c path) = .error f ↔
      (∃ cause, f = .plugin (refuse cause) ∧ Unimportable c path cause) ∨ CodeRaises c path f ∨
        Relative path f := by
  constructor
  · intro h
    unfold importing at h
    split at h
    · next cause heq =>
      cases h
      rcases resolve_eq_error_iff.mp heq with hfails | hrelative
      · exact .inl ⟨cause, rfl, hfails⟩
      · cases hrelative
    · next hother =>
      rcases resolve_eq_error_iff.mp h with hfails | hrelative
      · exact .inr (.inl ⟨hfails, fun cause hcause => hother cause (hcause ▸ h)⟩)
      · exact .inr (.inr hrelative)
  · rintro (⟨cause, rfl, hcause⟩ | hcode | hrelative)
    · exact importing_of_unimportable hcause
    · exact importing_of_codeRaises hcode
    · exact importing_of_relative hrelative

end Importing

/-! ## Packs -/

/-- Why a pack is refused. -/
inductive PackRefusal (c : Catalogue) (path : String) : PluginRefusal → Prop
  | unimportable {cause : ImportFault} :
    Unimportable c path cause → PackRefusal c path (.cannotImportPack path cause)
  | notPack {target : Target} :
    Leads c path target → target.instantiate = .ok none → PackRefusal c path (.notPack path)

/-- What comes out of loading a pack as it was raised: by the code of a module on the way, or by the
constructor that the path leads to. -/
inductive PackEscape (c : Catalogue) (path : String) (f : Failure) : Prop
  | code : CodeRaises c path f → PackEscape c path f
  | constructor {target : Target} :
    Leads c path target → target.instantiate = .error f → PackEscape c path f

/-- A pack is loaded from a target that is one, or is made into one. -/
theorem loadPack_eq_ok_iff {p : Pack} :
    loadPack c path = .ok p ↔
      ∃ target, Leads c path target ∧ target.instantiate = .ok (some p) := by
  unfold loadPack
  constructor
  · intro h
    split at h
    · cases h
    · next target himport =>
      split at h
      · cases h
      · next q hq =>
        cases h
        exact ⟨target, importing_eq_ok_iff.mp himport, hq⟩
      · cases h
  · rintro ⟨target, hleads, hmade⟩
    simp [importing_of_leads hleads, hmade]

/-- Loading a pack ends in a refusal of the pack, or in what the code of a module or a constructor
raises, unless the path is relative. -/
theorem loadPack_eq_error_iff {f : Failure} :
    loadPack c path = .error f ↔
      (∃ refusal, f = .plugin refusal ∧ PackRefusal c path refusal) ∨ PackEscape c path f ∨
        Relative path f := by
  unfold loadPack
  constructor
  · intro h
    split at h
    · next g himport =>
      cases h
      rcases importing_eq_error_iff.mp himport with ⟨cause, rfl, hcause⟩ | hcode | hrelative
      · exact .inl ⟨_, rfl, .unimportable hcause⟩
      · exact .inr (.inl (.code hcode))
      · exact .inr (.inr hrelative)
    · next target himport =>
      have hleads := importing_eq_ok_iff.mp himport
      split at h
      · next g hmade =>
        cases h
        exact .inr (.inl (.constructor hleads hmade))
      · cases h
      · next hmade =>
        cases h
        exact .inl ⟨_, rfl, .notPack hleads hmade⟩
  · rintro (⟨refusal, rfl, hcause | ⟨hleads, hmade⟩⟩ | (hcode | ⟨hleads, hmade⟩) | hrelative)
    · simp [importing_of_unimportable hcause]
    · simp [importing_of_leads hleads, hmade]
    · simp [importing_of_codeRaises hcode]
    · simp [importing_of_leads hleads, hmade]
    · simp [importing_of_relative hrelative]

/-! ## Classes -/

/-- How engines of a class are made, if a target is one. -/
def Target.engine? : Target → Option (Except Failure Engine)
  | .engineClass _ make => some make
  | _ => none

/-- How pre-processors of a class are made, if a target is one. -/
def Target.preProcessor? : Target → Option (Except Failure PreProcessor)
  | .preProcessorClass _ _ make => some make
  | _ => none

/-- Loads a class of a kind. -/
def loadClass {α : Type} (base : String) (select : Target → Option α) (c : Catalogue)
    (path : String) : Except Failure α :=
  match importing (.cannotImport path) (resolve c path) with
  | .error f => .error f
  | .ok target =>
    match select target with
    | some make => .ok make
    | none => .error (.plugin (.notSubclass path base))

theorem loadEngineClass_eq (c : Catalogue) (path : String) :
    loadEngineClass c path = loadClass "ScriptEngine" Target.engine? c path := by
  unfold loadEngineClass loadClass
  cases importing (.cannotImport path) (resolve c path) with
  | error f => rfl
  | ok target => cases target <;> rfl

theorem loadPreProcessorClass_eq (c : Catalogue) (path : String) :
    loadPreProcessorClass c path =
      loadClass "FilePreProcessor" Target.preProcessor? c path := by
  unfold loadPreProcessorClass loadClass
  cases importing (.cannotImport path) (resolve c path) with
  | error f => rfl
  | ok target => cases target <;> rfl

variable {α : Type} {base : String} {select : Target → Option α}

/-- Why a class is refused. -/
inductive ClassRefusal (base : String) (select : Target → Option α) (c : Catalogue)
    (path : String) : PluginRefusal → Prop
  | unimportable {cause : ImportFault} :
    Unimportable c path cause → ClassRefusal base select c path (.cannotImport path cause)
  | otherKind {target : Target} :
    Leads c path target → select target = none →
    ClassRefusal base select c path (.notSubclass path base)

/-- A path names a class. -/
def HasClass (select : Target → Option α) (c : Catalogue) (path : String) (make : α) : Prop :=
  ∃ target, Leads c path target ∧ select target = some make

theorem loadClass_eq_ok_iff {make : α} :
    loadClass base select c path = .ok make ↔ HasClass select c path make := by
  unfold loadClass
  constructor
  · intro h
    split at h
    · cases h
    · next target himport =>
      split at h
      · next found hfound =>
        cases h
        exact ⟨target, importing_eq_ok_iff.mp himport, hfound⟩
      · cases h
  · rintro ⟨target, hleads, hmake⟩
    simp [importing_of_leads hleads, hmake]

theorem loadClass_eq_error_iff {f : Failure} :
    loadClass base select c path = .error f ↔
      (∃ refusal, f = .plugin refusal ∧ ClassRefusal base select c path refusal) ∨
        CodeRaises c path f ∨ Relative path f := by
  unfold loadClass
  constructor
  · intro h
    split at h
    · next g himport =>
      cases h
      rcases importing_eq_error_iff.mp himport with ⟨cause, rfl, hcause⟩ | hpasses
      · exact .inl ⟨_, rfl, .unimportable hcause⟩
      · exact .inr hpasses
    · next target himport =>
      split at h
      · cases h
      · next hnone =>
        cases h
        exact .inl ⟨_, rfl, .otherKind (importing_eq_ok_iff.mp himport) hnone⟩
  · rintro (⟨refusal, rfl, hcause | ⟨hleads, hnone⟩⟩ | hcode | hrelative)
    · simp [importing_of_unimportable hcause]
    · simp [importing_of_leads hleads, hnone]
    · simp [importing_of_codeRaises hcode]
    · simp [importing_of_relative hrelative]

end Loading

end Plugin

/-! ## Executors -/

namespace Executor

open Plugin (Catalogue Target HasClass ClassRefusal CodeRaises Relative)

/-- The class of engines that a configuration names. -/
def HasEngine (c : Catalogue) (config : Configuration) : Except Failure Engine → Prop :=
  HasClass Target.engine? c config.execution.engine

/-- The class of pre-processors that a configuration names. -/
def HasPreProcessor (c : Catalogue) (config : Configuration) :
    Except Failure PreProcessor → Prop :=
  HasClass Target.preProcessor? c config.execution.preProcessor

/-- Why a configuration is refused for its plugins. -/
inductive BuildRefusal (c : Catalogue) (config : Configuration) : PluginRefusal → Prop
  | engine {refusal : PluginRefusal} :
    ClassRefusal "ScriptEngine" Target.engine? c config.execution.engine refusal →
    BuildRefusal c config refusal
  | preProcessor {makeEngine : Except Failure Engine} {refusal : PluginRefusal} :
    HasEngine c config makeEngine →
    ClassRefusal "FilePreProcessor" Target.preProcessor? c config.execution.preProcessor refusal →
    BuildRefusal c config refusal

/-- A file system lacks a folder of an engine, and an executor over it fails so. -/
inductive LacksFolder (fs : FileSystem) : Failure → Prop
  | bin {f : Failure} : requireFolder "bin_folder" fs.binFolder = .error f → LacksFolder fs f
  | cache {bin : String} {f : Failure} : requireFolder "bin_folder" fs.binFolder = .ok bin →
    requireFolder "dll_cache_folder" fs.cacheFolder = .error f → LacksFolder fs f

/-- What comes out of building an executor as it was raised, stage by stage: by the code of a module
that holds a class, by a constructor, or over a folder of the file system. -/
inductive BuildEscape (c : Catalogue) (config : Configuration) (fs : FileSystem) : Failure → Prop
  | engineCode {f : Failure} :
    CodeRaises c config.execution.engine f → BuildEscape c config fs f
  | preProcessorCode {makeEngine : Except Failure Engine} {f : Failure} :
    HasEngine c config makeEngine → CodeRaises c config.execution.preProcessor f →
    BuildEscape c config fs f
  | preProcessor {makeEngine : Except Failure Engine} {f : Failure} :
    HasEngine c config makeEngine → HasPreProcessor c config (.error f) →
    BuildEscape c config fs f
  | engine {pp : PreProcessor} {f : Failure} :
    HasPreProcessor c config (.ok pp) → HasEngine c config (.error f) → BuildEscape c config fs f
  | folder {engine : Engine} {pp : PreProcessor} {f : Failure} :
    HasEngine c config (.ok engine) → HasPreProcessor c config (.ok pp) → LacksFolder fs f →
    BuildEscape c config fs f

theorem new_eq_error_iff {fs : FileSystem} {pp : PreProcessor} {engine : Engine} {file : String}
    {references namespaces : List String} {f : Failure} :
    new (some fs) pp engine file references namespaces = .error f ↔ LacksFolder fs f := by
  constructor
  · intro h
    cases hbin : requireFolder "bin_folder" fs.binFolder with
    | error g =>
        simp only [new, requireArgument, hbin, Except.error.injEq] at h
        exact .bin (h ▸ hbin)
    | ok bin =>
        cases hcache : requireFolder "dll_cache_folder" fs.cacheFolder with
        | error g =>
            simp only [new, requireArgument, hbin, hcache, Except.error.injEq] at h
            exact .cache hbin (h ▸ hcache)
        | ok cache => simp [new, requireArgument, hbin, hcache] at h
  · rintro (hbin | ⟨hbin, hcache⟩)
    · simp [new, requireArgument, hbin]
    · simp [new, requireArgument, hbin, hcache]

section Building

variable {home : String} {c : Catalogue} {config : Configuration} {fs : FileSystem}

/-- The stages in which an executor is built. -/
theorem ofConfiguration_stages : ofConfiguration home c config fs =
    (Plugin.loadClass "ScriptEngine" Target.engine? c config.execution.engine >>=
      fun makeEngine => Plugin.loadClass "FilePreProcessor" Target.preProcessor? c
        config.execution.preProcessor >>=
      fun makePreProcessor => makePreProcessor >>=
      fun pp => makeEngine >>=
      fun engine => new (some fs) pp engine config.library.fileName
        (ReferenceSet.builtIn home ++ config.execution.references)
        (NamespaceSet.builtIn ++ config.execution.namespaces)) := by
  rw [ofConfiguration, Plugin.loadEngineClass_eq]
  cases Plugin.loadClass "ScriptEngine" Target.engine? c config.execution.engine with
  | error f => rfl
  | ok makeEngine =>
      dsimp only
      rw [Plugin.loadPreProcessorClass_eq]
      cases Plugin.loadClass "FilePreProcessor" Target.preProcessor? c
          config.execution.preProcessor with
      | error f => rfl
      | ok makePreProcessor =>
          cases makePreProcessor with
          | error f => rfl
          | ok pp =>
              cases makeEngine with
              | error f => rfl
              | ok engine => rfl

/-- An executor is built of what the classes make that the configuration names. -/
theorem ofConfiguration_eq_ok_iff {e : Executor} :
    ofConfiguration home c config fs = .ok e ↔
      HasEngine c config (.ok e.engine) ∧ HasPreProcessor c config (.ok e.preProcessor) ∧
        new (some fs) e.preProcessor e.engine config.library.fileName
          (ReferenceSet.builtIn home ++ config.execution.references)
          (NamespaceSet.builtIn ++ config.execution.namespaces) = .ok e := by
  rw [ofConfiguration_stages]
  constructor
  · intro h
    obtain ⟨makeEngine, hmakeEngine, h⟩ := exists_of_bind_ok h
    obtain ⟨makePreProcessor, hmakePreProcessor, h⟩ := exists_of_bind_ok h
    obtain ⟨pp, hpp, h⟩ := exists_of_bind_ok h
    obtain ⟨engine, hengine, hnew⟩ := exists_of_bind_ok h
    rw [hengine, Plugin.loadClass_eq_ok_iff] at hmakeEngine
    rw [hpp, Plugin.loadClass_eq_ok_iff] at hmakePreProcessor
    obtain ⟨folder, -, heq⟩ := new_eq hnew
    subst heq
    exact ⟨hmakeEngine, hmakePreProcessor, hnew⟩
  · rintro ⟨hengine, hpp, hnew⟩
    rw [Plugin.loadClass_eq_ok_iff.mpr hengine, Plugin.loadClass_eq_ok_iff.mpr hpp]
    exact hnew

/-- A configuration names a module by where it stands, and building an executor fails so. -/
def BuildRelative (c : Catalogue) (config : Configuration) (f : Failure) : Prop :=
  Relative config.execution.engine f ∨
    (∃ makeEngine, HasEngine c config makeEngine) ∧ Relative config.execution.preProcessor f

/-- Building an executor ends in a refusal of the configuration, or in what comes out once both
classes are loaded, unless a path is relative. -/
theorem ofConfiguration_eq_error_iff {f : Failure} :
    ofConfiguration home c config fs = .error f ↔
      (∃ refusal, f = .plugin refusal ∧ BuildRefusal c config refusal) ∨
        BuildEscape c config fs f ∨ BuildRelative c config f := by
  rw [ofConfiguration_stages]
  constructor
  · intro h
    rcases or_of_bind_error h with h | ⟨makeEngine, hengine, h⟩
    · rcases Plugin.loadClass_eq_error_iff.mp h with ⟨refusal, rfl, hrefusal⟩ | hcode | hrelative
      · exact .inl ⟨refusal, rfl, .engine hrefusal⟩
      · exact .inr (.inl (.engineCode hcode))
      · exact .inr (.inr (.inl hrelative))
    rw [Plugin.loadClass_eq_ok_iff] at hengine
    rcases or_of_bind_error h with h | ⟨makePreProcessor, hpp, h⟩
    · rcases Plugin.loadClass_eq_error_iff.mp h with ⟨refusal, rfl, hrefusal⟩ | hcode | hrelative
      · exact .inl ⟨refusal, rfl, .preProcessor hengine hrefusal⟩
      · exact .inr (.inl (.preProcessorCode hengine hcode))
      · exact .inr (.inr (.inr ⟨⟨makeEngine, hengine⟩, hrelative⟩))
    rw [Plugin.loadClass_eq_ok_iff] at hpp
    rcases or_of_bind_error h with hmake | ⟨pp, hmake, h⟩
    · exact .inr (.inl (.preProcessor hengine (hmake ▸ hpp)))
    rw [hmake] at hpp
    rcases or_of_bind_error h with hmake' | ⟨engine, hmake', h⟩
    · exact .inr (.inl (.engine hpp (hmake' ▸ hengine)))
    rw [hmake'] at hengine
    exact .inr (.inl (.folder hengine hpp (new_eq_error_iff.mp h)))
  · have hstage : ∀ {α : Type} {base : String} {select : Target → Option α} {path : String}
        {make : α}, HasClass select c path make → Plugin.loadClass base select c path = .ok make :=
      Plugin.loadClass_eq_ok_iff.mpr
    rintro (⟨refusal, rfl, hrefusal⟩ | hescape | hrelative | ⟨⟨makeEngine, hengine⟩, hrelative⟩)
    · cases hrefusal with
      | engine hengine =>
          rw [Plugin.loadClass_eq_error_iff.mpr (.inl ⟨refusal, rfl, hengine⟩)]
          rfl
      | preProcessor hengine hpp =>
          rw [hstage hengine, Plugin.loadClass_eq_error_iff.mpr (.inl ⟨refusal, rfl, hpp⟩)]
          rfl
    · cases hescape with
      | engineCode hcode =>
          rw [Plugin.loadClass_eq_error_iff.mpr (.inr (.inl hcode))]
          rfl
      | preProcessorCode hengine hcode =>
          rw [hstage hengine, Plugin.loadClass_eq_error_iff.mpr (.inr (.inl hcode))]
          rfl
      | preProcessor hengine hpp =>
          rw [hstage hengine, hstage hpp]
          rfl
      | engine hpp hengine =>
          rw [hstage hengine, hstage hpp]
          rfl
      | folder hengine hpp hlacks =>
          rw [hstage hengine, hstage hpp]
          exact new_eq_error_iff.mpr hlacks
    · rw [Plugin.loadClass_eq_error_iff.mpr (.inr (.inr hrelative))]
      rfl
    · rw [hstage hengine, Plugin.loadClass_eq_error_iff.mpr (.inr (.inr hrelative))]
      rfl

end Building

end Executor

/-! ## The law -/

namespace Plugin

open Executor (ofConfiguration HasEngine HasPreProcessor BuildRefusal BuildEscape)

/-- The kind of every refusal of a plugin. -/
def refusalKind : String := "PluginLoadError"

/-- What loading a pack comes to, for a path in a catalogue. -/
structure PackLoading (c : Catalogue) (path : String) : Prop where
  /-- A pack is loaded from what the path leads to. -/
  loaded : ∀ p, loadPack c path = .ok p ↔
    ∃ target, Leads c path target ∧ target.instantiate = .ok (some p)
  /-- Otherwise the pack is refused, or what a module or a constructor raises comes out. -/
  failed : ∀ f, loadPack c path = .error f ↔
    (∃ refusal, f = .plugin refusal ∧ PackRefusal c path refusal) ∨ PackEscape c path f
  /-- What comes out is raised by the instance of what the path leads to, or by a module: when its
  code is run, or when it is asked for the member. -/
  raised : ∀ f, PackEscape c path f →
    (∃ target, Leads c path target ∧ target.instantiate = .error f) ∨
      ∃ owner member m, Names path owner member ∧ c.module? m.name = some m ∧
        (m.fault = some f ∨ m.answer member = .error f)
  /-- Nothing but refusals comes out exactly if they raise nothing else. -/
  only : (∀ f, loadPack c path = .error f → f.kind = refusalKind) ↔
    ∀ f, PackEscape c path f → f.kind = refusalKind

/-- What building an executor comes to, for a configuration and over a file system, wherever the
packages of the host lie. -/
structure ExecutorBuilding (home : String) (c : Catalogue) (config : Configuration)
    (fs : FileSystem) : Prop where
  /-- An executor is built of what the named classes make. -/
  built : ∀ e, ofConfiguration home c config fs = .ok e ↔
    HasEngine c config (.ok e.engine) ∧ HasPreProcessor c config (.ok e.preProcessor) ∧
      Executor.new (some fs) e.preProcessor e.engine config.library.fileName
        (ReferenceSet.builtIn home ++ config.execution.references)
        (NamespaceSet.builtIn ++ config.execution.namespaces) = .ok e
  /-- Otherwise the configuration is refused, or what one of the stages raises comes out. -/
  failed : ∀ f, ofConfiguration home c config fs = .error f ↔
    (∃ refusal, f = .plugin refusal ∧ BuildRefusal c config refusal) ∨ BuildEscape c config fs f
  /-- Nothing but refusals comes out exactly if no stage raises anything else. -/
  only : (∀ f, ofConfiguration home c config fs = .error f → f.kind = refusalKind) ↔
    ∀ f, BuildEscape c config fs f → f.kind = refusalKind

/-- Failures that are refusals, or escape otherwise, are refusals exactly if those that escape
are. -/
theorem only_refusals_iff {refuses : PluginRefusal → Prop} {fails escapes : Failure → Prop}
    (h : ∀ f, fails f ↔ (∃ refusal, f = .plugin refusal ∧ refuses refusal) ∨ escapes f) :
    (∀ f, fails f → f.kind = refusalKind) ↔ ∀ f, escapes f → f.kind = refusalKind := by
  constructor
  · intro hall f hescape
    exact hall f ((h f).mpr (.inr hescape))
  · intro hescapes f hfails
    rcases (h f).mp hfails with ⟨refusal, rfl, -⟩ | hescape
    · rfl
    · exact hescapes f hescape

/-- Whatever can be imported, every pack and every executor whose paths are not relative obeys the
laws of loading and building. -/
theorem loading_law (home : String) (c : Catalogue) :
    (∀ path, ¬ IsRelativePath path → PackLoading c path) ∧
      ∀ config fs, ¬ IsRelativePath config.execution.engine →
        ¬ IsRelativePath config.execution.preProcessor → ExecutorBuilding home c config fs := by
  constructor
  · intro path habsolute
    have hfailed : ∀ f, loadPack c path = .error f ↔
        (∃ refusal, f = .plugin refusal ∧ PackRefusal c path refusal) ∨ PackEscape c path f := by
      intro f
      rw [loadPack_eq_error_iff, ← or_assoc, or_iff_left]
      exact fun hrelative => habsolute hrelative.isRelativePath
    have hraised : ∀ f, PackEscape c path f →
        (∃ target, Leads c path target ∧ target.instantiate = .error f) ∨
          ∃ owner member m, Names path owner member ∧ c.module? m.name = some m ∧
            (m.fault = some f ∨ m.answer member = .error f) := by
      intro f hescape
      cases hescape with
      | code hcode => exact .inr hcode.module
      | constructor hleads hmake => exact .inl ⟨_, hleads, hmake⟩
    exact ⟨fun _ => loadPack_eq_ok_iff, hfailed, hraised, only_refusals_iff hfailed⟩
  · intro config fs hengine hpp
    have hfailed : ∀ f, ofConfiguration home c config fs = .error f ↔
        (∃ refusal, f = .plugin refusal ∧ BuildRefusal c config refusal) ∨
          BuildEscape c config fs f := by
      intro f
      rw [Executor.ofConfiguration_eq_error_iff, ← or_assoc, or_iff_left]
      rintro (hrelative | ⟨-, hrelative⟩)
      · exact hengine hrelative.isRelativePath
      · exact hpp hrelative.isRelativePath
    exact ⟨fun _ => Executor.ofConfiguration_eq_ok_iff, hfailed, only_refusals_iff hfailed⟩

/-! ## A sample -/

/-- A module with a pack that cannot be made and an abstract engine, beside plugins without
faults. -/
def faultyModule : ModuleEntry where
  name := "plugins"
  isPackage := false
  members := [
    ("Faulty", .packClass "Faulty" (.error (.raised ⟨"ValueError", "cannot construct"⟩))),
    ("Abstract", .engineClass "Abstract" (.error (.wrongType "Can't instantiate abstract class"))),
    ("Plan", .engineClass "Plan" (.ok .dryRun)),
    ("Plain", .preProcessorClass "Plain" (.ok ()) (.ok .passthrough))]

/-- A module whose code is none. -/
def brokenModule : ModuleEntry where
  name := "broken"
  isPackage := false
  members := []
  fault := some (.raised ⟨"SyntaxError", "invalid syntax"⟩)

/-- A configuration that names an engine, and a pre-processor of that module. -/
def faultyConfiguration (engine : String) : Configuration where
  folders := ⟨none, "bin", ".cache", "packages"⟩
  library := ⟨"ScriptLibraries.csx"⟩
  execution := ⟨[], [], [], engine, "plugins:Plain"⟩
  logging := ⟨.info, none, false⟩

theorem names_faulty {member : String} (h : member ≠ "") :
    Names ("plugins" ++ ":" ++ member) "plugins" member :=
  ⟨by decide, h, .inl ⟨rfl, by decide⟩⟩

theorem not_isRelative_faulty : ¬ IsRelative "plugins" := by
  rw [IsRelative]
  decide

theorem not_isRelativePath_faulty {member : String} (h : member ≠ "") :
    ¬ IsRelativePath ("plugins" ++ ":" ++ member) := by
  rintro ⟨owner, other, hnames, hrelative⟩
  obtain ⟨hsplit, -⟩ := names_iff.mp hnames
  obtain ⟨hsplit', -⟩ := names_iff.mp (names_faulty h)
  rw [hsplit'] at hsplit
  obtain ⟨rfl, -⟩ := Prod.mk.inj hsplit
  exact not_isRelative_faulty hrelative

theorem reaches_faulty : Reaches [faultyModule] (moduleChain "plugins") faultyModule := by
  have hchain : moduleChain "plugins" = ["plugins"] := by decide +kernel
  exact ⟨[], hchain, nofun, rfl, rfl⟩

theorem codeRaises_broken :
    CodeRaises [brokenModule] "broken:Pack" (.raised ⟨"SyntaxError", "invalid syntax"⟩) := by
  have hnames : Names ("broken" ++ ":" ++ "Pack") "broken" "Pack" :=
    ⟨by decide, by decide, .inl ⟨rfl, by decide⟩⟩
  have habsolute : ¬ IsRelative "broken" := by
    rw [IsRelative]
    decide
  have hchain : moduleChain "broken" = [].map ModuleEntry.name ++ brokenModule.name :: [] := by
    decide +kernel
  exact ⟨.broken hnames habsolute (.raised [] hchain nofun rfl rfl), nofun⟩

theorem leads_faulty {member : String} (h : member ≠ "") {target : Target}
    (hmember : faultyModule.member? member = .ok (some target)) :
    Leads [faultyModule] ("plugins" ++ ":" ++ member) target :=
  .intro (names_faulty h) not_isRelative_faulty reaches_faulty hmember

theorem hasPreProcessor_faulty (engine : String) :
    HasPreProcessor [faultyModule] (faultyConfiguration engine) (.ok .passthrough) := by
  have hplain : ("Plain" : String) ≠ "" := by decide
  exact ⟨_, leads_faulty hplain rfl, rfl⟩

theorem hasEngine_faulty {member : String} (h : member ≠ "") {name : String}
    {make : Except Failure Engine}
    (hmember : faultyModule.member? member = .ok (some (.engineClass name make))) :
    HasEngine [faultyModule] (faultyConfiguration ("plugins" ++ ":" ++ member)) make :=
  ⟨_, leads_faulty h hmember, rfl⟩

/-- What the constructor of a pack raises is no refusal and comes out, and so does what the code of
a module raises, and what the constructor of an abstract engine does. -/
theorem constructor_failures_pass :
    (∃ f, loadPack [faultyModule] "plugins:Faulty" = .error f ∧ f.kind ≠ refusalKind) ∧
      (∃ f, loadPack [brokenModule] "broken:Pack" = .error f ∧ f.kind ≠ refusalKind) ∧
      ∃ f, ofConfiguration "/usr/share/host" [faultyModule] (faultyConfiguration "plugins:Abstract")
        Executor.sample.fileSystem = .error f ∧ f.kind ≠ refusalKind := by
  refine ⟨?_, ?_, ?_⟩
  · have hname : ("Faulty" : String) ≠ "" := by decide
    have hescape : PackEscape [faultyModule] "plugins:Faulty" _ :=
      .constructor (leads_faulty hname rfl) rfl
    exact ⟨_, loadPack_eq_error_iff.mpr (.inr (.inl hescape)), by decide⟩
  · have hescape := PackEscape.code codeRaises_broken
    exact ⟨_, loadPack_eq_error_iff.mpr (.inr (.inl hescape)), by decide⟩
  · have hname : ("Abstract" : String) ≠ "" := by decide
    have hescape : BuildEscape [faultyModule] (faultyConfiguration "plugins:Abstract")
        Executor.sample.fileSystem _ :=
      .engine (hasPreProcessor_faulty _) (hasEngine_faulty hname rfl)
    exact ⟨_, Executor.ofConfiguration_eq_error_iff.mpr (.inr (.inl hescape)), by decide⟩

/-- A pack that is not there is refused, and an executor is built of plugins without faults. -/
theorem loading_in_sample :
    (¬ IsRelativePath "plugins:Missing" ∧ loadPack [faultyModule] "plugins:Missing" =
        .error (.plugin (.cannotImportPack "plugins:Missing" (.noMember "plugins" "Missing")))) ∧
      ¬ IsRelativePath "plugins:Plan" ∧ ¬ IsRelativePath "plugins:Plain" ∧
      ∃ e, ofConfiguration "/usr/share/host" [faultyModule] (faultyConfiguration "plugins:Plan")
        Executor.sample.fileSystem = .ok e ∧ e.engine.kind = "DryRunEngine" := by
  obtain ⟨hpacks, hexecutors⟩ := loading_law "/usr/share/host" [faultyModule]
  have hmissing : ("Missing" : String) ≠ "" := by decide
  have hplan : ("Plan" : String) ≠ "" := by decide
  have hplain : ("Plain" : String) ≠ "" := by decide
  have habsolute : ¬ IsRelativePath "plugins:Missing" := not_isRelativePath_faulty hmissing
  have hengine : ¬ IsRelativePath "plugins:Plan" := not_isRelativePath_faulty hplan
  have hpp : ¬ IsRelativePath "plugins:Plain" := not_isRelativePath_faulty hplain
  refine ⟨⟨habsolute, ?_⟩, hengine, hpp, ?_⟩
  · refine ((hpacks _ habsolute).failed _).mpr (.inl ⟨_, rfl, .unimportable ?_⟩)
    exact Fails.noMember (names_faulty hmissing) not_isRelative_faulty reaches_faulty rfl
  · have hbuilt := (hexecutors (faultyConfiguration "plugins:Plan") Executor.sample.fileSystem
      hengine hpp).built
    obtain ⟨e, hnew⟩ : ∃ e, Executor.new (some Executor.sample.fileSystem) .passthrough .dryRun
        "ScriptLibraries.csx" (ReferenceSet.builtIn "/usr/share/host" ++ [])
        (NamespaceSet.builtIn ++ []) = .ok e := ⟨_, rfl⟩
    obtain ⟨folder, -, heq⟩ := Executor.new_eq hnew
    have hdry : e.engine = .dryRun := by rw [heq]
    have hpass : e.preProcessor = .passthrough := by rw [heq]
    refine ⟨e, (hbuilt e).mpr ?_, ?_⟩
    · rw [hdry, hpass]
      exact ⟨hasEngine_faulty hplan rfl, hasPreProcessor_faulty _, hnew⟩
    · rw [hdry]
      rfl

end Plugin

end ScriptHost
