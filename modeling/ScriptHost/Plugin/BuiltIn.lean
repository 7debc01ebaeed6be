import ScriptHost.Plugin.Load

/-!
# Plugins of the host

The plugins that are there without anything being installed: the engine that plans instead of
running, and the pre-processor that hands source over unchanged.  Each can be named in the module
that holds it, or in the package around that module.

## Main results

* `loadEngineClass_default`, `loadPreProcessorClass_default` — both are loaded by the names that a
  configuration has for them, whatever else is installed.
-/

namespace ScriptHost.Plugin

/-- The engine that comes with the host. -/
def dryRunTarget : Target := .engineClass "DryRunEngine" (.ok .dryRun)

/-- The pre-processor that comes with the host. -/
def passthroughTarget : Target :=
  .preProcessorClass "PassthroughPreProcessor" (.error (.wrongType
    "PassthroughPreProcessor.__init__() missing 1 required positional argument: 'file_system'"))
    (.ok .passthrough)

/-- The package of everything that a host is set up with. -/
def hosting : ModuleEntry :=
  .plain "scriptcore.hosting" true [
    ("engine", .module "scriptcore.hosting.engine"),
    ("preprocessor", .module "scriptcore.hosting.preprocessor"),
    ("DryRunEngine", dryRunTarget), ("PassthroughPreProcessor", passthroughTarget)]

/-- What comes with the host. -/
def builtIn : Catalogue := [
  .plain "scriptcore" true [("hosting", .module "scriptcore.hosting")], hosting,
  .plain "scriptcore.hosting.engine" false [("DryRunEngine", dryRunTarget)],
  .plain "scriptcore.hosting.preprocessor" false [("PassthroughPreProcessor", passthroughTarget)]]

/-! ## Among other plugins -/

/-- Whether a catalogue has the modules that come with the host. -/
def Catalogue.HasBuiltIn (c : Catalogue) : Prop := ∀ m ∈ builtIn, c.module? m.name = some m

theorem Catalogue.builtIn_hasBuiltIn : Catalogue.HasBuiltIn builtIn := by
  intro m hm
  simp only [builtIn, List.mem_cons, List.not_mem_nil, or_false] at hm
  rcases hm with rfl | rfl | rfl | rfl
  · rfl
  · rfl
  · rfl
  · rfl

/-- What is installed besides, under other names, replaces nothing. -/
theorem Catalogue.HasBuiltIn.cons {c : Catalogue} (h : c.HasBuiltIn) {m : ModuleEntry}
    (hm : ∀ b ∈ builtIn, m.name ≠ b.name) : Catalogue.HasBuiltIn (m :: c) := by
  intro b hb
  have hskip : Catalogue.module? (m :: c) b.name = c.module? b.name := by
    simp [module?, hm b hb]
  rw [hskip]
  exact h b hb

/-- A module inside the hosting package can be imported. -/
theorem importModule_hosted {c : Catalogue} (h : c.HasBuiltIn) {m : ModuleEntry}
    (hm : m ∈ builtIn) (hquiet : m.fault = none)
    (hchain : moduleChain m.name = ["scriptcore", "scriptcore.hosting", m.name])
    (hplain : m.name.toList.head? ≠ some '.') : importModule c m.name = .ok (some m) := by
  have houter : c.module? "scriptcore" = some _ := h _ List.mem_cons_self
  have hpackage : c.module? "scriptcore.hosting" = some hosting :=
    h _ (List.mem_cons_of_mem _ List.mem_cons_self)
  rw [importModule, if_neg hplain, hchain]
  simp [findModule, houter, hpackage, hosting, ModuleEntry.plain, h m hm, hquiet]

theorem loadEngineClass_default {c : Catalogue} (h : c.HasBuiltIn) :
    loadEngineClass c "scriptcore.hosting.engine:DryRunEngine" = .ok (.ok .dryRun) := by
  let m : ModuleEntry :=
    .plain "scriptcore.hosting.engine" false [("DryRunEngine", dryRunTarget)]
  have hchain : moduleChain m.name = ["scriptcore", "scriptcore.hosting", m.name] := by
    decide +kernel
  have himport : importModule c "scriptcore.hosting.engine" = .ok (some m) :=
    importModule_hosted h (by simp [builtIn, m]) rfl hchain (by decide)
  have hsplit : splitPath "scriptcore.hosting.engine:DryRunEngine" =
      ("scriptcore.hosting.engine", "DryRunEngine") := by decide +kernel
  have hresolve : resolve c "scriptcore.hosting.engine:DryRunEngine" = .ok dryRunTarget := by
    simp [resolve, hsplit, himport, m, ModuleEntry.plain, ModuleEntry.member?,
      Sequence.Entries.get?]
  rw [loadEngineClass, hresolve]
  rfl

theorem loadPreProcessorClass_default {c : Catalogue} (h : c.HasBuiltIn) :
    loadPreProcessorClass c "scriptcore.hosting.preprocessor:PassthroughPreProcessor" =
      .ok (.ok .passthrough) := by
  let m : ModuleEntry :=
    .plain "scriptcore.hosting.preprocessor" false [("PassthroughPreProcessor", passthroughTarget)]
  have hchain : moduleChain m.name = ["scriptcore", "scriptcore.hosting", m.name] := by
    decide +kernel
  have himport : importModule c "scriptcore.hosting.preprocessor" = .ok (some m) :=
    importModule_hosted h (by simp [builtIn, m]) rfl hchain (by decide)
  have hsplit : splitPath "scriptcore.hosting.preprocessor:PassthroughPreProcessor" =
      ("scriptcore.hosting.preprocessor", "PassthroughPreProcessor") := by decide +kernel
  have hresolve : resolve c "scriptcore.hosting.preprocessor:PassthroughPreProcessor" =
      .ok passthroughTarget := by
    simp [resolve, hsplit, himport, m, ModuleEntry.plain, ModuleEntry.member?,
      Sequence.Entries.get?]
  rw [loadPreProcessorClass, hresolve]
  rfl

end ScriptHost.Plugin
