import ScriptHost.Config.Basic
import ScriptHost.Executor
import ScriptHost.Plugin.Load

/-!
# Executors from a configuration

A configuration names the classes of the engine and of the pre-processor.  Both are loaded
before either is made, so a misspelled name is found before any constructor runs.  The
references and namespaces of the configuration extend the defaults, and so survive a reset.
-/

namespace ScriptHost.Executor

/-- The executor that a configuration describes, over a file system; the packages of the host lie in
a folder of their own. -/
def ofConfiguration (home : String) (catalogue : Plugin.Catalogue) (config : Configuration)
    (fs : FileSystem) : Except Failure Executor :=
  match Plugin.loadEngineClass catalogue config.execution.engine with
  | .error f => .error f
  | .ok makeEngine =>
    match Plugin.loadPreProcessorClass catalogue config.execution.preProcessor with
    | .error f => .error f
    | .ok makePreProcessor =>
      match makePreProcessor with
      | .error f => .error f
      | .ok preProcessor =>
        match makeEngine with
        | .error f => .error f
        | .ok engine =>
          new (some fs) preProcessor engine config.library.fileName
            (ReferenceSet.builtIn home ++ config.execution.references)
            (NamespaceSet.builtIn ++ config.execution.namespaces)

end ScriptHost.Executor
