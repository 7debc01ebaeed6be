import ScriptHost.Plugin.Catalogue

/-!
# Loading plugins

Packs, engines and pre-processors by their dotted paths.  A path that cannot be imported, or
that leads to something of another kind, is refused by name.  What else the code of a module raises
passes through, and so does what the constructor of a plugin raises.
-/

namespace ScriptHost.Plugin

/-- An import of a plugin: what cannot be imported is refused as the host's own failure. -/
def importing (refuse : ImportFault → PluginRefusal) :
    Except Failure Target → Except Failure Target
  | .error (.imports cause) => .error (.plugin (refuse cause))
  | found => found

/-- What using a target without arguments gives: a pack, or something else. -/
def Target.instantiate : Target → Except Failure (Option Pack)
  | .packClass _ make => make.map some
  | .engineClass _ make => make.map fun _ => none
  | .preProcessorClass _ call _ | .otherClass _ call => call.map fun _ => none
  | .pack p => .ok (some p)
  | .function .. | .module _ | .value .. => .ok none

/-- What calling a target without arguments gives: a pack, or something else. -/
def Target.call : Target → Except Failure (Option Pack)
  | .function _ call => call.map fun _ => none
  | .module _ => .error (.wrongType "'module' object is not callable")
  | .pack p => .error (.wrongType ("'" ++ p.label.kind ++ "' object is not callable"))
  | .value type _ => .error (.wrongType ("'" ++ type ++ "' object is not callable"))
  | target => target.instantiate

/-- Loads a pack. -/
def loadPack (c : Catalogue) (path : String) : Except Failure Pack :=
  match importing (.cannotImportPack path) (resolve c path) with
  | .error f => .error f
  | .ok target =>
    match target.instantiate with
    | .error f => .error f
    | .ok (some p) => .ok p
    | .ok none => .error (.plugin (.notPack path))

/-- Loads a class of engines, which is made later. -/
def loadEngineClass (c : Catalogue) (path : String) : Except Failure (Except Failure Engine) :=
  match importing (.cannotImport path) (resolve c path) with
  | .error f => .error f
  | .ok (.engineClass _ make) => .ok make
  | .ok _ => .error (.plugin (.notSubclass path "ScriptEngine"))

/-- Loads a class of pre-processors, which is made later. -/
def loadPreProcessorClass (c : Catalogue) (path : String) :
    Except Failure (Except Failure PreProcessor) :=
  match importing (.cannotImport path) (resolve c path) with
  | .error f => .error f
  | .ok (.preProcessorClass _ _ make) => .ok make
  | .ok _ => .error (.plugin (.notSubclass path "FilePreProcessor"))

end ScriptHost.Plugin
