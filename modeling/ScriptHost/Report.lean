import ScriptHost.Executor
import ScriptHost.Log.Loggers
import ScriptHost.Plugin.Catalogue

/-!
# Reports

Sessions, results, loggers and plugins as loose data, for whoever wants to print or store them.
A report says everything about a value that the library answers questions about.
-/

namespace ScriptHost

/-- An issue: the way to the field, and what is wrong with it. -/
def Schema.Issue.report (issue : Schema.Issue) : Datum :=
  .fields [
    ("loc", .list (issue.path.map fun | .field name => .text name | .item i => .int i)),
    ("type", .text issue.complaint.word), ("msg", .text issue.complaint.message)]

/-- A submission: what is run, and what it is run with. -/
def Submission.entries (s : Submission) : List (String × Datum) := [
  ("code", .text s.code), ("args", .texts s.arguments), ("references", .texts s.paths),
  ("modules", .texts (s.modules.map Module.name)), ("namespaces", .texts s.namespaces),
  ("file_name", .ofOption s.desk.fileName), ("base", .ofOption s.desk.baseDirectory),
  ("cache", .ofOption s.desk.cacheDirectory), ("pack_refs", .texts s.session.references),
  ("pack_ns", .texts s.session.namespaces), ("session_args", .texts s.session.arguments)]

/-- A phase: its name and what it means. -/
def Phase.entries (p : Phase) : List (String × Datum) :=
  [("name", .text p.word.toUpper), ("description", .text p.description)]

/-- A plan, and its summary. -/
def Plan.report (p : Plan) : Datum := .fields (p.entries ++ [("summary", .text p.summary)])

/-- The kinds of failures whose wording is none of the library's. -/
def Failure.wordlessKinds : List String :=
  ["YAMLError", "TypeError", "MarkupError", "AttributeError", "UnicodeDecodeError",
    "IsADirectoryError", "FileExistsError", "NotADirectoryError"]

/-- What a failure says besides its kind: the issues of a model, a path, or a message. -/
def Failure.details (f : Failure) : List (String × Datum) :=
  match f with
  | .invalid _ issues => [("details", .list (issues.map Schema.Issue.report))]
  | .disk .missing path => [("path", .text path)]
  | .disk .. | .momentTooFar => []
  | _ =>
    (if wordlessKinds.contains f.kind then [] else [("message", .text f.message)]) ++
      match f.argument? with
      | some name => [("argument", .text name)]
      | none => if f.kind = "InvalidArgumentError" then [("argument", .null)] else []

/-- A failure: its kind and its details. -/
def Failure.entries (f : Failure) : List (String × Datum) :=
  ("error", .text f.kind) :: f.details

/-- What a script returned; a plan says that it is one. -/
def ReturnValue.report : ReturnValue → Datum
  | .plan p => .fields [("plan", p.report)]
  | .datum d => d

/-- A result: its value, and how the script went. -/
def ScriptResult.report (r : ScriptResult) : Datum :=
  .fields [
    ("value", r.value.report), ("success", .bool r.isSuccess), ("summary", .text r.summary),
    ("complete", .bool r.isComplete), ("invalid", .texts r.invalidNamespaces)]

/-- A context: its type and its owner. -/
def Context.report (c : Context) : Datum := .list [.text c.type, .ofOption c.owner]

/-- A module: its handle and its name. -/
def Module.report (m : Module) : Datum := .texts [m.handle, m.name]

/-- A reference set: its items and their number. -/
def ReferenceSet.entries (set : ReferenceSet) : List (String × Datum) := [
  ("paths", .texts set.paths.toList), ("modules", .list (set.modules.toList.map Module.report)),
  ("len", .int set.size)]

/-- A namespace set: its names and their number. -/
def NamespaceSet.entries (set : NamespaceSet) : List (String × Datum) := [
  ("names", .texts set.names), ("len", .int set.names.length)]

/-- Texts that may be absent. -/
def Datum.optionalTexts (items : List (Option String)) : Datum :=
  .list (items.map .ofOption)

/-- A session: its phase, and everything that its packs did to it. -/
def Session.report (s : Session) : Datum :=
  .fields [
    ("phase", .text s.phase.word), ("active", .bool s.isActive), ("injected", .bool s.injected),
    ("state", .fields s.state), ("references", .texts s.references),
    ("namespaces", .texts s.namespaces), ("args", .texts s.arguments),
    ("packs", .texts s.packNames), ("contexts", .list (s.contexts.map Context.report))]

/-- The environment of an executor, its session, and the desk of its engine. -/
def Executor.entries (e : Executor) : List (String × Datum) := [
  ("references", .texts e.references.paths.toList),
  ("modules", .list (e.references.modules.toList.map Module.report)),
  ("namespaces", .texts e.namespaces.names),
  ("session", (e.session.map Session.report).getD .null),
  ("engine", .optionalTexts [e.desk.baseDirectory, e.desk.cacheDirectory, e.desk.fileName])]

/-- The collaborators of an executor, and the folders of its file system. -/
def Executor.collaborators (e : Executor) : List (String × Datum) := [
  ("fs", .text e.fileSystem.kind), ("preprocessor", .text e.preProcessor.kind),
  ("engine", .text e.engine.kind), ("library", .text e.libraryFile),
  ("folders", .optionalTexts (e.fileSystem.folders.map fun name => name.toOption.join))]

/-- A pack: its name and its class. -/
def Pack.report (p : Pack) : Datum :=
  .fields [("kind", .text "pack"), ("name", .text p.name), ("class", .text p.label.kind)]

/-- What a dotted path names: of which kind it is, and its name or its value. -/
def Plugin.Target.report : Plugin.Target → Datum
  | .packClass name _ | .engineClass name _ | .preProcessorClass name _ _ | .otherClass name _ =>
    .fields [("kind", .text "class"), ("name", .text name)]
  | .function name _ => .fields [("kind", .text "function"), ("name", .text name)]
  | .module name => .fields [("kind", .text "module"), ("name", .text name)]
  | .pack p => p.report
  | .value _ (some content) => .fields [("kind", .text "value"), ("value", content)]
  | .value type none => .fields [("kind", .text "other"), ("name", .text type)]

/-- The class of a handler. -/
def Log.Sink.word : Log.Sink → String
  | .console => "RichHandler"
  | .file .. => "FileHandler"

/-- A logger: its levels and its handlers. -/
def Log.Loggers.entries (ls : Log.Loggers) (name : String) : List (String × Datum) := [
  ("name", .text (Log.Loggers.trueName name)), ("level", .int (ls.ownLevel name)),
  ("effective", .int (ls.effectiveLevel name)),
  ("handlers", .list ((ls.handlersOf name).map fun h =>
    .list [.text h.sink.word, .int h.severity]))]

end ScriptHost
