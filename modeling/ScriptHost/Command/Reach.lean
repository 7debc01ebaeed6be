import ScriptHost.Command.Run

/-!
# What a command may look at

A command works on a disk in memory, so what it may look at has to be on that disk before it
begins.  That is found in two rounds: the command line leads to the configuration, and the
configuration leads to everything else, the script, the bundle of the script library and the log
file.

What a command has written is the difference between two disks.
-/

namespace ScriptHost.Command

/-- The configuration files that a request names. -/
def Request.configurations (m : Manner) : Request → List String
  | .showConfiguration file => file.toList
  | .writeConfiguration file _ => [file]
  | _ => m.configuration.toList

/-- The scripts that a request names. -/
def Request.scripts : Request → List String
  | .execute ⟨.file path, _, _, _⟩ => [path]
  | _ => []

/-- The directories for which a request looks for the script library, other than the current
one. -/
def Request.directories (base : String) : Request → List String
  | .execute ⟨.file path, _, _, _⟩ =>
    [((Path.ofString base).join (Path.ofString path)).parent.toString]
  | .library directory => directory.toList
  | _ => []

/-- The paths that lead to the configuration. -/
def configurationPaths (words : List String) : List String :=
  match Reading.ofWords words with
  | .request m r => Configuration.usualNames ++ r.configurations m
  | _ => []

/-- The paths that a configuration leads to. -/
def requestPaths (d : Disk) (c : Configuration) (r : Request) : List String :=
  let base := match c.folders.currentDirectory with
    | some path => (d.resolve path).toString
    | none => Disk.namesText d.place
  let bundle (directory : String) : String :=
    Path.joinText (Path.joinText directory c.folders.packagesFolder) c.library.fileName
  c.logging.file.toList ++ r.scripts.map (Path.joinText base) ++
    (base :: r.directories base).map bundle

/-- The paths that a command line leads to by way of the configuration on a disk. -/
def remainingPaths (environment : Environment) (d : Disk) (words : List String) : List String :=
  match Reading.ofWords words with
  | .request m r =>
    match Configuration.load environment d (r.configurations m).head? with
    | .ok c => requestPaths d c r
    | .error _ => []
  | _ => []

/-- What is on a disk and was not on an earlier one, oldest first. -/
def written (before after : Disk) : List (List String × Node) :=
  (after.nodes.filter fun n => before.node? n.1 ≠ after.node? n.1).reverse

end ScriptHost.Command
