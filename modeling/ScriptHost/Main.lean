import ScriptHost.Command.Reach
import ScriptHost.Plugin.BuiltIn
import Std.Time.Zoned

/-!
# The program

Takes what a command may look at from the real disk, runs the command, writes back what is new,
and prints.  What a command does is decided elsewhere.
-/

namespace ScriptHost

/-- The names that lead to what a path means, outermost first, one row for each of them. -/
def namesAbove (d : Disk) (path : String) : List (List String) :=
  let names := (d.resolve path).parts
  (List.range names.length).map fun k => names.take (k + 1)

/-- Takes what is under a row of names from the real disk. -/
def takeNode (d : Disk) (names : List String) : IO Disk := do
  let place := (← IO.currentDir) / Disk.namesText names
  if ← place.isDir then return d.store names .directory
  match ← (IO.FS.readBinFile place).toBaseIO with
  | .ok bytes => return d.store names (.file bytes.toList)
  | .error _ => return d

/-- Takes what paths lead to from the real disk, with the directories above. -/
def takePaths (d : Disk) (paths : List String) : IO Disk :=
  (paths.flatMap (namesAbove d)).eraseDups.foldlM takeNode d

/-- Writes to the real disk. -/
def putNode : List String × Node → IO Unit
  | (names, .directory) => IO.FS.createDirAll (Disk.namesText names)
  | (names, .file bytes) => IO.FS.writeBinFile (Disk.namesText names) (ByteArray.mk bytes.toArray)

/-- The settings in the environment. -/
def readSettings : IO Environment := do
  let values ← Environment.usualNames.mapM fun name => IO.getEnv name
  return (Environment.usualNames.zip values).filterMap fun (name, value) =>
    value.map fun text => (name, text)

/-- The time zone of the machine, or universal time if there is none. -/
def readZone : IO Log.Zone := do
  match ← Std.Time.Database.defaultGetLocalZoneRules.toBaseIO with
  | .ok rules =>
    return ⟨fun second =>
      (rules.timezoneAt (.ofSecondsSinceUnixEpoch (.ofInt second))).offset.second.val⟩
  | .error _ => return .universal

/-- The present moment. -/
def readStamp : IO Log.Stamp := do
  let nanos := (← Std.Time.Timestamp.now).toNanosecondsSinceUnixEpoch.val
  return .ofSeconds (← readZone) (.ofRatio (nanos < 0) nanos.natAbs 1000000000)

/-- Runs a command on the real disk. -/
def runCommand (words : List String) : IO UInt32 := do
  let environment ← readSettings
  let empty := Disk.empty (toString (← IO.currentDir))
  let d ← takePaths empty (Command.configurationPaths words)
  let d ← takePaths d (Command.remainingPaths environment d words)
  let surroundings : Command.Surroundings :=
    ⟨Plugin.builtIn, toString (← IO.appDir), [], environment, ← readStamp, .ofRatio false 0 1⟩
  let outcome := Command.run surroundings d words
  (Command.written d outcome.disk).forM putNode
  for line in outcome.printed.flatMap Console.Block.lines do
    IO.println line
  if let some f := outcome.raised then IO.eprintln f.message
  return UInt32.ofNat outcome.exit

end ScriptHost

/-- Runs the command that the words of the command line ask for. -/
def main (words : List String) : IO UInt32 := ScriptHost.runCommand words
