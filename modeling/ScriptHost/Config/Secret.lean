import ScriptHost.Config.Environment
import ScriptHost.Config.VariableFile
import ScriptHost.Disk.Basic

/-!
# Settings from files of variables and from folders of secrets

A convention may name files of variables, which are read as if their variables were in the
environment, and folders of secrets, in which the file with the name of a section's variable
holds the section as JSON.  A file or a folder that is not there sets nothing.

Every variable of a file must be about a section.  One that is not, and is not empty, is a setting
of its own name, which no configuration knows.

## Main results

* `secretSections_nil` — without folders nothing is secret.
-/

namespace ScriptHost

open Sequence (Entries)

namespace Convention

/-! ## Files of variables -/

/-- The variables of files, by the names under which they are looked up. -/
def fileVariables (k : Convention) (env : Environment) (d : Disk) :
    List String → Except Failure (Entries (Option String))
  | [] => .ok []
  | path :: paths => do
    let given ← if ← d.isFile path then
      pure (Environment.named k (VariableFile.read env (← d.textOf path))) else pure []
    return Entries.putAll given (← fileVariables k env d paths)

/-- Whether a variable is about a section. -/
def isKnown (k : Convention) (name : String) : Bool :=
  sectionShapes.any fun shape =>
    (k.nameOf shape.name).toList.isPrefixOf name.toList ||
      (name == shape.name && !k.mark.isEmpty)

/-- The variables that are about no section, as settings of their own names. -/
def strayVariables (k : Convention) (vars : Entries (Option String)) : List (String × Datum) :=
  vars.filterMap fun v =>
    match v.2 with
    | none | some "" => none
    | some text => if k.isKnown v.1 then none else some (v.1, .text text)

/-! ## Folders of secrets -/

/-- The folders of secrets that are there, the one that counts most first. -/
def secretFolders (d : Disk) : List String → Except Failure (List String)
  | [] => .ok []
  | path :: paths => do
    let later ← secretFolders d paths
    match ← d.look path with
    | none => return later
    | some .directory => return later ++ [path]
    | some (.file _) => .error .secretsNoFolder

/-- The text of the first file of a name in some folders. -/
def secretText (k : Convention) (d : Disk) (name : String) :
    List String → Except Failure (Option String)
  | [] => .ok none
  | folder :: folders =>
    match (d.namesIn folder).find? fun n => k.fold n = k.fold name with
    | none => secretText k d name folders
    | some file => do
      let path := Path.joinText folder file
      if ← d.isFile path then return some (Text.strip (← d.textOf path))
      else secretText k d name folders

/-- What folders of secrets set in a section, if anything. -/
def secretSection (k : Convention) (d : Disk) (folders : List String) (shape : SectionShape) :
    Except Failure (Option Datum) :=
  match k.secretText d (k.nameOf shape.name) folders with
  | .error _ => .error (.unusableSetting .secretFolder shape.name)
  | .ok none => .ok none
  | .ok (some text) =>
    match Json.parse? text with
    | none => .error (.undecodableSetting .secretFolder shape.name)
    | some .null => .ok none
    | some (.obj members) =>
      .ok (some (.fields (Environment.namedFields k shape
        (members.map fun m => (m.1, Datum.ofJson m.2)))))
    | some j => .ok (some (.ofJson j))

/-- What folders of secrets set, section by section. -/
def secretSections (k : Convention) (d : Disk) (folders : List String) :
    List SectionShape → Except Failure (List (String × Datum))
  | [] => .ok []
  | shape :: shapes => do
    let value ← if folders.isEmpty then pure none else k.secretSection d folders shape
    let rest ← secretSections k d folders shapes
    return match value with
      | none => rest
      | some value => (shape.name, value) :: rest

theorem secretSections_nil (k : Convention) (d : Disk) (shapes : List SectionShape) :
    k.secretSections d [] shapes = .ok [] := by
  induction shapes with
  | nil => rfl
  | cons shape shapes ih => simp [secretSections, ih, bind, Except.bind, pure, Except.pure]

end Convention

end ScriptHost
