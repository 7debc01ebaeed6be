import ScriptHost.Config.Secret

/-!
# Where settings come from

A configuration is made of the sections that are given to it, by a file or by a caller, over
those of the environment, over the defaults.  What is given wins field by field: a section that
mentions one field leaves the others to the environment.  Files of variables and folders of
secrets, if a convention names any, come between the environment and the defaults.

## Main results

* `entry?_over` — a field of a merged section is the given one, or else the environment's.
* `merge_nil` — sections over nothing are the sections.
-/

namespace ScriptHost

open Schema (Fields)

namespace Configuration

/-- The given sections by the names of the sections, in whatever case they are written, of which
the first counts; the others by their own names. -/
def namedSections (given : List (String × Datum)) : List (String × Datum) :=
  let known := sectionShapes.filterMap fun shape =>
    (given.find? fun g => Text.lower g.1 = shape.name).map fun g => (shape.name, g.2)
  let others := given.filter fun g => !sectionShapes.any fun shape => shape.name = Text.lower g.1
  known ++ others

/-- A given value over one of the environment: mappings are merged, anything else is replaced. -/
def laidOver (given environment : Datum) : Datum :=
  match given, environment with
  | .dict mine, .dict theirs => .dict (mine ++ theirs)
  | _, _ => given

/-- Sections over others. -/
def merge (given others : List (String × Datum)) : List (String × Datum) :=
  let merged := given.map fun g =>
    match Sequence.Entries.get? others g.1 with
    | some theirs => (g.1, laidOver g.2 theirs)
    | none => g
  merged ++ others.filter fun e => !given.any fun g => g.1 = e.1

/-- Sections over nothing are the sections. -/
theorem merge_nil (given : List (String × Datum)) : merge given [] = given := by
  simp [merge, Sequence.Entries.get?]

/-- Settings that no configuration knows, in front of sections, which say what they are worth. -/
def behindStray (stray sections : List (String × Datum)) : List (String × Datum) :=
  let named := stray.map fun s => (s.1, (Sequence.Entries.get? sections s.1).getD s.2)
  named ++ sections.filter fun s => !stray.any fun t => t.1 = s.1

/-- The configuration of given sections, an environment and a disk, by the convention that is
given with the sections. -/
def make (env : Environment) (d : Disk) (given : List (String × Datum)) :
    Except Failure Configuration := do
  let (convention, given) ← Convention.usual.ofGiven given
  let fileVariables ← convention.fileVariables env d convention.files
  let environment ← env.sections convention
  let fromFiles ←
    Environment.sectionsOf .variableFile convention fileVariables sectionShapes
  let folders ← Convention.secretFolders d convention.folders
  let secrets ← convention.secretSections d folders sectionShapes
  let sections := merge (merge (merge (namedSections given) environment) fromFiles) secrets
  ofSections ((behindStray (convention.strayVariables fileVariables) sections).map fun e =>
    (Datum.text e.1, e.2))

/-- A field of a merged section is the given one, or else the environment's. -/
theorem entry?_over (name : String) (mine theirs : Fields) :
    Datum.entry? name (mine ++ theirs) =
      (Datum.entry? name mine).or (Datum.entry? name theirs) := by
  fun_induction Datum.entry? name mine with
  | case1 => rfl
  | case2 v es => simp [Datum.entry?]
  | case3 n v es h ih => simp [Datum.entry?, h, ih]
  | case4 es e h ih =>
    rw [List.cons_append, Datum.entry?, ih]
    · exact h

end Configuration

end ScriptHost
