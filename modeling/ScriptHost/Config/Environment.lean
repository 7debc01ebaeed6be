import ScriptHost.Config.Convention
import ScriptHost.Json.Parser

/-!
# Settings in the environment

A variable sets a section or one of its fields, under the name that a convention gives it.  A
section is a JSON object, and a field that holds a list is a JSON array.  A field set by its own
variable wins over the same field of the section's object, unless the object writes its name in
another case.
-/

namespace ScriptHost

open Sequence (Entries)

/-- Environment variables, in order. -/
abbrev Environment := List (String × String)

namespace Environment

/-- The names of all settings as they are usually written: in capitals. -/
def usualNames : List String :=
  let k := Convention.usual
  sectionShapes.flatMap fun shape =>
    let name := k.mark ++ shape.name
    (name :: shape.fields.map fun f => name ++ k.delimiter.getD "" ++ f.1).map String.toUpper

/-- Variables by the names under which they are looked up; of two that become one, the later
counts. -/
def named (k : Convention) (vars : List (String × Option String)) : Entries (Option String) :=
  Entries.ofList <| (vars.filter fun v => !(k.skipsEmpty && v.2 == some "")).map fun v =>
    (k.fold v.1, v.2)

/-- The text behind a beginning. -/
def behind? (beginning name : String) : Option String :=
  if beginning.toList.isPrefixOf name.toList then
    some (String.ofList (name.toList.drop beginning.toList.length))
  else none

/-- Whether the field of a name holds a list. -/
def isListField (k : Convention) (shape : SectionShape) (name : String) : Bool :=
  shape.fields.any fun f => f.2 && (f.1 = name || k.nameOf f.1 = name)

/-- The value of a field: JSON if the field holds a list and the text is not empty. -/
def leafValue (k : Convention) (isList : Bool) : Option String → Option Datum
  | none => some .null
  | some text =>
    if isList && !text.isEmpty then (Json.parse? text).map Datum.ofJson
    else some (if k.absent = some text then .null else .text text)

/-- A value below further names. -/
def nestedValue (value : Datum) : List String → Datum
  | [] => value
  | name :: names => .fields [(name, nestedValue value names)]

/-- Whether an entry may be written: neither nothing nor something below further names replaces
a value. -/
def writable (entries : Entries Datum) (field : String) (value : Datum) : Bool :=
  match value, entries.get? field with
  | _, none => true
  | .null, some (.dict inner) => inner.isEmpty
  | .null, some _ => false
  | .dict _, some (.dict _) => true
  | .dict _, some _ => false
  | _, some _ => true

/-- The fields of a section that have variables of their own; nothing if one of them cannot be
decoded. -/
def ownFields (k : Convention) (delimiter : String) (shape : SectionShape)
    (vars : Entries (Option String)) (set : Entries Datum) : Option (Entries Datum) :=
  match vars with
  | [] => some set
  | (name, text) :: rest =>
    match behind? (k.nameOf shape.name ++ delimiter) name with
    | none => ownFields k delimiter shape rest set
    | some name =>
      match Convention.splitAtMost delimiter k.cuts name with
      | [] => ownFields k delimiter shape rest set
      | field :: names =>
        match leafValue k (names.isEmpty && isListField k shape field) text with
        | none => none
        | some value =>
          let value := nestedValue value names
          ownFields k delimiter shape rest
            (if names.isEmpty && !isNothing value text || writable set field value then
              set.put field value else set)
where
  /-- Whether a text stands for nothing. -/
  isNothing (value : Datum) (text : Option String) : Bool :=
    match value with
    | .null => text.isSome
    | _ => false

/-- Members of a section's object by the names of the fields, in whatever case they are written
unless the convention heeds it. -/
def namedFields (k : Convention) (shape : SectionShape) (members : Entries Datum) :
    Entries Datum :=
  if k.heedsCase then members
  else
    Entries.ofList <| members.map fun m =>
      let name := (shape.fields.find? fun f => f.1 = Text.lower m.1).map Prod.fst
      (name.getD m.1, m.2)

/-- What variables set in a section, if anything. -/
def sectionValue (source : SettingSource) (k : Convention) (vars : Entries (Option String))
    (shape : SectionShape) : Except Failure (Option Datum) :=
  let own := match k.delimiter with
    | some delimiter => ownFields k delimiter shape vars []
    | none => some []
  match (vars.get? (k.nameOf shape.name)).join with
  | none =>
    match own with
    | none => .error (.undecodableSetting source shape.name)
    | some [] => .ok none
    | some fields => .ok (some (.fields (namedFields k shape fields)))
  | some text =>
    if k.absent = some text then .ok (some .null)
    else
      match Json.parse? text with
      | none => .error (.undecodableSetting source shape.name)
      | some .null => .ok none
      | some (.obj members) =>
        match own with
        | none => .error (.undecodableSetting source shape.name)
        | some fields =>
          let members := members.map fun m => (m.1, Datum.ofJson m.2)
          .ok (some (.fields (namedFields k shape (Entries.putAll members fields))))
      | some j => .ok (some (Datum.ofJson j))

/-- What variables set, section by section. -/
def sectionsOf (source : SettingSource) (k : Convention) (vars : Entries (Option String)) :
    List SectionShape → Except Failure (List (String × Datum))
  | [] => .ok []
  | shape :: shapes =>
    match sectionValue source k vars shape with
    | .error f => .error f
    | .ok value =>
      match sectionsOf source k vars shapes with
      | .error f => .error f
      | .ok rest =>
        match value with
        | none => .ok rest
        | some d => .ok ((shape.name, d) :: rest)

/-- What the environment sets. -/
def sections (k : Convention) (env : Environment) : Except Failure (List (String × Datum)) :=
  sectionsOf .environment k (named k (env.map fun v => (v.1, some v.2))) sectionShapes

end Environment

end ScriptHost
