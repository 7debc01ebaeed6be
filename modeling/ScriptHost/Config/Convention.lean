import ScriptHost.Config.Basic
import ScriptHost.Failure
import ScriptHost.Sequence.Entries

/-!
# How settings are named in the environment

By convention the variable of a setting begins with `SCRIPTCORE_`, in any case, and two
underscores stand between the name of a section and the name of its field.  Whoever makes a
configuration may ask for another convention, in directives beside the sections: names that
begin with an underscore.  Two of them name further sources of settings, files of variables and
folders of secrets; those about anything else are accepted, and change nothing here.
-/

namespace ScriptHost

/-- How the variables of settings are read. -/
structure Convention where
  /-- What their names begin with. -/
  mark : String
  /-- What stands between names within a name; if nothing does, fields have no variables. -/
  delimiter : Option String
  /-- The most places at which a name is cut. -/
  cuts : Option Nat
  heedsCase : Bool
  skipsEmpty : Bool
  /-- The text that stands for nothing. -/
  absent : Option String
  /-- The files of variables, of which the last counts most. -/
  files : List String
  /-- The folders of secrets, of which the last counts most. -/
  folders : List String
  deriving DecidableEq, Repr

namespace Convention

/-- The usual convention. -/
def usual : Convention := ⟨"SCRIPTCORE_", some "__", none, false, false, none, [], []⟩

/-- A name as it is looked up. -/
def fold (k : Convention) (name : String) : String :=
  if k.heedsCase then name else Text.lower name

/-- The name of a section's variable. -/
def nameOf (k : Convention) (section_ : String) : String := k.fold (k.mark ++ section_)

/-- A text cut at every delimiter, but at most at a number of them; the next few characters have
been read already, and the characters of the piece under way are given newest first. -/
def splitFrom (delimiter : List Char) (piece : List Char) :
    Option Nat → Nat → List Char → List (List Char)
  | _, _, [] => [piece.reverse]
  | cuts, skip + 1, _ :: cs => splitFrom delimiter piece cuts skip cs
  | cuts, 0, c :: cs =>
    if cuts != some 0 && delimiter.isPrefixOf (c :: cs) then
      piece.reverse :: splitFrom delimiter [] (cuts.map (· - 1)) (delimiter.length - 1) cs
    else splitFrom delimiter (c :: piece) cuts 0 cs

/-- A text cut at a delimiter. -/
def splitAtMost (delimiter : String) (cuts : Option Nat) (s : String) : List String :=
  (splitFrom delimiter.toList [] cuts 0 s.toList).map String.ofList

/-! ## Directives -/

/-- The directives that change nothing about the environment. -/
def otherDirectives : List String := [
  "_nested_model_default_partial_update", "_env_prefix_target", "_env_file_encoding",
  "_env_parse_enums", "_cli_prog_name", "_cli_parse_args", "_cli_settings_source",
  "_cli_parse_none_str", "_cli_hide_none_type", "_cli_avoid_json", "_cli_enforce_required",
  "_cli_use_class_docs_for_groups", "_cli_exit_on_error", "_cli_prefix", "_cli_flag_prefix_char",
  "_cli_implicit_flags", "_cli_ignore_unknown_args", "_cli_kebab_case", "_cli_shortcuts",
  "_build_sources"]

/-- The failure of a beginning that is no text: what has no length is refused at once, anything
else when the first section is looked up. -/
def badMark : Datum → Failure
  | .bool _ | .int _ | .real _ | .moment _ | .fault _ => .wrongType "the value has no length"
  | _ => .unusableSetting .environment folderShape.name

/-- The most cuts of a directive that counts the names in a name. -/
def cutsOf : Datum → Except Failure (Option Nat)
  | .int i => .ok (if i ≤ 0 then none else some (i.toNat - 1))
  | .bool b => .ok (if b then some 0 else none)
  | d => if d.isTruthy then .error (.wrongType "the value is no number") else .ok none

/-- The paths of a directive that names one or several. -/
def pathsOf (d : Datum) : Except Failure (List String) :=
  let texts (items : List Datum) : Except Failure (List String) :=
    match items.mapM Datum.text? with
    | some paths => .ok paths
    | none => .error (.wrongType "expected str, bytes or os.PathLike object")
  match d with
  | .null => .ok []
  | .text s => .ok [s]
  | .list items | .tuple items | .set items => texts items
  | .dict entries => texts (entries.map Prod.fst)
  | _ => .error (.wrongType "the value is no path and names none")

/-- A convention after a directive, if it is one. -/
def obey (k : Convention) (name : String) (value : Datum) : Option (Except Failure Convention) :=
  match name, value with
  | "_env_prefix", .text s => some (.ok { k with mark := s })
  | "_env_prefix", .null => some (.ok k)
  | "_env_prefix", d => some (.error (badMark d))
  | "_env_nested_delimiter", .null => some (.ok k)
  | "_env_nested_delimiter", d =>
    let text := d.text?.filter fun s => !s.isEmpty
    some (.ok { k with delimiter := text })
  | "_env_nested_max_split", d => some ((cutsOf d).map fun cuts => { k with cuts := cuts })
  | "_case_sensitive", d => some (.ok { k with heedsCase := d.isTruthy })
  | "_env_ignore_empty", d => some (.ok { k with skipsEmpty := d.isTruthy })
  | "_env_parse_none_str", d => some (.ok { k with absent := d.text? })
  | "_env_file", d => some ((pathsOf d).map fun paths => { k with files := paths })
  | "_secrets_dir", d => some ((pathsOf d).map fun paths => { k with folders := paths })
  | "__pydantic_self__", _ => some (.error (.wrongType "the configuration is given twice"))
  | name, _ => if otherDirectives.contains name then some (.ok k) else none

/-- The convention that the given values ask for, and those of them that are no directives. -/
def ofGiven (k : Convention) :
    List (String × Datum) → Except Failure (Convention × List (String × Datum))
  | [] => .ok (k, [])
  | (name, value) :: rest =>
    match k.obey name value with
    | some (.ok k) => ofGiven k rest
    | some (.error f) => .error f
    | none => (ofGiven k rest).map fun (k, sections) => (k, (name, value) :: sections)

end Convention

end ScriptHost
