import ScriptHost.Datum
import ScriptHost.Schema.Issue
import ScriptHost.Text.Case
import ScriptHost.Text.Utf8

/-!
# Reading fields from loose data

A model is read field by field, in the order of its definition, and reports the issues of all
of them.  `Checked.field` adds one more field to a reading under way: the issues of both are
kept, and there is a value only if there is none.

The readers of single values accept what stands for a value of the type: a byte string for a
text, a tuple or a set for a list, the usual words and the numbers one and zero for a truth
value.

## Main results

* `field_eq_ok_iff` — a model has a value exactly when every one of its fields has.
-/

namespace ScriptHost.Schema

/-- A value, or the issues that keep it from being read. -/
abbrev Checked (α : Type) := Except (List Issue) α

variable {α β : Type}

namespace Checked

/-- One more field for a model under way. -/
def field (model : Checked (α → β)) (value : Checked α) : Checked β :=
  match model, value with
  | .ok make, .ok a => .ok (make a)
  | .ok _, .error issues => .error issues
  | .error issues, .ok _ => .error issues
  | .error issues, .error more => .error (issues ++ more)

theorem field_eq_ok_iff {model : Checked (α → β)} {value : Checked α} {b : β} :
    model.field value = .ok b ↔ ∃ make a, model = .ok make ∧ value = .ok a ∧ make a = b := by
  cases model <;> cases value <;> simp [field]

/-- What is reported of a value that is complained about. -/
def givenOf (d : Datum) : Given :=
  match d.display with
  | .ok shown => ⟨shown, d.typeName⟩
  | .error _ => ⟨"<unprintable " ++ d.typeName ++ " object>", d.typeName⟩

/-- The reading of a value seen from the model that holds it. -/
def within (step : Step) (d : Datum) (value : Checked α) : Checked α :=
  value.mapError fun issues => issues.map (Issue.within step (givenOf d))

/-- A complaint about the value itself, which is named by the model that holds it. -/
def complain (complaint : Complaint) : Checked α := .error [⟨[], complaint, ⟨"", ""⟩⟩]

end Checked

/-! ## Single values -/

/-- A text, if every code in it is that of a character. -/
def whole (s : String) : Checked String :=
  if Text.isBroken s then .complain .textUnreadable else .ok s

/-- A text. -/
def text : Datum → Checked String
  | .text s => whole s
  | .bytes bs =>
    match Text.decodeUtf8 bs with
    | .ok s => whole s
    | .error _ => .complain .textUnreadable
  | _ => .complain .textExpected

/-- A text that may be left out by writing nothing. -/
def optionalText : Datum → Checked (Option String)
  | .null => .ok none
  | d => (text d).map some

/-- The items of a list, from an index on. -/
def itemsFrom (read : Datum → Checked α) : Nat → List Datum → Checked (List α)
  | _, [] => .ok []
  | index, d :: ds =>
    (Checked.field (.ok List.cons) (Checked.within (.item index) d (read d))).field
      (itemsFrom read (index + 1) ds)

/-- A list of texts. -/
def texts : Datum → Checked (List String)
  | .list items | .tuple items | .set items => itemsFrom text 0 items
  | _ => .complain .listExpected

/-- The words for true and for false, in lower case. -/
def truthWord? (s : String) : Option Bool :=
  let word := Text.lower s
  if ["1", "true", "t", "yes", "y", "on"].contains word then some true
  else if ["0", "false", "f", "no", "n", "off"].contains word then some false
  else none

/-- A truth value by its number, which is looked at only if 64 bits hold it. -/
def truthNumber (i : Int) : Checked Bool :=
  if i = 0 then .ok false
  else if i = 1 then .ok true
  else if -9223372036854775808 ≤ i ∧ i < 9223372036854775808 then .complain .truthUnreadable
  else .complain .truthExpected

/-- A truth value. -/
def truth : Datum → Checked Bool
  | .bool b => .ok b
  | .int i => truthNumber i
  | .real r =>
    match r.toInt? with
    | some i => truthNumber i
    | none => .complain .truthExpected
  | .text s =>
    match truthWord? s with
    | some b => .ok b
    | none => .complain (if Text.isBroken s then .textUnreadable else .truthUnreadable)
  | .bytes bs =>
    match (Text.decodeUtf8 bs).toOption.bind truthWord? with
    | some b => .ok b
    | none => .complain .truthUnreadable
  | _ => .complain .truthExpected

/-- A fault that may be left out by writing nothing. -/
def optionalFault : Datum → Checked (Option Fault)
  | .null => .ok none
  | .fault f => .ok (some f)
  | _ => .complain .faultExpected

/-! ## Fields -/

/-- The fields that a model is read from. -/
abbrev Fields := List (Datum × Datum)

/-- A field with a default. -/
def optional (name : String) (read : Datum → Checked α) (default : α) (fields : Fields) :
    Checked α :=
  match Datum.entry? name fields with
  | some d => Checked.within (.field name) d (read d)
  | none => .ok default

/-- A field without a default. -/
def required (name : String) (read : Datum → Checked α) (fields : Fields) : Checked α :=
  match Datum.entry? name fields with
  | some d => Checked.within (.field name) d (read d)
  | none => Checked.within (.field name) (.dict fields) (.complain .missing)

end ScriptHost.Schema
