import ScriptHost.Number.Digits

/-!
# What is wrong with a field

A model that is read from loose data reports every field that it cannot accept: where the field
is and what is wrong with it.  The word of an issue names its class, its message tells a person
what was expected.
-/

namespace ScriptHost.Schema

/-- One step on the way to a field. -/
inductive Step where
  | field (name : String)
  | item (index : Nat)
  deriving DecidableEq, Repr

/-- What is wrong with a date. -/
inductive DateFault where
  | tooShort
  | year
  | month
  | day
  /-- The parts are not separated by dashes. -/
  | separator
  | monthRange
  | dayRange
  /-- Something stands behind the date that is no time of day. -/
  | trailing
  | tooEarly
  | tooLate
  /-- The year before the first one, which may be written but names no moment. -/
  | yearZero
  | notANumber
  deriving DecidableEq, Repr

/-- What is wrong with a field. -/
inductive Complaint where
  /-- The field is required and not there. -/
  | missing
  | textExpected
  /-- The value is a byte string that is no text, or a text that holds what is no character. -/
  | textUnreadable
  | listExpected
  /-- The value is of a type that is never a truth value. -/
  | truthExpected
  /-- The value is of a type that may spell a truth value, but does not. -/
  | truthUnreadable
  | levelUnknown
  | folderBlank
  /-- The value is no mapping that the named section could be read from. -/
  | sectionExpected (model : String)
  | unknownField
  | faultExpected
  | momentExpected
  | dateUnreadable (fault : DateFault)
  /-- There is no such moment. -/
  | momentOutside (fault : DateFault)
  deriving DecidableEq, Repr

/-- A value that is complained about: how it shows itself, and the name of its type. -/
structure Given where
  shown : String
  type : String
  deriving DecidableEq, Repr

/-- A complaint, the field it is about, and what was given there. -/
structure Issue where
  path : List Step
  complaint : Complaint
  given : Given
  deriving DecidableEq, Repr

/-- What is wrong with a date, for a person. -/
def DateFault.reason : DateFault → String
  | tooShort => "input is too short"
  | year => "invalid character in year"
  | month => "invalid character in month"
  | day => "invalid character in day"
  | separator => "invalid date separator, expected \x60-\x60"
  | monthRange => "month value is outside expected range of 1-12"
  | dayRange => "day value is outside expected range"
  | trailing => "unexpected extra characters at the end of the input"
  | tooEarly => "dates before 0000 are not supported as unix timestamps"
  | tooLate => "dates after 9999 are not supported as unix timestamps"
  | yearZero => "year 0 is out of range"
  | notANumber => "NaN values not permitted"

namespace Complaint

/-- The word that names the class of a complaint. -/
def word : Complaint → String
  | missing => "missing"
  | textExpected => "string_type"
  | textUnreadable => "string_unicode"
  | listExpected => "list_type"
  | truthExpected => "bool_type"
  | truthUnreadable => "bool_parsing"
  | levelUnknown => "literal_error"
  | folderBlank => "value_error"
  | sectionExpected _ => "model_type"
  | unknownField => "extra_forbidden"
  | faultExpected => "is_instance_of"
  | momentExpected => "datetime_type"
  | dateUnreadable _ => "datetime_from_date_parsing"
  | momentOutside _ => "datetime_parsing"

/-- What a complaint tells a person. -/
def message : Complaint → String
  | missing => "Field required"
  | textExpected => "Input should be a valid string"
  | textUnreadable =>
    "Input should be a valid string, unable to parse raw data as a unicode string"
  | listExpected => "Input should be a valid list"
  | truthExpected => "Input should be a valid boolean"
  | truthUnreadable => "Input should be a valid boolean, unable to interpret input"
  | levelUnknown => "Input should be 'DEBUG', 'INFO', 'WARNING' or 'ERROR'"
  | folderBlank => "Value error, Folder name must not be empty"
  | sectionExpected model => "Input should be a valid dictionary or instance of " ++ model
  | unknownField => "Extra inputs are not permitted"
  | faultExpected => "Input should be an instance of BaseException"
  | momentExpected => "Input should be a valid datetime"
  | dateUnreadable fault => "Input should be a valid datetime or date, " ++ fault.reason
  | momentOutside fault => "Input should be a valid datetime, " ++ fault.reason

end Complaint

/-! ## Reports -/

/-- As many characters as some bytes hold. -/
def withinBytes (room : Nat) : List Char → List Char
  | [] => []
  | c :: cs => if c.utf8Size ≤ room then c :: withinBytes (room - c.utf8Size) cs else []

/-- A text of more than fifty bytes with its middle left out. -/
def excerpt (s : String) : String :=
  if s.utf8ByteSize ≤ 50 then s
  else
    String.ofList (withinBytes 25 s.toList ++ ['.', '.', '.'] ++
      (withinBytes 24 s.toList.reverse).reverse)

namespace Issue

/-- The same issue seen from the model that holds the field's owner; an issue that has no place
yet is about the value that is given at the step. -/
def within (step : Step) (given : Given) (issue : Issue) : Issue :=
  { issue with
    path := step :: issue.path
    given := if issue.path.isEmpty then given else issue.given }

/-- The way to the field, its steps separated by points; a name with a point is marked. -/
def location (issue : Issue) : String :=
  ".".intercalate <| issue.path.map fun
    | .field name => if name.toList.contains '.' then "\x60" ++ name ++ "\x60" else name
    | .item index => Number.natText index

/-- What an issue tells a person, with the class of the complaint and what was given. -/
def text (issue : Issue) : String :=
  "  " ++ issue.complaint.message ++ " [type=" ++ issue.complaint.word ++ ", input_value=" ++
    excerpt issue.given.shown ++ ", input_type=" ++ issue.given.type ++ "]"

end Issue

/-- The heading of a report on a number of issues in a model. -/
def heading (model : String) (count : Nat) : String :=
  Number.natText count ++
    (if count = 1 then " validation error for " else " validation errors for ") ++ model

/-- A report on the issues of a model: a heading, then for every issue its place and its text. -/
def report (model : String) (issues : List Issue) : String :=
  "\n".intercalate <| heading model issues.length ::
    issues.flatMap fun issue => [issue.location, issue.text]

end ScriptHost.Schema
