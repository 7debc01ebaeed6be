import ScriptHost.Number.Binary64
import ScriptHost.Sequence.Entries

/-!
# JSON values

Settings in the environment and log lines are JSON.  A number without a fraction and without
an exponent is an integer of any size, every other number a double-precision number; objects
keep the order of their members.
-/

namespace ScriptHost

/-- A JSON value. -/
inductive Json where
  | null
  | bool (value : Bool)
  | int (value : Int)
  | real (value : Number.Binary64)
  | text (value : String)
  | arr (items : List Json)
  | obj (members : List (String × Json))
  deriving Repr, Inhabited

namespace Json

/-- The text of a value that is one. -/
def text? : Json → Option String
  | text s => some s
  | _ => none

/-- The items of an array; anything else has none. -/
def items : Json → List Json
  | arr items => items
  | _ => []

/-- The members of an object; anything else has none. -/
def members : Json → List (String × Json)
  | obj members => members
  | _ => []

/-- The member of an object with a name. -/
def member? (j : Json) (name : String) : Option Json := Sequence.Entries.get? j.members name

/-- The member of an object with a name, or null. -/
def member (j : Json) (name : String) : Json := (j.member? name).getD null

/-- An array of texts. -/
def texts (items : List String) : Json := arr (items.map text)

mutual

/-- Whether a value and all its parts pass a check. -/
def every (check : Json → Bool) : Json → Bool
  | arr items => check (arr items) && everyItem check items
  | obj members => check (obj members) && everyMember check members
  | j => check j

/-- Whether items and all their parts pass a check. -/
def everyItem (check : Json → Bool) : List Json → Bool
  | [] => true
  | j :: js => every check j && everyItem check js

/-- Whether the values of members and all their parts pass a check. -/
def everyMember (check : Json → Bool) : List (String × Json) → Bool
  | [] => true
  | (_, j) :: ms => every check j && everyMember check ms

end

end Json

end ScriptHost
