import ScriptHost.Fault
import ScriptHost.Json.Value
import ScriptHost.Number.Numeral
import ScriptHost.Sequence.Distinct

/-!
# Loose data

Values whose shape nobody has checked yet: the fields of a settings document, what a script
returned, what a pack left in the shared state.  Every JSON value is one of them; documents add
byte strings, tuples, sets, dates and mappings whose keys are not texts.

`Datum.display` is how a value shows itself to a person, unless it holds an integer with too many
digits to be written, and `Datum.key?` is what decides whether two values count as the same item.
-/

namespace ScriptHost

open Number (Binary64)

/-- A value of any shape. -/
inductive Datum where
  | null
  | bool (value : Bool)
  | int (value : Int)
  | real (value : Binary64)
  | text (value : String)
  | bytes (value : List UInt8)
  | list (items : List Datum)
  | tuple (items : List Datum)
  | set (items : List Datum)
  | dict (entries : List (Datum × Datum))
  /-- A date or a moment, by its display. -/
  | moment (shown : String)
  | fault (value : Fault)
  deriving Repr, Inhabited

namespace Datum

mutual

/-- A JSON value as loose data. -/
def ofJson : Json → Datum
  | .null => null
  | .bool b => bool b
  | .int i => int i
  | .real r => real r
  | .text s => text s
  | .arr items => list (ofJsons items)
  | .obj members => dict (ofMembers members)

/-- The items of an array as loose data. -/
def ofJsons : List Json → List Datum
  | [] => []
  | j :: js => ofJson j :: ofJsons js

/-- The members of an object as entries. -/
def ofMembers : List (String × Json) → List (Datum × Datum)
  | [] => []
  | (name, j) :: ms => (text name, ofJson j) :: ofMembers ms

end

/-- Texts as a list. -/
def texts (items : List String) : Datum := list (items.map text)

/-- A mapping from names. -/
def fields (entries : List (String × Datum)) : Datum :=
  dict (entries.map fun e => (text e.1, e.2))

/-- The text of a value that is one. -/
def text? : Datum → Option String
  | text s => some s
  | _ => none

/-- The value under a text key. -/
def entry? (name : String) : List (Datum × Datum) → Option Datum
  | [] => none
  | (text n, v) :: es => if n = name then some v else entry? name es
  | _ :: es => entry? name es

/-- Whether a value counts as something: nothing, false, zero and what is empty do not. -/
def isTruthy : Datum → Bool
  | null => false
  | bool b => b
  | int i => i != 0
  | real r => !r.isZero
  | text s => !s.isEmpty
  | bytes bs => !bs.isEmpty
  | list xs | tuple xs | set xs => !xs.isEmpty
  | dict es => !es.isEmpty
  | moment _ => true
  | fault _ => true

/-- The number of characters, items or entries of a value that has some. -/
def length? : Datum → Option Nat
  | text s => some s.length
  | bytes bs => some bs.length
  | list xs | tuple xs | set xs => some xs.length
  | dict es => some es.length
  | null | bool _ | int _ | real _ | moment _ | fault _ => none

mutual

/-- Loose data as JSON; a value that JSON does not know is shown as a text. -/
def toJson : Datum → Json
  | null => .null
  | bool b => .bool b
  | int i => .int i
  | real r => .real r
  | text s => .text s
  | bytes bs => .text (String.ofList (bs.map fun b => Char.ofNat b.toNat))
  | list items | tuple items | set items => .arr (toJsons items)
  | dict entries => .obj (toMembers entries)
  | moment shown => .text shown
  | fault f => .text f.message

/-- Items as JSON. -/
def toJsons : List Datum → List Json
  | [] => []
  | d :: ds => toJson d :: toJsons ds

/-- The entries under text keys as members. -/
def toMembers : List (Datum × Datum) → List (String × Json)
  | [] => []
  | (text name, d) :: es => (name, toJson d) :: toMembers es
  | _ :: es => toMembers es

end

/-- A text that may be absent. -/
def ofOption : Option String → Datum
  | some s => text s
  | none => null

/-! ## Display -/

/-- One byte inside a byte literal. -/
def byteChars (quote : Char) (b : UInt8) : List Char :=
  let c := Char.ofNat b.toNat
  if c = quote ∨ c = '\\' then ['\\', c]
  else if c = '\t' then ['\\', 't']
  else if c = '\n' then ['\\', 'n']
  else if c = '\r' then ['\\', 'r']
  else if 0x20 ≤ b.toNat ∧ b.toNat < 0x7f then [c]
  else '\\' :: 'x' :: Text.hexDigits 2 b.toNat

/-- A byte string as a literal. -/
def byteLiteral (bs : List UInt8) : String :=
  let quote := Text.literalQuote (bs.map fun b => Char.ofNat b.toNat)
  String.ofList ('b' :: quote :: bs.flatMap (byteChars quote) ++ [quote])

mutual

/-- How a value shows itself, if every integer in it can be written. -/
def display : Datum → Except Fault String
  | null => .ok "None"
  | bool true => .ok "True"
  | bool false => .ok "False"
  | int i => Number.written i
  | real r => .ok r.text
  | text s => .ok (Text.literal s)
  | bytes bs => .ok (byteLiteral bs)
  | list items => (displayItems items).map fun s => "[" ++ s ++ "]"
  | tuple [item] => (display item).map fun s => "(" ++ s ++ ",)"
  | tuple items => (displayItems items).map fun s => "(" ++ s ++ ")"
  | set [] => .ok "set()"
  | set items => (displayItems items).map fun s => "\x7b" ++ s ++ "\x7d"
  | dict entries => (displayEntries entries).map fun s => "\x7b" ++ s ++ "\x7d"
  | moment shown => .ok shown
  | fault f => .ok (f.kind ++ "(" ++ Text.literal f.text ++ ")")

/-- The displays of items, separated by commas. -/
def displayItems : List Datum → Except Fault String
  | [] => .ok ""
  | [x] => display x
  | x :: xs => do return (← display x) ++ ", " ++ (← displayItems xs)

/-- The displays of entries, separated by commas. -/
def displayEntries : List (Datum × Datum) → Except Fault String
  | [] => .ok ""
  | [(k, v)] => do return (← display k) ++ ": " ++ (← display v)
  | (k, v) :: es => do
    return (← display k) ++ ": " ++ (← display v) ++ ", " ++ (← displayEntries es)

end

/-- The name of the type of a value. -/
def typeName : Datum → String
  | null => "NoneType"
  | bool _ => "bool"
  | int _ => "int"
  | real _ => "float"
  | text _ => "str"
  | bytes _ => "bytes"
  | list _ => "list"
  | tuple _ => "tuple"
  | set _ => "set"
  | dict _ => "dict"
  | moment shown => if "datetime.date(".toList.isPrefixOf shown.toList then "date" else "datetime"
  | fault f => f.kind

/-- The plain text of a value: a text as it is, the message of a fault, and anything else as it
shows itself. -/
def plain : Datum → Except Fault String
  | text s => .ok s
  | fault f => .ok f.message
  | d => d.display

/-! ## Sameness -/

/-- What decides whether two values are the same item: numbers count by their value, whatever
they are written as, and tuples by their items, as pairs of the first item and the others. -/
inductive Key where
  | null
  | int (value : Int)
  | real (value : Binary64)
  | text (value : String)
  | bytes (value : List UInt8)
  | moment (shown : String)
  | fault (value : Fault)
  | noItems
  | items (first others : Key)
  deriving Repr, DecidableEq

mutual

/-- The key of a value, or the type of the first part of it that has none: a list, a set or a
mapping. -/
def key : Datum → Except String Key
  | null => .ok .null
  | bool b => .ok (.int (if b then 1 else 0))
  | int i => .ok (.int i)
  | real r => .ok (match r.toInt? with | some i => .int i | none => .real r)
  | text s => .ok (.text s)
  | bytes bs => .ok (.bytes bs)
  | moment shown => .ok (.moment shown)
  | fault f => .ok (.fault f)
  | tuple items => itemsKey items
  | list _ => .error "list"
  | set _ => .error "set"
  | dict _ => .error "dict"

/-- The key of the items of a tuple. -/
def itemsKey : List Datum → Except String Key
  | [] => .ok .noItems
  | d :: ds => do return .items (← key d) (← itemsKey ds)

end

/-- The key of a value that has one. -/
def key? (d : Datum) : Option Key := d.key.toOption

/-- The values whose key does not occur earlier; nothing if one of them has no key. -/
def distinctBy? (key : Datum → Option Key) (items : List Datum) : Option (List Datum) :=
  (items.mapM fun d => (key d).map fun k => (k, d)).map fun keyed =>
    (Sequence.distinctBy Prod.fst keyed).map Prod.snd

end Datum

end ScriptHost
