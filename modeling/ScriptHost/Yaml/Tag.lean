import ScriptHost.Yaml.Cursor

/-!
# Tags of scalars

Every value of a YAML text has a tag that says of which type it is.  A plain scalar without a
tag gets one by its form: some words are truth values, some rows of digits are numbers or dates,
nothing and a tilde are null, and everything else is a text.

The forms are those of version 1.1 of the language, in which `yes` and `off` are truth values,
`017` is an octal number, and `1:30` counts in sixties.
-/

namespace ScriptHost.Yaml

/-- The type of a value. -/
inductive Tag where
  | null
  | bool
  | int
  | float
  | text
  | binary
  | moment
  /-- The key that brings in the entries of other mappings. -/
  | merge
  /-- The key of the value that stands for its whole mapping. -/
  | value
  | sequence
  | mapping
  | set
  | orderedMapping
  | pairs
  | other (name : String)
  deriving DecidableEq, Repr, Inhabited

namespace Tag

/-- What the names of the common tags begin with. -/
def common : String := "tag:yaml.org,2002:"

/-- The common tags by the ends of their names. -/
def byName : List (String × Tag) := [
  ("null", null), ("bool", bool), ("int", int), ("float", float), ("str", text),
  ("binary", binary), ("timestamp", moment), ("merge", merge), ("value", value),
  ("seq", sequence), ("map", mapping), ("set", set), ("omap", orderedMapping), ("pairs", pairs)]

/-- The tag of a name. -/
def ofName (name : String) : Tag :=
  match byName.find? fun t => common ++ t.1 = name with
  | some t => t.2
  | none => other name

/-! ## Forms of plain scalars -/

/-- The text behind a sign, if there is one. -/
def unsigned (cs : List Char) : List Char :=
  match cs with
  | '-' :: rest | '+' :: rest => rest
  | _ => cs

/-- Whether a character is a digit below a base, or an underscore. -/
def isDigitIn (base : Nat) (c : Char) : Bool :=
  c == '_' || (if base ≤ 10 then c.isDigit && c.toNat < 0x30 + base
    else c.isDigit || ('a' ≤ c && c ≤ 'f') || ('A' ≤ c && c ≤ 'F'))

/-- Whether a text is not empty and of one class throughout. -/
def isAll (p : Char → Bool) (cs : List Char) : Bool := !cs.isEmpty && cs.all p

/-- Whether a text is a row of digits in sixties, each behind a colon, up to its end. -/
def isSixties : List Char → Bool
  | [':', a] => a.isDigit
  | [':', a, b] => '0' ≤ a && a ≤ '5' && b.isDigit
  | ':' :: a :: b :: ':' :: rest =>
    '0' ≤ a && a ≤ '5' && b.isDigit && isSixties (':' :: rest)
  | ':' :: a :: ':' :: rest => a.isDigit && isSixties (':' :: rest)
  | _ => false

/-- Whether a text is an integer without its sign. -/
def isWhole (cs : List Char) : Bool :=
  match cs with
  | ['0'] => true
  | '0' :: 'b' :: ds => isAll (isDigitIn 2) ds
  | '0' :: 'x' :: ds => isAll (isDigitIn 16) ds
  | '0' :: ds => isAll (isDigitIn 8) ds
  | d :: _ =>
    d.isDigit &&
      (let rest := cs.dropWhile (isDigitIn 10)
       rest.isEmpty || isSixties rest)
  | [] => false

/-- Whether a text is nothing, or an exponent with its sign. -/
def isExponent (cs : List Char) : Bool :=
  match cs with
  | [] => true
  | e :: s :: ds => (e == 'e' || e == 'E') && (s == '-' || s == '+') && isAll Char.isDigit ds
  | _ => false

/-- Whether a text is a number with a point. -/
def isPointed (signed : List Char) : Bool :=
  let cs := unsigned signed
  let behindPoint (rest : List Char) : Bool :=
    isExponent (rest.dropWhile (isDigitIn 10))
  match cs with
  | d :: _ =>
    if d.isDigit then
      let rest := cs.dropWhile (isDigitIn 10)
      match rest with
      | '.' :: fraction => behindPoint fraction
      | ':' :: _ =>
        let sixties := rest.takeWhile (· != '.')
        isSixties sixties && match rest.drop sixties.length with
          | '.' :: fraction => fraction.all (isDigitIn 10)
          | _ => false
      | _ => false
    else if signed.head? == some '.' then
      match cs.drop 1 with
      | first :: _ => first.isDigit && behindPoint (cs.drop 1)
      | [] => false
    else false
  | [] => false

/-- The words for infinity and for what is no number, behind the sign. -/
def isFloatWord (cs : List Char) : Bool :=
  let word := String.ofList cs
  ["inf", "Inf", "INF"].any (fun w => "." ++ w == String.ofList (unsigned cs)) ||
    ["nan", "NaN", "NAN"].any fun w => "." ++ w == word

/-- Whether two characters are digits. -/
def areDigits (a b : Char) : Bool := a.isDigit && b.isDigit

/-- The text behind one or two digits. -/
def behindShort? : List Char → Option (List Char)
  | a :: b :: rest =>
    if areDigits a b then some rest else if a.isDigit then some (b :: rest) else none
  | [a] => if a.isDigit then some [] else none
  | [] => none

/-- The text behind a hyphen and one or two digits. -/
def behindPart? : List Char → Option (List Char)
  | '-' :: rest => behindShort? rest
  | _ => none

/-- Whether a text is nothing, or a time zone. -/
def isZone (cs : List Char) : Bool :=
  match cs.dropWhile fun c => c == ' ' || c == '\t' with
  | [] => cs.isEmpty
  | ['Z'] => true
  | s :: rest =>
    (s == '-' || s == '+') && match behindShort? rest with
      | some [] => true
      | some [':', a, b] => areDigits a b
      | _ => false

/-- Whether a text is a time of day, behind the date. -/
def isTime (cs : List Char) : Bool :=
  let hour : List Char := match cs with
    | c :: rest =>
      if c == 'T' || c == 't' then rest
      else if c == ' ' || c == '\t' then rest.dropWhile fun c => c == ' ' || c == '\t'
      else []
    | [] => []
  match behindShort? hour with
  | some (':' :: a :: b :: ':' :: c :: d :: rest) =>
    areDigits a b && areDigits c d && match rest with
      | '.' :: fraction => isZone (fraction.dropWhile Char.isDigit)
      | _ => isZone rest
  | _ => false

/-- Whether a text is a date, or a date with a time.  A date alone has two digits for the month
and for the day, unless `isLoose`. -/
def isMoment (isLoose : Bool) : List Char → Bool
  | a :: b :: c :: d :: rest =>
    areDigits a b && areDigits c d &&
      match (behindPart? rest).bind behindPart? with
      | some [] => isLoose || rest.length == 6
      | some time => isTime time
      | none => false
  | _ => false

/-- The words for true and false. -/
def boolWords : List (String × Bool) := [
  ("yes", true), ("Yes", true), ("YES", true), ("no", false), ("No", false), ("NO", false),
  ("true", true), ("True", true), ("TRUE", true), ("false", false), ("False", false),
  ("FALSE", false), ("on", true), ("On", true), ("ON", true), ("off", false), ("Off", false),
  ("OFF", false)]

/-- The words for null. -/
def nullWords : List String := ["", "~", "null", "Null", "NULL"]

/-- A text without the line feed at its end, if there is one and something stands before it. -/
def unended (cs : List Char) : List Char :=
  match cs.reverse with
  | '\n' :: c :: before => (c :: before).reverse
  | _ => cs

/-- The tag of a plain scalar.  A line feed at its end, which only a scalar with marks around it
can have, is passed over. -/
def ofPlain (s : String) : Tag :=
  let cs := unended s.toList
  let word := String.ofList cs
  if (boolWords.lookup word).isSome then bool
  else if isPointed cs || isFloatWord cs then float
  else if isWhole (unsigned cs) then int
  else if word = "<<" then merge
  else if nullWords.contains word then null
  else if isMoment false cs then moment
  else if word = "=" then value
  else if ["!", "&", "*"].contains word then other (common ++ "yaml")
  else text

/-- Whether values of a tag hold others. -/
def isCollection (tag : Tag) : Bool :=
  [sequence, mapping, set, orderedMapping, pairs].contains tag

/-- Nothing is null. -/
example : ofPlain "" = null := by decide +kernel

end Tag

end ScriptHost.Yaml
