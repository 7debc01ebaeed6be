/-!
# Arguments of a command

How the words of a command line are told apart.  A word that begins with a hyphen gives options:
one by its long name, with a value behind an equals sign or in the next word, or several by
single letters, the last of which may be followed by its value.  A single hyphen is an operand,
and behind two hyphens everything is.

A command either takes options anywhere, or only before its first operand.
-/

namespace ScriptHost.Command

/-- An option that a command takes. -/
structure Choice (κ : Type) where
  key : κ
  letter : Option Char
  /-- The long name, with its hyphens. -/
  name : String
  takesValue : Bool

/-- An option that was given, and its value if it takes one. -/
structure Given (κ : Type) where
  key : κ
  value : Option String
  deriving DecidableEq, Repr

/-- The options and the operands of a command, in order. -/
structure Arguments (κ : Type) where
  given : List (Given κ)
  operands : List String
  deriving DecidableEq, Repr

variable {κ : Type}

/-- The options in one word, and the one that takes the next word as its value, if there is
one. -/
abbrev Word (κ : Type) := List (Given κ) × Option κ

/-- Whether a word gives options. -/
def givesOptions (word : String) : Bool :=
  match word.toList with
  | '-' :: _ :: _ => true
  | _ => false

/-- The options that letters give. -/
def readLetters (choices : List (Choice κ)) : List Char → Option (Word κ)
  | [] => some ([], none)
  | c :: cs =>
    match choices.find? fun choice => choice.letter == some c with
    | none => none
    | some choice =>
      if !choice.takesValue then
        (readLetters choices cs).map fun (given, waiting) => (⟨choice.key, none⟩ :: given, waiting)
      else if cs.isEmpty then some ([], some choice.key)
      else some ([⟨choice.key, some (String.ofList cs)⟩], none)

/-- The options that a word gives. -/
def readWord (choices : List (Choice κ)) (word : String) : Option (Word κ) :=
  let cs := word.toList
  let name := cs.takeWhile (· != '=')
  let value := if name.length = cs.length then none
    else some (String.ofList (cs.drop (name.length + 1)))
  match choices.find? fun choice => choice.name.toList == name with
  | none => if cs.take 2 == ['-', '-'] then none else readLetters choices (cs.drop 1)
  | some choice =>
    match choice.takesValue, value with
    | true, some v => some ([⟨choice.key, some v⟩], none)
    | true, none => some ([], some choice.key)
    | false, some _ => none
    | false, none => some ([⟨choice.key, none⟩], none)

/-- Arguments with more options in front. -/
def Arguments.withGiven (given : List (Given κ)) (a : Arguments κ) : Arguments κ :=
  { a with given := given ++ a.given }

/-- Arguments with one more operand in front. -/
def Arguments.withOperand (operand : String) (a : Arguments κ) : Arguments κ :=
  { a with operands := operand :: a.operands }

/-- The arguments of a command, if every option is one that it takes and has its value. -/
def Arguments.read (choices : List (Choice κ)) (anywhere : Bool) :
    List String → Option (Arguments κ)
  | [] => some ⟨[], []⟩
  | word :: words =>
    if word = "--" then some ⟨[], words⟩
    else if givesOptions word then
      match readWord choices word, words with
      | none, _ => none
      | some (given, none), words => (read choices anywhere words).map (·.withGiven given)
      | some (_, some _), [] => none
      | some (given, some key), value :: words =>
        (read choices anywhere words).map (·.withGiven (given ++ [⟨key, some value⟩]))
    else if anywhere then (read choices anywhere words).map (·.withOperand word)
    else some ⟨[], word :: words⟩

namespace Arguments

variable [BEq κ]

/-- Whether an option was given. -/
def has (a : Arguments κ) (key : κ) : Bool := a.given.any fun g => g.key == key

/-- The values that an option was given, in order. -/
def values (a : Arguments κ) (key : κ) : List String :=
  a.given.filterMap fun g => if g.key == key then g.value else none

/-- The value that an option was given last. -/
def last? (a : Arguments κ) (key : κ) : Option String := (a.values key).getLast?

end Arguments

end ScriptHost.Command
