import ScriptHost.Number.Numeral
import ScriptHost.Text.Blank
import ScriptHost.Text.Surrogate
import ScriptHost.Text.Word

/-!
# Handlers

Behind the equals sign of a tag with an at sign stands a handler: a name, values in parentheses,
or both; anything else must be values alone.  Values are numbers, sums of a number and an
imaginary one, quoted texts and byte strings, the three constants, the ellipsis, and tuples,
sets and mappings of values.  Nothing else has a meaning, a name least of all.
-/

namespace ScriptHost.Console

/-! ## Values -/

/-- What matters about a value: which sums it may enter and whether it may be a key. -/
inductive ValueKind where
  | real
  /-- A real number with a sign. -/
  | signed
  | imaginary
  | text
  | bytes
  /-- Any other value that may be an item of a set or a key. -/
  | key
  /-- A set or a mapping, or what holds one. -/
  | keyless
  deriving DecidableEq, Repr

/-- What is left of a text behind a value. -/
abbrev ValueReading := Option (ValueKind × List Char)

/-- A text without blanks in front, after a hash without the rest of the line; within
parentheses a line may end. -/
def blanksSkipped (inside remark : Bool) : List Char → List Char
  | [] => []
  | c :: cs =>
    if c = '\n' || c = '\r' then
      if inside then blanksSkipped inside false cs else c :: cs
    else if remark || c = ' ' || c = '\t' || c = '\x0c' then blanksSkipped inside remark cs
    else if c = '#' then blanksSkipped inside true cs
    else c :: cs

/-- The deepest that values may lie in each other. -/
def deepestValue : Nat := 200

/-- A text without blanks in front at a depth that is counted down. -/
def skipBlanks (depth : Nat) (cs : List Char) : List Char :=
  blanksSkipped (depth < deepestValue) false cs

/-- Whether a character behind a number would be a part of it. -/
def clings (c : Char) : Bool := c.isAlphanum || c == '_' || 0x80 ≤ c.toNat

/-- A run of digits of a base with single underscores between them, and what stands behind. -/
def digitRun (base : Nat) (cs : List Char) : List Char × List Char :=
  let run := cs.takeWhile fun c => c == '_' || (Number.digitIn? base c).isSome
  (run, cs.drop run.length)

/-- Whether a run begins and ends with a digit and has no two underscores in a row. -/
def isDigitRun (run : List Char) : Bool :=
  run.head? != some '_' && run.getLast? != some '_' && !run.isEmpty &&
    (run.zip (run.drop 1)).all fun (a, b) => !(a == '_' && b == '_')

/-- The exponent of a number, if one stands there, and what stands behind. -/
def exponentRun (cs : List Char) : Option (List Char) × List Char :=
  match cs with
  | mark :: rest =>
    if mark = 'e' || mark = 'E' then
      let digits := match rest with
        | '+' :: ds | '-' :: ds => ds
        | ds => ds
      let (run, behind) := digitRun 10 digits
      if isDigitRun run then (some run, behind) else (none, cs)
    else (none, cs)
  | [] => (none, [])

/-- A number that is written in tens. -/
def decimalValue? (cs : List Char) : ValueReading :=
  let (whole, rest) := digitRun 10 cs
  let (fraction, rest) : Option (List Char) × List Char := match rest with
    | '.' :: ds =>
      let (run, behind) := digitRun 10 ds
      (some run, behind)
    | ds => (none, ds)
  let (exponent, rest) := exponentRun rest
  let isWhole := fraction.isNone && exponent.isNone
  let (isImaginary, rest) := match rest with
    | 'j' :: ds | 'J' :: ds => (true, ds)
    | ds => (false, ds)
  let digits := whole.filter (· != '_')
  let given := fraction.getD []
  if (whole.isEmpty && given.isEmpty) || (!whole.isEmpty && !isDigitRun whole) ||
      (!given.isEmpty && !isDigitRun given) || rest.head?.any clings then none
  else if isWhole && !isImaginary &&
      ((digits.head? == some '0' && digits.any (· != '0')) ||
        Number.longestNumeral < digits.length) then none
  else some (if isImaginary then .imaginary else .real, rest)

/-- A number, perhaps in a base that its second character names. -/
def numberValue? (cs : List Char) : ValueReading :=
  match cs with
  | '0' :: mark :: rest =>
    let bases := [(16, "xX"), (8, "oO"), (2, "bB")]
    match bases.find? fun b => b.2.toList.contains mark with
    | some (base, _) =>
      let (run, behind) := digitRun base rest
      let run := if run.head? == some '_' then run.drop 1 else run
      if isDigitRun run && !behind.head?.any clings then some (.real, behind) else none
    | none => decimalValue? cs
  | _ => decimalValue? cs

/-- How a quoted text is written. -/
structure QuoteStyle where
  quote : Char
  isTriple : Bool
  isRaw : Bool
  isBytes : Bool

/-- The number of hexadecimal digits behind the letter of an escape. -/
def escapeDigits? (isBytes : Bool) (c : Char) : Option Nat :=
  if c = 'x' then some 2
  else if isBytes then none
  else if c = 'u' then some 4
  else if c = 'U' then some 8
  else none

/-- Whether the digits of an escape are there and name a character. -/
def isEscape (count : Nat) (cs : List Char) : Bool :=
  let digits := cs.take count
  digits.length == count && (Number.natIn? 16 digits).any fun n => n < 0x110000

/-- What stands behind a quoted text whose opening quote has been read. -/
def quotedRest? (s : QuoteStyle) : Bool → List Char → Option (List Char)
  | _, [] => none
  | true, c :: cs =>
    if s.isRaw || (escapeDigits? s.isBytes c).all fun n => isEscape n cs then
      if s.isBytes && 0x80 ≤ c.toNat then none else quotedRest? s false cs
    else none
  | false, c :: cs =>
    if c = '\\' then quotedRest? s true cs
    else if c = s.quote then
      if s.isTriple then
        match cs with
        | d :: e :: rest =>
          if d = c && e = c then some rest else quotedRest? s false (d :: e :: rest)
        | _ => none
      else some cs
    else if (c = '\n' || c = '\r') && !s.isTriple then none
    else if s.isBytes && 0x80 ≤ c.toNat then none
    else quotedRest? s false cs

/-- A quoted text behind the letters in front of its quote. -/
def quotedValue? (letters cs : List Char) : ValueReading :=
  let lower := letters.map Char.toLower
  let known := [[], ['r'], ['u'], ['b'], ['b', 'r'], ['r', 'b']].contains lower
  match cs with
  | quote :: rest =>
    if known && (quote = '\x27' || quote = '"') then
      let isTriple := rest.take 2 == [quote, quote]
      let s : QuoteStyle := ⟨quote, isTriple, lower.contains 'r', lower.contains 'b'⟩
      (quotedRest? s false (rest.drop (if isTriple then 2 else 0))).map fun behind =>
        (if s.isBytes then .bytes else .text, behind)
    else none
  | [] => none

/-- Values that follow each other, as far as they have been read. -/
structure Gathered where
  /-- Whether all of them may be keys. -/
  areKeys : Bool
  count : Nat
  /-- Whether a comma stands behind the last one. -/
  isOpen : Bool
  rest : List Char

mutual

/-- A value without a sign; quoted texts that follow each other are one. -/
def plainValue? (fuel depth : Nat) (cs : List Char) : ValueReading :=
  match fuel with
  | 0 => none
  | fuel + 1 =>
    match cs with
    | [] => none
    | c :: rest =>
      if c = '(' || c = '\x7b' then
        if depth = 0 then none
        else if c = '(' then tupleValue? fuel (depth - 1) rest
        else bracedValue? fuel (depth - 1) rest
      else if c = '.' && rest.take 2 == ['.', '.'] then some (.key, rest.drop 2)
      else if c.isDigit || c = '.' then numberValue? cs
      else
        let word := cs.takeWhile clings
        let behind := cs.drop word.length
        if behind.head? == some '\x27' || behind.head? == some '"' then
          textValue? fuel depth word behind
        else if ["None", "True", "False"].contains (String.ofList word) then some (.key, behind)
        else if String.ofList word = "set" then
          match skipBlanks depth behind with
          | '(' :: inner =>
            match skipBlanks (depth - 1) inner with
            | ')' :: behind => some (.keyless, behind)
            | _ => none
          | _ => none
        else none

/-- Quoted texts that follow each other, all of them texts or all of them byte strings. -/
def textValue? (fuel depth : Nat) (letters cs : List Char) : ValueReading :=
  match fuel with
  | 0 => none
  | fuel + 1 =>
    match quotedValue? letters cs with
    | none => none
    | some (kind, behind) =>
      let next := skipBlanks depth behind
      let word := next.takeWhile clings
      let more := next.drop word.length
      if more.head? == some '\x27' || more.head? == some '"' then
        match textValue? fuel depth word more with
        | some (other, rest) => if other = kind then some (kind, rest) else none
        | none => none
      else some (kind, behind)

/-- A value, perhaps with a sign, or the sum of a number and an imaginary one. -/
def value? (fuel depth : Nat) (cs : List Char) : ValueReading :=
  match fuel with
  | 0 => none
  | fuel + 1 =>
    let (isSigned, unsigned) := match cs with
      | '+' :: rest | '-' :: rest => (true, skipBlanks depth rest)
      | rest => (false, rest)
    match plainValue? fuel depth unsigned with
    | none => none
    | some (kind, behind) =>
      if isSigned && kind != .real && kind != .imaginary then none
      else
        let kind := if isSigned then (if kind = .real then .signed else .key) else kind
        match skipBlanks depth behind with
        | '+' :: rest | '-' :: rest =>
          match plainValue? fuel depth (skipBlanks depth rest) with
          | some (.imaginary, behind) =>
            if kind = .real ∨ kind = .signed then some (.key, behind) else none
          | _ => none
        | _ => some (kind, behind)

/-- The values behind an opening parenthesis, up to the closing one. -/
def tupleValue? (fuel depth : Nat) (cs : List Char) : ValueReading :=
  match fuel with
  | 0 => none
  | fuel + 1 =>
    match gather fuel depth (fun c => c == ')') ⟨true, 0, true, cs⟩ none with
    | some (g, kind) =>
      match g.rest with
      | ')' :: behind =>
        if g.count = 1 && !g.isOpen then kind.map fun kind => (kind, behind)
        else some (if g.areKeys then .key else .keyless, behind)
      | _ => none
    | none => none

/-- The items of a set or the pairs of a mapping behind an opening brace. -/
def bracedValue? (fuel depth : Nat) (cs : List Char) : ValueReading :=
  match fuel with
  | 0 => none
  | fuel + 1 =>
    let finish (g : Gathered) : ValueReading :=
      match g.rest with
      | '\x7d' :: behind => if g.areKeys then some (.keyless, behind) else none
      | _ => none
    match gather fuel depth (fun c => c == '\x7d' || c == ':') ⟨true, 0, true, cs⟩ none with
    | some (g, _) =>
      if g.rest.head? == some ':' then
        if g.count = 1 && !g.isOpen then (pairs fuel depth true g).bind finish else none
      else finish g
    | none => none

/-- Values with commas between them, up to a character that ends them; and the kind of the last
one. -/
def gather (fuel depth : Nat) (isEnd : Char → Bool) (g : Gathered) (last : Option ValueKind) :
    Option (Gathered × Option ValueKind) :=
  match fuel with
  | 0 => none
  | fuel + 1 =>
    let cs := skipBlanks depth g.rest
    if cs.head?.any isEnd then some ({ g with rest := cs }, last)
    else if !g.isOpen then none
    else
      match value? fuel depth cs with
      | none => none
      | some (kind, behind) =>
        let behind := skipBlanks depth behind
        let areKeys := g.areKeys && kind != .keyless
        match behind with
        | ',' :: rest => gather fuel depth isEnd ⟨areKeys, g.count + 1, true, rest⟩ (some kind)
        | _ => gather fuel depth isEnd ⟨areKeys, g.count + 1, false, behind⟩ (some kind)

/-- The pairs of a mapping, of which the key of the next one has been read unless a value is
awaited no longer. -/
def pairs (fuel depth : Nat) (hasKey : Bool) (g : Gathered) : Option Gathered :=
  match fuel with
  | 0 => none
  | fuel + 1 =>
    let cs := skipBlanks depth g.rest
    match cs with
    | '\x7d' :: _ => if hasKey then none else some { g with rest := cs }
    | _ =>
      if !hasKey then
        if !g.isOpen then none
        else
          match value? fuel depth cs with
          | some (kind, behind) =>
            pairs fuel depth true
              ⟨g.areKeys && kind != .keyless, g.count, false, skipBlanks depth behind⟩
          | none => none
      else
        match cs with
        | ':' :: rest =>
          match value? fuel depth (skipBlanks depth rest) with
          | some (_, behind) =>
            match skipBlanks depth behind with
            | ',' :: rest => pairs fuel depth false ⟨g.areKeys, g.count, true, rest⟩
            | rest => pairs fuel depth false ⟨g.areKeys, g.count, false, rest⟩
          | none => none
        | _ => none

end

/-- A text without the lines in front that are blank or hold a remark alone, given what is left
behind the characters of the line under way that have been read. -/
def contentFrom (line : List Char) (remark : Bool) : List Char → List Char
  | [] => line
  | c :: cs =>
    if c = '\n' || c = '\r' then contentFrom cs false cs
    else if remark || c = ' ' || c = '\t' || c = '\x0c' then contentFrom line remark cs
    else if c = '#' then contentFrom line true cs
    else line

/-- Whether a text is a value, or several with commas between them, at the beginning of a line;
other lines may hold remarks. -/
def isValue (cs : List Char) : Bool :=
  let fuel := 4 * cs.length + 8
  let content := contentFrom cs false cs
  !cs.any (fun c => c == '\x00' || (Text.surrogate? c).isSome) &&
    !content.head?.any (fun c => c == ' ' || c == '\t') &&
    match gather fuel deepestValue (fun c => c == '\n' || c == '\r')
        ⟨true, 0, true, content ++ ['\n']⟩ none with
    | some (g, _) => (blanksSkipped true false g.rest).isEmpty && 0 < g.count
    | none => false

/-! ## Handlers -/

/-- Whether what stands behind the equals sign of a tag with an at sign has a meaning. -/
def isHandler (parameters : String) : Bool :=
  let cs := (Text.strip parameters).toList
  let rest := cs.dropWhile fun c => Text.isWordChar c || c == '.'
  let isCall := rest.head? == some '(' && rest.getLast? == some ')' && !rest.contains '\n'
  rest.isEmpty || isValue (if isCall then rest else cs)

/-- A handler may be a name alone. -/
example : isHandler "app.quit" = true := by decide +kernel

end ScriptHost.Console
