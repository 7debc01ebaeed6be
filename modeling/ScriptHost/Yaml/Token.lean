import ScriptHost.Yaml.Scalar
import ScriptHost.Yaml.Source

/-!
# Tokens

A YAML text as a row of tokens.  Indentation is told by tokens of its own: a block begins where
a line is indented further than the one it belongs to, and ends where a line is indented less.

A key of a mapping has no mark in front of it.  Whether something was a key is known only when
the colon behind it is reached, so the place of everything that may turn out to be one is kept,
and its mark is put there afterwards.  Such a key must end on the line on which it began, and
within 1024 characters.  Until it is known, neither the token nor what follows it counts as read.
-/

namespace ScriptHost.Yaml

/-- What a directive says. -/
inductive Directive where
  /-- The version of the language. -/
  | version (major : Nat)
  /-- What a handle of tags stands for. -/
  | tagHandle (handle meaning : String)
  /-- A directive without a meaning. -/
  | reserved
  deriving DecidableEq, Repr

/-- A token of a text. -/
inductive Token where
  | directive (content : Directive)
  | documentStart
  | documentEnd
  | textEnd
  | blockSequenceStart
  | blockMappingStart
  | blockEnd
  | flowSequenceStart
  | flowSequenceEnd
  | flowMappingStart
  | flowMappingEnd
  | blockEntry
  | flowEntry
  | key
  | value
  | alias_ (name : String)
  | anchor (name : String)
  | tag (handle : Option String) (suffix : String)
  /-- A scalar, and whether it is a plain one. -/
  | scalar (text : String) (isPlain : Bool)
  /-- Where the text cannot be read any further. -/
  | unreadable (failure : Failure)
  deriving DecidableEq, Repr

/-! ## Names, tags and directives -/

/-- A name of letters, digits, hyphens and underscores. -/
def wordAt (c : Cursor) : Except Failure (String × Cursor) := do
  let (name, c) := c.takeWhile isWord
  ensure (!name.isEmpty)
  return (String.ofList name, c)

/-- The name behind the mark of an anchor or an alias. -/
def anchorName (c : Cursor) : Except Failure (String × Cursor) := do
  let (name, c) ← wordAt c.next
  ensure (isBlankOrEnd c.peek || "?:,]\x7d%@\x60".toList.contains c.peek)
  return (name, c)

/-- The bytes that are written by their codes behind percent signs. -/
def percentBytes : List Char → List UInt8
  | '%' :: a :: b :: cs =>
    match Number.natIn? 16 [a, b] with
    | some n => UInt8.ofNat n :: percentBytes cs
    | none => []
  | _ => []

/-- Whether a character may stand in a tag. -/
def isTagChar (c : Char) : Bool :=
  c.isAlphanum || "-;/?:@&=+$,_.!~*\x27()[]".toList.contains c

/-- The text of a tag. -/
def tagText : Nat → Cursor → Except Failure (List Char × Cursor)
  | 0, _ => malformed
  | fuel + 1, c => do
    let (run, c) := c.takeWhile isTagChar
    if c.peek == '%' then
      let bytes := percentBytes c.rest
      ensure (!bytes.isEmpty && c.peekAt (3 * bytes.length) != '%')
      match Text.decodeUtf8 bytes with
      | .error _ => malformed
      | .ok text =>
        let (more, c) ← tagText fuel (c.forward (3 * bytes.length))
        return (run ++ text.toList ++ more, c)
    else return (run, c)

/-- The text of a tag, which must not be empty. -/
def tagSuffix (c : Cursor) : Except Failure (String × Cursor) := do
  let (text, c) ← tagText (c.rest.length + 1) c
  ensure (!text.isEmpty)
  return (String.ofList text, c)

/-- A handle of tags: an exclamation mark, or a name between two of them. -/
def tagHandle (c : Cursor) : Except Failure (String × Cursor) := do
  ensure (c.peek == '!')
  if c.peekAt 1 == ' ' then return ("!", c.next)
  let (name, rest) := c.next.takeWhile isWord
  ensure (rest.peek == '!')
  return (String.ofList ('!' :: name ++ ['!']), rest.next)

/-- Whether another exclamation mark follows the first one of a tag. -/
def hasHandle (c : Cursor) : Bool :=
  (c.next.rest.takeWhile fun ch => !isSpaceOrEnd ch).contains '!'

/-- A tag. -/
def tagAt (c : Cursor) : Except Failure (Token × Cursor) := do
  let (token, c) ←
    if c.peekAt 1 == '<' then do
      let (suffix, c) ← tagSuffix (c.forward 2)
      ensure (c.peek == '>')
      pure (Token.tag none suffix, c.next)
    else if isBlankOrEnd (c.peekAt 1) then pure (Token.tag none "!", c.next)
    else if hasHandle c then do
      let (handle, c) ← tagHandle c
      let (suffix, c) ← tagSuffix c
      pure (Token.tag (some handle) suffix, c)
    else do
      let (suffix, c) ← tagSuffix c.next
      pure (Token.tag (some "!") suffix, c)
  ensure (isSpaceOrEnd c.peek)
  return (token, c)

/-- A number in a directive. -/
def numberAt (c : Cursor) : Except Failure (Nat × Cursor) := do
  let (digits, c) := c.takeWhile Char.isDigit
  match Number.wholeOf 10 digits with
  | .ok n => return (n.toNat, c)
  | .error (.tooLong count) => .error (.raised (Number.tooLongFault count))
  | .error .unreadable => malformed

/-- What follows the name of a directive. -/
def directiveContent (name : String) (c : Cursor) : Except Failure (Directive × Cursor) := do
  let spaces := c.skipWhile (· == ' ')
  if name = "YAML" then
    let (major, c) ← numberAt spaces
    ensure (c.peek == '.')
    let (_, c) ← numberAt c.next
    ensure (isSpaceOrEnd c.peek)
    return (.version major, c)
  else if name = "TAG" then
    let (handle, c) ← tagHandle spaces
    ensure (c.peek == ' ')
    let (meaning, c) ← tagSuffix (c.skipWhile (· == ' '))
    ensure (isSpaceOrEnd c.peek)
    return (.tagHandle handle meaning, c)
  else return (.reserved, c.skipWhile fun ch => !isBreakOrEnd ch)

/-- A directive. -/
def directiveAt (c : Cursor) : Except Failure (Token × Cursor) := do
  let (name, c) ← wordAt c.next
  ensure (isSpaceOrEnd c.peek)
  let (content, c) ← directiveContent name c
  let c := c.skipComment
  ensure (isBreakOrEnd c.peek)
  return (.directive content, c.lineBreak.2)

/-! ## Reading tokens -/

/-- Something that may turn out to be a key: how many tokens stand before it, whether it must be
one, and where it begins. -/
structure Candidate where
  before : Nat
  isRequired : Bool
  index : Nat
  line : Nat
  column : Nat
  deriving Repr

/-- A reading of tokens under way. -/
structure Lexer where
  cursor : Cursor
  /-- The tokens so far, newest first. -/
  tokens : List Token
  /-- The indentation of the block under way; minus one outside of all blocks. -/
  indent : Int
  /-- The indentations of the blocks around it, innermost first. -/
  outer : List Int
  /-- How many brackets are open. -/
  depth : Nat
  /-- What may turn out to be a key, by the number of brackets around it. -/
  candidates : List (Nat × Candidate)
  /-- Whether a key may begin here. -/
  allowsKey : Bool

namespace Lexer

/-- The beginning of a text. -/
def start (cs : List Char) : Lexer := ⟨.start cs, [], -1, [], 0, [], true⟩

/-- Whether brackets are open. -/
def inFlow (l : Lexer) : Bool := l.depth != 0

/-- The reading with one more token. -/
def push (l : Lexer) (t : Token) : Lexer := { l with tokens := t :: l.tokens }

/-- The reading with one more token, at another place. -/
def pushAt (l : Lexer) (t : Token) (c : Cursor) : Lexer :=
  { l with tokens := t :: l.tokens, cursor := c }

/-- A newest-first list with an item put in front of the last `n`. -/
def insertBack {α : Type} (n : Nat) (item : α) (xs : List α) : List α :=
  xs.take n ++ item :: xs.drop n

/-- The place behind blank lines, comments and the spaces in front of a token. -/
def skipLines : Nat → Lexer → Lexer
  | 0, l => l
  | fuel + 1, l =>
    let c := l.cursor.skipComment
    if isBreak c.peek then
      skipLines fuel
        { l with cursor := c.lineBreak.2, allowsKey := l.allowsKey || !l.inFlow }
    else { l with cursor := c }

/-- The place of the next token. -/
def toToken (l : Lexer) : Lexer :=
  let c := l.cursor
  let c := if c.index == 0 && c.peek == byteOrderMark then c.next else c
  skipLines (c.rest.length + 1) { l with cursor := c }

/-- Gives up on candidates that are too far away; one that must be a key may not be given up. -/
def dropStale (l : Lexer) : Except Failure Lexer := do
  let c := l.cursor
  let isStale (k : Candidate) : Bool := k.line != c.line || c.index - k.index > 1024
  ensure (!l.candidates.any fun k => isStale k.2 && k.2.isRequired)
  return { l with candidates := l.candidates.filter fun k => !isStale k.2 }

/-- Ends the blocks that are indented further than a column. -/
def unwind (column : Int) : List Int → Int → List Token → Int × List Int × List Token
  | [], indent, tokens => (indent, [], tokens)
  | outer :: rest, indent, tokens =>
    if column < indent then unwind column rest outer (.blockEnd :: tokens)
    else (indent, outer :: rest, tokens)

/-- Ends the blocks that are indented further than a column, outside of brackets. -/
def endBlocks (l : Lexer) (column : Int) : Lexer :=
  if l.inFlow then l
  else
    let (indent, outer, tokens) := unwind column l.outer l.indent l.tokens
    { l with indent := indent, outer := outer, tokens := tokens }

/-- Begins a block at a column, in front of the last `n` tokens, unless it has begun. -/
def beginBlock (l : Lexer) (column : Nat) (n : Nat) (t : Token) : Lexer :=
  if l.indent < column then
    { l with
      indent := column
      outer := l.indent :: l.outer
      tokens := insertBack n t l.tokens }
  else l

/-- Gives up on the candidate within the innermost brackets. -/
def dropCandidate (l : Lexer) : Except Failure Lexer := do
  match l.candidates.lookup l.depth with
  | some k =>
    ensure (!k.isRequired)
    return { l with candidates := l.candidates.filter fun k => k.1 != l.depth }
  | none => return l

/-- Keeps the place as that of a candidate, if a key may begin here. -/
def keepCandidate (l : Lexer) : Except Failure Lexer := do
  if l.allowsKey then
    let l ← l.dropCandidate
    let c := l.cursor
    let k : Candidate :=
      ⟨l.tokens.length, !l.inFlow && l.indent == c.column, c.index, c.line, c.column⟩
    return { l with candidates := (l.depth, k) :: l.candidates }
  else return l

/-- Ends all blocks and allows no key. -/
def endDocument (l : Lexer) : Except Failure Lexer := do
  let l ← (l.endBlocks (-1)).dropCandidate
  return { l with allowsKey := false }

/-- The mark of an entry, a key or a value that begins a block of its own. -/
def blockMark (l : Lexer) (begins mark : Token) (allowsKey : Bool) : Except Failure Lexer := do
  ensure (l.inFlow || l.allowsKey)
  let l := if l.inFlow then l else l.beginBlock l.cursor.column 0 begins
  let l ← { l with allowsKey := allowsKey }.dropCandidate
  return l.pushAt mark l.cursor.next

/-- The mark of a value.  The candidate in front of it becomes a key. -/
def valueMark (l : Lexer) : Except Failure Lexer := do
  match l.candidates.lookup l.depth with
  | some k =>
    let n := l.tokens.length - k.before
    let l := { l with
      candidates := l.candidates.filter fun k => k.1 != l.depth
      tokens := insertBack n .key l.tokens
      allowsKey := false }
    let l := if l.inFlow then l else l.beginBlock k.column (n + 1) .blockMappingStart
    return l.pushAt .value l.cursor.next
  | none => l.blockMark .blockMappingStart .value (!l.inFlow)

/-- A token that may turn out to be a key. -/
def content (l : Lexer) (token : Token) (c : Cursor) (allowsKey : Bool) :
    Except Failure Lexer := do
  let l ← l.keepCandidate
  return { l with allowsKey := allowsKey }.pushAt token c

/-- Opening brackets. -/
def opening (l : Lexer) (token : Token) : Except Failure Lexer := do
  let l ← l.keepCandidate
  return { l with depth := l.depth + 1, allowsKey := true }.pushAt token l.cursor.next

/-- Closing brackets. -/
def closing (l : Lexer) (token : Token) : Except Failure Lexer := do
  ensure l.inFlow
  let l ← l.dropCandidate
  return { l with depth := l.depth - 1, allowsKey := false }.pushAt token l.cursor.next

/-- Whether a plain scalar begins with a character; the next one is known, too. -/
def beginsPlain (inFlow : Bool) (ch following : Char) : Bool :=
  !(isBlankOrEnd ch || "-?:,[]\x7b\x7d#&*!|>\x27\"%@\x60".toList.contains ch) ||
    (!isBlankOrEnd following && (ch == '-' || (!inFlow && (ch == '?' || ch == ':'))))

/-- Reads one more token, which begins here. -/
def tokenHere (l : Lexer) : Except Failure Lexer := do
  let c := l.cursor
  let ch := c.peek
  let isFree := isBlankOrEnd (c.peekAt 1)
  let atMark := c.column == 0 && c.atSeparator
  if ch == '%' && c.column == 0 then
    let l ← l.endDocument
    let (token, c) ← directiveAt c
    return l.pushAt token c
  else if atMark then
    let l ← l.endDocument
    return l.pushAt (if ch == '-' then .documentStart else .documentEnd) (c.forward 3)
  else if ch == '[' then l.opening .flowSequenceStart
  else if ch == '\x7b' then l.opening .flowMappingStart
  else if ch == ']' then l.closing .flowSequenceEnd
  else if ch == '\x7d' then l.closing .flowMappingEnd
  else if ch == ',' then
    let l ← { l with allowsKey := true }.dropCandidate
    return l.pushAt .flowEntry c.next
  else if ch == '-' && isFree then l.blockMark .blockSequenceStart .blockEntry true
  else if ch == '?' && (l.inFlow || isFree) then
    l.blockMark .blockMappingStart .key (!l.inFlow)
  else if ch == ':' && (l.inFlow || isFree) then l.valueMark
  else if ch == '*' then
    let (name, c) ← anchorName c
    l.content (.alias_ name) c false
  else if ch == '&' then
    let (name, c) ← anchorName c
    l.content (.anchor name) c false
  else if ch == '!' then
    let (token, c) ← tagAt c
    l.content token c false
  else if (ch == '|' || ch == '>') && !l.inFlow then
    let l ← { l with allowsKey := true }.dropCandidate
    let (text, c) ← blockScalar (ch == '>') (l.indent + 1).toNat c
    return l.pushAt (.scalar (String.ofList text) false) c
  else if ch == '\x27' || ch == '"' then
    let (text, c) ← quotedScalar (ch == '"') c
    l.content (.scalar (String.ofList text) false) c false
  else
    ensure (beginsPlain l.inFlow ch (c.peekAt 1))
    let (text, c, broken) :=
      plainScalar l.inFlow (l.indent + 1).toNat (c.rest.length + 1) c
    l.content (.scalar (String.ofList text) true) c broken

/-- The tokens that are read when the reading breaks off: those in front of everything that may
still turn out to be a key. -/
def brokenOff (l : Lexer) (failure : Failure) : List Token :=
  let candidates := match l.dropStale with
    | .ok l => l.candidates
    | .error _ => l.candidates
  let count := candidates.foldl (fun n k => min n k.2.before) l.tokens.length
  l.tokens.reverse.take count ++ [.unreadable failure]

/-- Goes to the next token and ends the blocks that end in front of it. -/
def settle (l : Lexer) : Except Failure Lexer := do
  let l ← l.toToken.dropStale
  return l.endBlocks l.cursor.column

/-- Reads tokens up to the end of what can be read of a text. -/
def run (failure? : Option Failure) : Nat → Lexer → List Token
  | 0, l => l.brokenOff .malformedDocument
  | fuel + 1, l =>
    match l.settle with
    | .error f => l.brokenOff f
    | .ok here =>
      match failure?.filter fun _ => (here.cursor.rest.drop 1).isEmpty with
      | some f => l.brokenOff f
      | none =>
        if here.cursor.rest.isEmpty then
          match here.endDocument with
          | .error f => l.brokenOff f
          | .ok done => (Token.textEnd :: done.tokens).reverse
        else
          match here.tokenHere with
          | .error f => l.brokenOff f
          | .ok later => run failure? fuel later

end Lexer

/-- The tokens of a document. -/
def tokens (source : Source) : List Token :=
  Lexer.run source.failure? (source.chars.length + 2) (.start source.chars)

end ScriptHost.Yaml
