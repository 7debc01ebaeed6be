import ScriptHost.Yaml.Tag
import ScriptHost.Yaml.Token

/-!
# Nodes

The tree that the tokens of a YAML text spell.  A node may be named by an anchor and used again
under that name; no name may be given twice.  Where a value is due and none is written, the
value is null.

A node may even be used within itself.  Such a node has no end; the tree follows it a few levels
down, further than any reader of settings looks.

A text holds at most one document, whose nodes may not be nested too deeply.
-/

namespace ScriptHost.Yaml

/-- A node of the tree. -/
inductive Node where
  | scalar (tag : Tag) (text : String)
  | sequence (tag : Tag) (items : List Node)
  | mapping (tag : Tag) (entries : List (Node × Node))
  deriving Repr, Inhabited

namespace Node

/-- The node where none is written. -/
def absent : Node := scalar .null ""

/-- The tag of a node. -/
def tag : Node → Tag
  | scalar tag _ | sequence tag _ | mapping tag _ => tag

end Node

/-- What the handles of tags stand for. -/
abbrev Handles := List (String × String)

/-- The handles that need no directive. -/
def commonHandles : Handles := [("!", "!"), ("!!", Tag.common)]

/-- A reading of nodes under way. -/
structure Reading where
  /-- The tokens that are left. -/
  tokens : List Token
  /-- The nodes with names so far. -/
  named : List (String × Node)
  /-- What is known of nodes with names before they have ended. -/
  known : List (String × Node)
  /-- How many nodes are open. -/
  depth : Nat

namespace Reading

/-- The next token. -/
def peek (r : Reading) : Token := r.tokens.headD .textEnd

/-- The reading behind the next token. -/
def next (r : Reading) : Reading := { r with tokens := r.tokens.drop 1 }

/-- Whether the text cannot be read any further. -/
def isBroken (r : Reading) : Bool :=
  match r.peek with
  | .unreadable _ => true
  | _ => false

/-- Whether the next token is one of a few. -/
def sees (r : Reading) (ts : List Token) : Bool := ts.contains r.peek

/-- The failure of a reading at its next token. -/
def refuse {α : Type} (r : Reading) : Except Failure α :=
  match r.peek with
  | .unreadable failure => .error failure
  | _ => malformed

/-- Goes on only if a condition holds. -/
def ensure (r : Reading) (condition : Bool) : Except Failure Unit :=
  if condition then .ok () else r.refuse

/-- The reading with a name for a node. -/
def name (r : Reading) (anchor : Option String) (n : Node) : Reading :=
  match anchor with
  | some a => { r with named := (a, n) :: r.named }
  | none => r

/-- The most calls that may be under way at once, by the limit that the host runs with. -/
def mostCalls : Nat := 1000

/-- The calls that are under way when a command begins to read its configuration. -/
def callsAround : Nat := 22

/-- How deep nodes may be nested: a node within a node takes two more calls. -/
def deepest : Nat := (mostCalls - callsAround) / 2

/-- The reading within a node, which may have a name; until the node has ended, the name stands
for what is known of it. -/
def enter (r : Reading) (anchor : Option String) (empty : Node) : Except Failure Reading :=
  if r.depth ≥ deepest then
    .error (.raised ⟨"RecursionError", "maximum recursion depth exceeded"⟩)
  else
    let n := (anchor.bind fun a => r.known.lookup a).getD empty
    .ok { r.name anchor n with depth := r.depth + 1 }

/-- The reading behind a node. -/
def leave (r : Reading) (anchor : Option String) (n : Node) : Reading :=
  { r.name anchor n with depth := r.depth - 1 }

/-- What stands in front of a node: its name and its tag, in either order. -/
def properties (r : Reading) : Option String × Option (Option String × String) × Reading :=
  match r.tokens with
  | .anchor a :: .tag handle suffix :: rest | .tag handle suffix :: .anchor a :: rest =>
    (some a, some (handle, suffix), { r with tokens := rest })
  | .anchor a :: rest => (some a, none, { r with tokens := rest })
  | .tag handle suffix :: rest => (none, some (handle, suffix), { r with tokens := rest })
  | _ => (none, none, r)

end Reading

/-- The full name of a tag. -/
def tagName (handles : Handles) : Option (Option String × String) → Except Failure (Option String)
  | none => .ok none
  | some (none, suffix) => .ok (some suffix)
  | some (some handle, suffix) =>
    match handles.lookup handle with
    | some meaning => .ok (some (meaning ++ suffix))
    | none => malformed

/-- The tag of a node whose tag is written, or else the one that it has by default. -/
def tagOr (default : Tag) (name : Option String) : Tag :=
  match name with
  | none | some "!" => default
  | some name => .ofName name

/-- The tag of a scalar. -/
def scalarTag (name : Option String) (text : String) (isPlain : Bool) : Tag :=
  match name with
  | none => if isPlain then .ofPlain text else .text
  | some "!" => .ofPlain text
  | some name => .ofName name

/-! ## Reading nodes

Every function takes a bound on the depth of its calls.  A call in which no token is read is
followed by one in which a token is, so that a bound of a few times the number of tokens is
never reached. -/

mutual

/-- A node; outside of brackets it may be a block, and where a mapping's entry stands, a
sequence that is not indented. -/
def node (handles : Handles) (block indentless : Bool) :
    Nat → Reading → Except Failure (Node × Reading)
  | 0, _ => malformed
  | fuel + 1, r =>
    match r.peek with
    | .alias_ a =>
      match r.named.lookup a with
      | some n => .ok (n, r.next)
      | none => malformed
    | _ => do
      let (anchor, written, r) := r.properties
      r.ensure (!r.isBroken)
      let tag ← tagName handles written
      r.ensure (!anchor.any fun a => (r.named.lookup a).isSome)
      let sequence_ (read : Reading → Except Failure (List Node × Reading)) :
          Except Failure (Node × Reading) := do
        let tag := tagOr .sequence tag
        let (items, r) ← read (← r.enter anchor (.sequence tag []))
        let n := Node.sequence tag items
        return (n, r.leave anchor n)
      let mapping_ (read : Reading → Except Failure (List (Node × Node) × Reading)) :
          Except Failure (Node × Reading) := do
        let tag := tagOr .mapping tag
        let (entries, r) ← read (← r.enter anchor (.mapping tag []))
        let n := Node.mapping tag entries
        return (n, r.leave anchor n)
      match r.peek with
      | .scalar text isPlain =>
        let n := Node.scalar (scalarTag tag text isPlain) text
        return (n, r.next.name anchor n)
      | .flowSequenceStart => sequence_ fun r => flowItems handles true fuel r.next
      | .flowMappingStart => mapping_ fun r => flowEntries handles true fuel r.next
      | token =>
        if indentless && token = .blockEntry then
          sequence_ fun r => looseItems handles fuel r
        else if block && token = .blockSequenceStart then
          sequence_ fun r => blockItems handles fuel r.next
        else if block && token = .blockMappingStart then
          mapping_ fun r => blockEntries handles fuel r.next
        else
          r.ensure (anchor.isSome || tag.isSome)
          let n := Node.scalar (tagOr .null tag) ""
          return (n, r.name anchor n)

/-- A node, unless one of a few tokens follows. -/
def nodeUnless (handles : Handles) (ends : List Token) (block indentless : Bool) :
    Nat → Reading → Except Failure (Node × Reading)
  | 0, _ => malformed
  | fuel + 1, r =>
    if r.sees ends then .ok (.absent, r) else node handles block indentless fuel r

/-- The items of a sequence in a block. -/
def blockItems (handles : Handles) : Nat → Reading → Except Failure (List Node × Reading)
  | 0, _ => malformed
  | fuel + 1, r => do
    if r.peek = .blockEntry then
      let (item, r) ← nodeUnless handles [.blockEntry, .blockEnd] true false fuel r.next
      let (items, r) ← blockItems handles fuel r
      return (item :: items, r)
    else
      r.ensure (r.peek = .blockEnd)
      return ([], r.next)

/-- The items of a sequence that is not indented. -/
def looseItems (handles : Handles) : Nat → Reading → Except Failure (List Node × Reading)
  | 0, _ => malformed
  | fuel + 1, r => do
    if r.peek = .blockEntry then
      let ends : List Token := [.blockEntry, .key, .value, .blockEnd]
      let (item, r) ← nodeUnless handles ends true false fuel r.next
      let (items, r) ← looseItems handles fuel r
      return (item :: items, r)
    else return ([], r)

/-- The value of a key, if one is written. -/
def entryValue (handles : Handles) (ends : List Token) (block : Bool) :
    Nat → Reading → Except Failure (Node × Reading)
  | 0, _ => malformed
  | fuel + 1, r =>
    if r.peek = .value then nodeUnless handles ends block block fuel r.next
    else .ok (.absent, r)

/-- The entries of a mapping in a block. -/
def blockEntries (handles : Handles) :
    Nat → Reading → Except Failure (List (Node × Node) × Reading)
  | 0, _ => malformed
  | fuel + 1, r => do
    let ends : List Token := [.key, .value, .blockEnd]
    if r.peek = .key then
      let (key, r) ← nodeUnless handles ends true true fuel r.next
      let (value, r) ← entryValue handles ends true fuel r
      let (entries, r) ← blockEntries handles fuel r
      return ((key, value) :: entries, r)
    else
      r.ensure (r.peek = .blockEnd)
      return ([], r.next)

/-- The items of a sequence in brackets; the first needs no comma in front of it.  An item may be
a single entry of a mapping. -/
def flowItems (handles : Handles) (isFirst : Bool) :
    Nat → Reading → Except Failure (List Node × Reading)
  | 0, _ => malformed
  | fuel + 1, r => do
    if r.peek = .flowSequenceEnd then return ([], r.next)
    r.ensure (isFirst || r.peek = .flowEntry)
    let r := if isFirst then r else r.next
    if r.peek = .flowSequenceEnd then return ([], r.next)
    let (item, r) ←
      if r.peek = .key then do
        let (key, r) ← nodeUnless handles [.value, .flowEntry, .flowSequenceEnd] false false fuel
          r.next
        let (value, r) ← entryValue handles [.flowEntry, .flowSequenceEnd] false fuel r
        pure (Node.mapping .mapping [(key, value)], r)
      else node handles false false fuel r
    let (items, r) ← flowItems handles false fuel r
    return (item :: items, r)

/-- The entries of a mapping in braces; the first needs no comma in front of it.  A key without a
mark has no value. -/
def flowEntries (handles : Handles) (isFirst : Bool) :
    Nat → Reading → Except Failure (List (Node × Node) × Reading)
  | 0, _ => malformed
  | fuel + 1, r => do
    if r.peek = .flowMappingEnd then return ([], r.next)
    r.ensure (isFirst || r.peek = .flowEntry)
    let r := if isFirst then r else r.next
    if r.peek = .flowMappingEnd then return ([], r.next)
    let (entry, r) ←
      if r.peek = .key then do
        let (key, r) ← nodeUnless handles [.value, .flowEntry, .flowMappingEnd] false false fuel
          r.next
        let (value, r) ← entryValue handles [.flowEntry, .flowMappingEnd] false fuel r
        pure ((key, value), r)
      else do
        let (key, r) ← node handles false false fuel r
        pure ((key, Node.absent), r)
    let (entries, r) ← flowEntries handles false fuel r
    return (entry :: entries, r)

end

/-! ## Documents -/

/-- The directives in front of a document: whether the version was given, and the handles. -/
def directives (hasVersion : Bool) (handles : Handles) :
    List Token → Except Failure (Handles × List Token)
  | .directive content :: ts =>
    match content with
    | .version major =>
      if hasVersion || major != 1 then malformed else directives true handles ts
    | .tagHandle handle meaning =>
      if (handles.lookup handle).isSome then malformed
      else directives hasVersion ((handle, meaning) :: handles) ts
    | .reserved => directives hasVersion handles ts
  | ts => .ok (handles ++ commonHandles, ts)

/-- Makes sure that nothing more follows a document. -/
def ensureLast (r : Reading) : Except Failure Unit :=
  let r := { r with tokens := r.tokens.dropWhile (· = Token.documentEnd) }
  r.ensure (r.peek = Token.textEnd)

/-- The root of the only document, if there is one, and the nodes with names; `known` is what is
known of these before they have ended. -/
def documentKnowing (known : List (String × Node)) (ts : List Token) :
    Except Failure (Option Node × List (String × Node)) := do
  let fuel := 4 * ts.length + 8
  match ts with
  | [] | .textEnd :: _ => return (none, [])
  | .directive _ :: _ | .documentStart :: _ =>
    let (handles, ts) ← directives false [] ts
    let r : Reading := ⟨ts, [], known, 0⟩
    r.ensure (r.peek = .documentStart)
    let isDirective := match r.next.peek with
      | .directive _ => true
      | _ => false
    let (root, r) ←
      if isDirective then pure (Node.absent, r.next)
      else nodeUnless handles [.documentStart, .documentEnd, .textEnd] true false fuel r.next
    ensureLast r
    return (some root, r.named)
  | _ =>
    let (root, r) ← node commonHandles true false fuel ⟨ts, [], known, 0⟩
    ensureLast r
    return (some root, r.named)

/-- The root of the only document, if there is one.  Names that are used within their own nodes
stand there for the nodes as they were read before, so that reading again goes one level
deeper. -/
def document? (ts : List Token) : Except Failure (Option Node) := do
  let (root, named) ← documentKnowing [] ts
  if named.isEmpty then return root
  let (_, named) ← documentKnowing named ts
  return (← documentKnowing named ts).1

end ScriptHost.Yaml
