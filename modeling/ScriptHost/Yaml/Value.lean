import ScriptHost.Yaml.ScalarValue

/-!
# Values of nodes

What the nodes of a YAML text stand for, as loose data.  The keys of a mapping must be single
values; of two equal keys the later counts, at the place of the earlier.  The key `<<` brings in
the entries of other mappings in front of a mapping's own.  A mapping may stand where a single
value is due, if its key `=` gives one.

Values are made level by level: what is within a collection comes after everything beside it.
Of several failures the least deep one is met first, and the first of those.
-/

namespace ScriptHost.Yaml

/-- A value, or the failure that is met first on the way to it and how deep it lies. -/
abbrev Reached (α : Type) := Except (Nat × Failure) α

namespace Reached

variable {α β : Type}

/-- What is reached at once. -/
def here (x : Except Failure α) : Reached α := x.mapError fun f => (0, f)

/-- What is reached one level deeper. -/
def deeper (x : Reached α) : Reached α := x.mapError fun e => (e.1 + 1, e.2)

/-- Two things that are reached together. -/
def both (x : Reached α) (y : Reached β) : Reached (α × β) :=
  match x, y with
  | .ok a, .ok b => .ok (a, b)
  | .error e, .ok _ => .error e
  | .ok _, .error e => .error e
  | .error e, .error later => .error (if later.1 < e.1 then later else e)

/-- One more item in front of others. -/
def cons (x : Reached α) (xs : Reached (List α)) : Reached (List α) :=
  (both x xs).map fun (a, as) => a :: as

/-- Items in front of others. -/
def append (xs ys : Reached (List α)) : Reached (List α) :=
  (both xs ys).map fun (as, bs) => as ++ bs

/-- A node whose value is not well formed. -/
def malformed : Reached α := .error (0, .malformedDocument)

end Reached

/-! ## Entries -/

/-- The entries of a mapping under construction with one more: an equal key is given the new
value where it stands. -/
def putEntry (key : Datum) (value : Datum) :
    List (Datum × Datum) → List (Datum × Datum)
  | [] => [(key, value)]
  | (k, v) :: es => if k.key? = key.key? then (k, value) :: es else (k, v) :: putEntry key value es

/-- The entries of a mapping, each key once. -/
def distinctEntries (entries : List (Datum × Datum)) : List (Datum × Datum) :=
  entries.foldl (fun done e => putEntry e.1 e.2 done) []

/-- The tag of a key: where a mapping's own value stands, the key is a text. -/
def keyTag (tag : Tag) : Tag := if tag = .value then .text else tag

mutual

/-- Whether the entries that merge keys bring in can be had. -/
def mergesWell : List (Node × Node) → Bool
  | [] => true
  | (k, v) :: es => (k.tag != .merge || bringsWell v) && mergesWell es

/-- Whether a node can bring in entries: a mapping, or several. -/
def bringsWell : Node → Bool
  | .mapping _ entries => mergesWell entries
  | .sequence _ items => allBringWell items
  | .scalar .. => false

/-- Whether all of several nodes are mappings that can bring in entries. -/
def allBringWell : List Node → Bool
  | [] => true
  | .mapping _ entries :: ns => mergesWell entries && allBringWell ns
  | _ :: _ => false

end

mutual

/-- The text of a node that stands for a single value. -/
def textOf? : Node → Option String
  | .scalar _ text => some text
  | .mapping _ entries => ownText? entries
  | .sequence .. => none

/-- The text of a mapping's own value. -/
def ownText? : List (Node × Node) → Option String
  | [] => none
  | (k, v) :: es => if k.tag = .value then textOf? v else ownText? es

end

/-- The single value of a mapping. -/
def ownValue (tag : Tag) (entries : List (Node × Node)) : Except Failure Datum :=
  match ownText? entries, tag with
  | none, _ => malformed
  | some _, .moment => .error (.wrongType "expected string or bytes-like object")
  | some text, _ => scalarValue tag text

/-! ## Nodes -/

mutual

/-- The value of a node that counts as one of a tag. -/
def valueAs (tag : Tag) : Node → Reached Datum
  | .scalar _ text =>
    if tag.isCollection then .deeper .malformed else .here (scalarValue tag text)
  | .sequence _ items =>
    match tag with
    | .sequence => .deeper ((valuesOf items).map .list)
    | .orderedMapping | .pairs => .deeper ((pairsOf items).map .list)
    | .mapping | .set => .deeper .malformed
    | _ => .malformed
  | .mapping _ entries =>
    match tag with
    | .mapping => .deeper ((entriesOf entries).map fun es => .dict (distinctEntries es))
    | .set =>
      .deeper ((entriesOf entries).map fun es => .set ((distinctEntries es).map Prod.fst))
    | .sequence | .orderedMapping | .pairs => .deeper .malformed
    | tag => .here (ownValue tag entries)

/-- The values of nodes. -/
def valuesOf : List Node → Reached (List Datum)
  | [] => .ok []
  | n :: ns => .cons (valueAs n.tag n) (valuesOf ns)

/-- The values of mappings with one entry each, as pairs. -/
def pairsOf : List Node → Reached (List Datum)
  | [] => .ok []
  | .mapping _ [(k, v)] :: ns =>
    let pair := (Reached.both (valueAs k.tag k) (valueAs v.tag v)).map fun (key, value) =>
      Datum.tuple [key, value]
    .cons pair (pairsOf ns)
  | _ :: _ => .malformed

/-- The entries of a mapping: those that it brings in, then its own. -/
def entriesOf (entries : List (Node × Node)) : Reached (List (Datum × Datum)) :=
  if mergesWell entries then
    let (brought, own) := partsOf entries
    .append brought own
  else .malformed

/-- The entries that a mapping brings in, and its own. -/
def partsOf : List (Node × Node) →
    Reached (List (Datum × Datum)) × Reached (List (Datum × Datum))
  | [] => (.ok [], .ok [])
  | (k, v) :: es =>
    let (brought, own) := partsOf es
    let tag := keyTag k.tag
    if k.tag = .merge then (.append (broughtBy v) brought, own)
    else if tag.isCollection then (brought, .malformed)
    else (brought, .cons (.both (valueAs tag k) (valueAs v.tag v)) own)

/-- The entries that the value of a merge key brings in: those of a mapping, or of several, of
which the first counts most. -/
def broughtBy : Node → Reached (List (Datum × Datum))
  | .mapping _ entries =>
    let (brought, own) := partsOf entries
    .append brought own
  | .sequence _ items => broughtByAll items
  | .scalar .. => .malformed

/-- The entries of several mappings, the last mapping first. -/
def broughtByAll : List Node → Reached (List (Datum × Datum))
  | [] => .ok []
  | .mapping _ entries :: ns =>
    let (brought, own) := partsOf entries
    .append (broughtByAll ns) (.append brought own)
  | _ :: _ => .malformed

end

/-- The value of a node. -/
def valueOf (n : Node) : Except Failure Datum := (valueAs n.tag n).mapError Prod.snd

/-- The value of a document; a text without a document has none. -/
def read (source : Source) : Except Failure Datum := do
  match ← document? (tokens source) with
  | some root => valueOf root
  | none => return .null

end ScriptHost.Yaml
