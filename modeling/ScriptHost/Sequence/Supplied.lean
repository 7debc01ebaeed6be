/-!
# Arguments that may be one item or many

Where a list is expected, a caller may leave the argument out, hand over one item, or hand over
any collection.  `Supplied` keeps the form of the argument, and `Supplied.toList` is the list
it stands for.
-/

namespace ScriptHost.Sequence

/-- An argument that stands for a list of items. -/
inductive Supplied (α : Type) where
  /-- Nothing was handed over. -/
  | absent
  /-- One item by itself. -/
  | single (item : α)
  /-- A list. -/
  | list (items : List α)
  /-- Another collection, which is read once. -/
  | collection (items : List α)
  deriving Repr, DecidableEq

namespace Supplied

variable {α : Type}

/-- The items of an argument. -/
def toList : Supplied α → List α
  | absent => []
  | single item => [item]
  | list items => items
  | collection items => items

/-- Whether the argument itself is the list of its items. -/
def isList : Supplied α → Bool
  | list _ => true
  | _ => false

/-- The items of an argument that must not be left out. -/
def items? : Supplied α → Option (List α)
  | absent => none
  | supplied => some supplied.toList

end Supplied

end ScriptHost.Sequence
