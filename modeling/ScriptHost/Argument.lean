import ScriptHost.Failure
import ScriptHost.Sequence.Supplied

/-!
# Arguments that must be there

The guards of the public operations: an argument, or a property of an argument, that is absent
is refused by its name before anything else happens.

## Main results

* `requireItems_eq_error_iff` — a list argument is refused exactly when it is absent.
-/

namespace ScriptHost

open Sequence (Supplied)

variable {α : Type}

/-- The value of an argument. -/
def requireArgument (name : String) : Option α → Except Failure α
  | some value => .ok value
  | none => .error (.absentArgument name)

/-- The value of a property of an argument. -/
def requireProperty (name property : String) : Option α → Except Failure α
  | some value => .ok value
  | none => .error (.absentProperty name property)

/-- The items of a list argument. -/
def requireItems (name : String) (argument : Supplied α) : Except Failure (List α) :=
  requireArgument name argument.items?

theorem requireItems_eq_error_iff {name : String} {argument : Supplied α} {f : Failure} :
    requireItems name argument = .error f ↔ argument = .absent ∧ f = .absentArgument name := by
  cases argument <;> simp [requireItems, requireArgument, Supplied.items?, eq_comm]

end ScriptHost
