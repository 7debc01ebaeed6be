/-!
# Rounding a quotient

A quotient of naturals rounded to the nearest natural, a half going to the even neighbour.
Every number that this library shortens for display goes through this one function.
-/

namespace ScriptHost.Number

/-- The natural nearest to `num / den`; of two equally near ones the even one. -/
def roundDiv (num den : Nat) : Nat :=
  let quotient := num / den
  let remainder := num % den
  if 2 * remainder < den then quotient
  else if den < 2 * remainder then quotient + 1
  else quotient + quotient % 2

end ScriptHost.Number
