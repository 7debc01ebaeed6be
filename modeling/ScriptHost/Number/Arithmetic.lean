import ScriptHost.Number.Binary64

/-!
# Sums and products

Sums and products of double-precision numbers, computed exactly and rounded once.
-/

namespace ScriptHost.Number.Binary64

/-- The double-precision number nearest to an integer. -/
def ofInt (i : Int) : Binary64 := ofRatio (i < 0) i.natAbs 1

/-- The number with the opposite sign. -/
def negated : Binary64 → Binary64
  | finite negative mantissa exponent => finite (!negative) mantissa exponent
  | infinite negative => infinite (!negative)
  | notANumber => notANumber

/-- The product of two numbers. -/
def mul : Binary64 → Binary64 → Binary64
  | finite n m e, finite n' m' e' =>
    let (num, den) := magnitude m e
    let (num', den') := magnitude m' e'
    ofRatio (n != n') (num * num') (den * den')
  | infinite n, infinite n' => infinite (n != n')
  | infinite n, finite n' m _ | finite n m _, infinite n' =>
    if m = 0 then notANumber else infinite (n != n')
  | notANumber, _ | _, notANumber => notANumber

/-- The sum of two numbers. -/
def add : Binary64 → Binary64 → Binary64
  | finite n m e, finite n' m' e' =>
    let (num, den) := magnitude m e
    let (num', den') := magnitude m' e'
    let one : Int := if n then -(num * den' : Nat) else (num * den' : Nat)
    let other : Int := if n' then -(num' * den : Nat) else (num' * den : Nat)
    let sum := one + other
    ofRatio (if sum = 0 then n && n' else sum < 0) sum.natAbs (den * den')
  | infinite n, infinite n' => if n = n' then infinite n else notANumber
  | infinite n, finite .. | finite .., infinite n => infinite n
  | notANumber, _ | _, notANumber => notANumber

end ScriptHost.Number.Binary64
