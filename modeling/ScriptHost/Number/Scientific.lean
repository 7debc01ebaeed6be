import ScriptHost.Number.Arithmetic

/-!
# A number of significant digits

Double-precision numbers with a given number of significant digits, a half going to the even
digit: with an exponent always (`scientific`), or only where the number is very small or larger
than its digits (`general`).
-/

namespace ScriptHost.Number.Binary64

/-- `num / den · 10 ^ power`, rounded to a natural. -/
def shifted (num den : Nat) (power : Int) : Nat :=
  match power with
  | .ofNat p => roundDiv (num * tenTo p) den
  | .negSucc p => roundDiv num (den * tenTo (p + 1))

/-- The digits of `num / den` and the exponent of the first of them. -/
def significant (count num den : Nat) : Nat × Int :=
  let first := pointPosition num den - 1
  let n := shifted num den (count - 1 - first)
  if n = tenTo count then (n / 10, first + 1) else (n, first)

/-- Digits with a point behind the first. -/
def leading (ds : List Char) : List Char :=
  match ds with
  | [] => []
  | [d] => [d]
  | d :: rest => d :: '.' :: rest

/-- Digits without the zeros at their end. -/
def withoutZeros (ds : List Char) : List Char := (ds.reverse.dropWhile (· == '0')).reverse

/-- The sign of a number in front of its digits. -/
def withSign (negative : Bool) (cs : List Char) : List Char := if negative then '-' :: cs else cs

/-- The decimals of a double-precision number end before this place; more are zeros. -/
def lastPlace : Nat := 1100

/-- A number with a fixed number of decimals; `keepsPoint` if a point stands even before none. -/
def fixedChars (places : Nat) (keepsPoint : Bool) : Binary64 → List Char
  | finite negative mantissa exponent =>
    let cs := (finite negative mantissa exponent).fixed (min places lastPlace)
    cs.toList ++ List.replicate (places - lastPlace) '0' ++
      (if keepsPoint && places == 0 then ['.'] else [])
  | r => (r.fixed 0).toList

/-- A number with one digit before the point, some behind it, and an exponent; `keepsPoint` if a
point stands even before none. -/
def scientificChars (places : Nat) (keepsPoint : Bool) : Binary64 → List Char
  | finite negative mantissa exponent =>
    let (num, den) := magnitude mantissa exponent
    let kept := min places lastPlace
    let (n, e) := if mantissa = 0 then (0, 0) else significant (kept + 1) num den
    let ds := leading (padded (kept + 1) n) ++ List.replicate (places - lastPlace) '0'
    withSign negative (ds ++ (if keepsPoint && places == 0 then ['.'] else []) ++
      'e' :: exponentText e)
  | r => (r.fixed 0).toList

/-- Digits with a point behind the first `whole` ones; without `isFull`, the zeros at the end are
left out, and the point too if nothing follows it. -/
def pointedAfter (whole : Nat) (isFull : Bool) (ds : List Char) : List Char :=
  let fraction := ds.drop whole
  let fraction := if isFull then fraction else withoutZeros fraction
  ds.take whole ++ (if fraction.isEmpty && !isFull then [] else '.' :: fraction)

/-- A number with a count of significant digits; without `isFull`, zeros at the end of its
fraction are left out. -/
def generalChars (count : Nat) (isFull : Bool) : Binary64 → List Char
  | finite negative mantissa exponent =>
    let count := max count 1
    let kept := min count lastPlace
    let (num, den) := magnitude mantissa exponent
    let (n, e) := if mantissa = 0 then (0, 0) else significant kept num den
    let ds := padded kept n ++ (if isFull then List.replicate (count - kept) '0' else [])
    withSign negative <|
      if e < -4 ∨ (count : Int) ≤ e then pointedAfter 1 isFull ds ++ 'e' :: exponentText e
      else if e < 0 then
        pointedAfter 1 isFull (List.replicate (-e).toNat '0' ++ ds)
      else pointedAfter (e.toNat + 1) isFull ds
  | r => (r.fixed 0).toList

end ScriptHost.Number.Binary64
