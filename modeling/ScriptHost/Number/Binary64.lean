import ScriptHost.Number.Digits
import ScriptHost.Number.Rounding

/-!
# Binary floating-point numbers, exactly

A number that was measured or written with a fraction is kept as the double-precision number
nearest to it, as an exact value `± mantissa · 2 ^ exponent`.  All arithmetic is on naturals:
rounding to double precision (`ofRatio`), the shortest decimal text that reads back as the
same number (`text`), and a text with a fixed number of decimals (`fixed`), which looks at the
exact binary value, so that `2.675` shows as `2.67`.
-/

namespace ScriptHost.Number

/-- A power of two. -/
def twoTo (k : Nat) : Nat := Nat.pow 2 k

/-- A double-precision number. -/
inductive Binary64 where
  /-- The number `± mantissa · 2 ^ exponent`. -/
  | finite (negative : Bool) (mantissa : Nat) (exponent : Int)
  | infinite (negative : Bool)
  | notANumber
  deriving DecidableEq, Repr, Inhabited

namespace Binary64

/-- `num / den · 2 ^ -exponent` as a fraction of naturals. -/
def scaled (num den : Nat) (exponent : Int) : Nat × Nat :=
  match exponent with
  | .ofNat e => (num, den * twoTo e)
  | .negSucc e => (num * twoTo (e + 1), den)

/-- The exponent with which `num / den` has a mantissa of 53 bits, or the least exponent. -/
def exponentOf (num den : Nat) : Int :=
  let guess : Int := (Nat.log2 num : Int) - (Nat.log2 den : Int) - 52
  let (n, d) := scaled num den guess
  let exponent := if n / d < twoTo 52 then guess - 1 else guess
  max exponent (-1074)

/-- The double-precision number nearest to `num / den`; of two equally near ones the one with
an even mantissa. -/
def ofRatio (negative : Bool) (num den : Nat) : Binary64 :=
  if num = 0 ∨ den = 0 then .finite negative 0 0
  else
    let exponent := exponentOf num den
    let (n, d) := scaled num den exponent
    let mantissa := roundDiv n d
    let (mantissa, exponent) :=
      if mantissa = twoTo 53 then (twoTo 52, exponent + 1) else (mantissa, exponent)
    if exponent > 971 then .infinite negative
    else .finite negative mantissa exponent

/-- The double-precision number nearest to `digits · 10 ^ power`.  A power that is far out of
range is not computed: what it makes of the digits is infinity or zero. -/
def ofDecimal (negative : Bool) (digits : Nat) (power : Int) : Binary64 :=
  if digits = 0 then .finite negative 0 0
  else if power > 400 then .infinite negative
  else if power + Nat.log2 digits < -400 then .finite negative 0 0
  else
    match power with
    | .ofNat p => ofRatio negative (digits * tenTo p) 1
    | .negSucc p => ofRatio negative digits (tenTo (p + 1))

/-- The absolute value of a finite number as a fraction. -/
def magnitude (mantissa : Nat) (exponent : Int) : Nat × Nat :=
  match exponent with
  | .ofNat e => (mantissa * twoTo e, 1)
  | .negSucc e => (mantissa, twoTo (e + 1))

/-- Whether a number is zero, of either sign. -/
def isZero : Binary64 → Bool
  | finite _ 0 _ => true
  | _ => false

/-- The integer equal to a number, if there is one. -/
def toInt? : Binary64 → Option Int
  | finite negative mantissa exponent =>
    let (num, den) := magnitude mantissa exponent
    if num % den = 0 then some (if negative then -(num / den : Nat) else (num / den : Nat))
    else none
  | _ => none

/-- The largest integer that is not above a number. -/
def floor? : Binary64 → Option Int
  | finite negative mantissa exponent =>
    let (num, den) := magnitude mantissa exponent
    some ((if negative then -(num : Int) else num).fdiv den)
  | _ => none

/-! ## Fixed decimals -/

/-- A natural with a point before its last digits. -/
def pointed (places n : Nat) : List Char :=
  if places = 0 then digits n
  else
    let ds := padded (places + 1) n
    ds.take (ds.length - places) ++ '.' :: ds.drop (ds.length - places)

/-- A number with a fixed number of decimals, rounded from its exact value, a half going to
the even digit. -/
def fixed (places : Nat) : Binary64 → String
  | finite negative mantissa exponent =>
    let (num, den) := magnitude mantissa exponent
    let ds := pointed places (roundDiv (num * tenTo places) den)
    String.ofList (if negative then '-' :: ds else ds)
  | infinite negative => if negative then "-inf" else "inf"
  | notANumber => "nan"

/-! ## Shortest decimals -/

/-- The number of decimal digits before the point of a fraction: the least `k` with
`num / den < 10 ^ k`; negative when zeros follow the point. -/
def pointPosition (num den : Nat) : Int :=
  let up (fuel : Nat) : Nat := ((List.range fuel).find? fun k => num < den * tenTo k).getD fuel
  let down (fuel : Nat) : Nat :=
    ((List.range fuel).find? fun k => ¬ (num * tenTo (k + 1) < den)).getD fuel
  if den ≤ num then (up 400 : Int) else -(down 400 : Int)

/-- Whether the decimal `n · 10 ^ power` rounds to a number with the given mantissa and
exponent: it lies within half a step of it, the ends included if the mantissa is even. -/
def roundsTo (mantissa : Nat) (exponent : Int) (n : Nat) (power : Int) : Bool :=
  -- everything times `4 · 2 ^ (-exponent) · 10 ^ (-power)`, made natural
  let (a, b) := match power with
    | .ofNat p => (n * tenTo p, 1)
    | .negSucc p => (n, tenTo (p + 1))
  let below := if mantissa = twoTo 52 ∧ exponent > -1074 then 1 else 2
  let (num, den) := magnitude 1 exponent
  let value := 4 * a * den
  let low := (4 * mantissa - below) * num * b
  let high := (4 * mantissa + 2) * num * b
  if mantissa % 2 = 0 then low ≤ value && value ≤ high else low < value && value < high

/-- The decimal with `count` digits nearest to a positive number, if it reads back as it. -/
def nearestDecimal? (mantissa : Nat) (exponent : Int) (point : Int) (count : Nat) :
    Option (Nat × Int) :=
  let (num, den) := magnitude mantissa exponent
  let power := point - count
  let (n, d) := match power with
    | .ofNat p => (num, den * tenTo p)
    | .negSucc p => (num * tenTo (p + 1), den)
  let near := roundDiv n d
  let other := if n / d = near then near + 1 else n / d
  if roundsTo mantissa exponent near power then some (near, power)
  else if roundsTo mantissa exponent other power then some (other, power)
  else none

/-- A decimal without trailing zeros among its digits. -/
def trimZeros : Nat → Nat → Int → Nat × Int
  | 0, n, power => (n, power)
  | fuel + 1, n, power =>
    if n ≠ 0 ∧ n % 10 = 0 then trimZeros fuel (n / 10) (power + 1) else (n, power)

/-- The shortest decimal `n · 10 ^ power` that reads back as a positive number. -/
def shortest (mantissa : Nat) (exponent : Int) : Nat × Int :=
  let (num, den) := magnitude mantissa exponent
  let point := pointPosition num den
  let found := (List.range 17).findSome? fun k =>
    nearestDecimal? mantissa exponent point (k + 1)
  let (n, power) := found.getD (0, 0)
  trimZeros 20 n power

/-- The places of an exponent: its sign and at least two digits. -/
def exponentText (e : Int) : List Char :=
  match e with
  | .ofNat n => '+' :: padded 2 n
  | .negSucc n => '-' :: padded 2 (n + 1)

/-- The shortest text that reads back as the number.  It is positional from `10 ^ -4` up to
`10 ^ 16`, with at least one decimal, and has an exponent of at least two digits beyond. -/
def text : Binary64 → String
  | infinite negative => if negative then "-inf" else "inf"
  | notANumber => "nan"
  | finite negative mantissa exponent =>
    let body : List Char :=
      if mantissa = 0 then ['0', '.', '0']
      else
        let (n, power) := shortest mantissa exponent
        let ds := digits n
        let point : Int := ds.length + power
        if -4 < point ∧ point ≤ 16 then
          if point ≤ 0 then '0' :: '.' :: (List.replicate (-point).toNat '0' ++ ds)
          else if ds.length ≤ point.toNat then
            ds ++ List.replicate (point.toNat - ds.length) '0' ++ ['.', '0']
          else ds.take point.toNat ++ '.' :: ds.drop point.toNat
        else
          let lead := ds.take 1
          let tail := ds.drop 1
          lead ++ (if tail.isEmpty then [] else '.' :: tail) ++ 'e' :: exponentText (point - 1)
    String.ofList (if negative then '-' :: body else body)

end Binary64

end ScriptHost.Number
