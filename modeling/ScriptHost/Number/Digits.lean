/-!
# Decimal digits

The decimal digits of a natural, and back.

## Main results

* `natOfDigits_digits` — the digits read back as the number.
-/

namespace ScriptHost.Number

/-- A power of ten. -/
def tenTo (k : Nat) : Nat := Nat.pow 10 k

/-- The character of a decimal digit. -/
def digitChar (n : Nat) : Char := Char.ofNat (0x30 + n % 10)

/-- The decimal digits of a natural in front of others. -/
def digitsOnto (n : Nat) (rest : List Char) : List Char :=
  if n < 10 then digitChar n :: rest
  else digitsOnto (n / 10) (digitChar n :: rest)

/-- The decimal digits of a natural. -/
def digits (n : Nat) : List Char := digitsOnto n []

/-- The decimal text of an integer. -/
def intText (i : Int) : String :=
  match i with
  | .ofNat n => String.ofList (digits n)
  | .negSucc n => String.ofList ('-' :: digits (n + 1))

/-- The decimal text of a natural. -/
def natText (n : Nat) : String := String.ofList (digits n)

/-- The digits of a natural with zeros in front, up to a width. -/
def padded (width n : Nat) : List Char :=
  let ds := digits n
  List.replicate (width - ds.length) '0' ++ ds

/-- The value of a decimal digit. -/
def digitValue? (c : Char) : Option Nat :=
  if '0' ≤ c ∧ c ≤ '9' then some (c.toNat - 0x30) else none

/-- The number that digits spell, continuing from `value`. -/
def natOfDigitsFrom (value : Nat) : List Char → Option Nat
  | [] => some value
  | c :: cs => (digitValue? c).bind fun d => natOfDigitsFrom (10 * value + d) cs

/-- The number that a non-empty row of digits spells. -/
def natOfDigits : List Char → Option Nat
  | [] => none
  | c :: cs => natOfDigitsFrom 0 (c :: cs)

theorem digitValue?_digitChar (n : Nat) : digitValue? (digitChar n) = some (n % 10) := by
  have h : n % 10 < 10 := Nat.mod_lt _ (by decide)
  unfold digitChar
  generalize n % 10 = d at h
  match d, h with
  | 0, _ | 1, _ | 2, _ | 3, _ | 4, _ | 5, _ | 6, _ | 7, _ | 8, _ | 9, _ => decide

theorem natOfDigitsFrom_digitsOnto (n : Nat) (rest : List Char) :
    natOfDigitsFrom 0 (digitsOnto n rest) = natOfDigitsFrom n rest := by
  fun_induction digitsOnto n rest with
  | case1 n rest h =>
    simp [natOfDigitsFrom, digitValue?_digitChar, Nat.mod_eq_of_lt h]
  | case2 n rest h ih =>
    rw [ih]
    simp only [natOfDigitsFrom, digitValue?_digitChar, Option.bind_some]
    rw [Nat.div_add_mod]

theorem digitsOnto_ne_nil (n : Nat) (rest : List Char) : digitsOnto n rest ≠ [] := by
  fun_induction digitsOnto n rest with
  | case1 => simp
  | case2 _ _ _ ih => exact ih

theorem natOfDigits_digits (n : Nat) : natOfDigits (digits n) = some n := by
  have h := natOfDigitsFrom_digitsOnto n []
  have hne := digitsOnto_ne_nil n []
  unfold digits
  cases hd : digitsOnto n [] with
  | nil => exact absurd hd hne
  | cons c cs => rw [natOfDigits, ← hd, h]; rfl

end ScriptHost.Number
