import RemoteSigning.Text.CodePoint

/-!
# Binary floating point numbers of 64 bits

A number is a sign, a significand of at most 53 bits and a power of two, or an infinity, or no number at all. Numbers
come from ratios of natural numbers, rounded to the nearest number, a tie to the even significand.

- `Binary64.ofRatio` is the number for a ratio, `Binary64.roundHalfEven` rounds one to an integer.
-/

namespace RemoteSigning

/-- A number of 64 bits: the value of `finite` is `significand * 2 ^ exponent`, with its sign. -/
inductive Binary64 where
  | nan
  | infinite (negative : Bool)
  | finite (negative : Bool) (significand : Nat) (exponent : Int)
  deriving DecidableEq, Repr

namespace Binary64

/-- Zero, with a sign. -/
def zero (negative : Bool) : Binary64 := .finite negative 0 (-1074)

/-- The natural number nearest to a ratio, of two the even one. -/
def roundHalfEven (num den : Nat) : Nat :=
  let q := num / den
  let r := num % den
  if 2 * r < den then q
  else if 2 * r > den then q + 1
  else if q % 2 = 0 then q else q + 1

/-- A ratio times a power of two, as a ratio. -/
def scale (num den : Nat) (exponent : Int) : Nat × Nat :=
  match exponent with
  | .ofNat n => (num <<< n, den)
  | .negSucc n => (num, den <<< (n + 1))

/-- A power of two at most the ratio: its exponent, or one less. -/
def exponentBelow (num den : Nat) : Int :=
  let e : Int := num.log2 - den.log2
  let (n, d) := scale num den (-e)
  if n < d then e - 1 else e

/-- The number nearest to a ratio of natural numbers. -/
def ofRatio (negative : Bool) (num den : Nat) : Binary64 :=
  if num = 0 then zero negative
  else
    let q : Int := max (exponentBelow num den - 52) (-1074)
    let (n, d) := scale num den (-q)
    let m := roundHalfEven n d
    let (m, q) := if m = 1 <<< 53 then (1 <<< 52, q + 1) else (m, q)
    if q > 971 then .infinite negative else .finite negative m q

/-- The number nearest to `digits * 10 ^ exponent`. Exponents out of reach are not multiplied out. -/
def ofDecimal (negative : Bool) (digits : Nat) (exponent : Int) : Binary64 :=
  if digits = 0 then zero negative
  else if exponent > 400 then .infinite negative
  else if exponent + digits.log2 / 3 < -400 then zero negative
  else match exponent with
    | .ofNat n => ofRatio negative (digits * Nat.pow 10 n) 1
    | .negSucc n => ofRatio negative digits (Nat.pow 10 (n + 1))

/-- The number nearest to an integer. -/
def ofInt (n : Int) : Binary64 := ofRatio (n < 0) n.natAbs 1

/-- The number is greater than zero. -/
def isPositive : Binary64 → Bool
  | .nan => false
  | .infinite negative => !negative
  | .finite negative m _ => !negative && m != 0

/-- The integer that the number is, if it is one. -/
def toInt? : Binary64 → Option Int
  | .finite negative m q =>
    let (n, d) := scale m 1 q
    if n % d = 0 then some (if negative then -(n / d : Nat) else (n / d : Nat)) else none
  | _ => none

/-- A half is rounded to even, and what lies beyond the greatest number becomes an infinity. -/
example : ofDecimal false 9007199254740993 0 = .finite false (1 <<< 52) 1 ∧
    ofDecimal false 25 0 = .finite false (25 <<< 48) (-48) ∧ ofDecimal false 2 308 = .infinite false ∧
    ofDecimal true 5 (-324) = .finite true 1 (-1074) := by decide +kernel

end Binary64

end RemoteSigning
