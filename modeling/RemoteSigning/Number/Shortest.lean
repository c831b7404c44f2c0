import RemoteSigning.Number.Binary64

/-!
# The shortest decimal text of a number

A number is written with the fewest digits that read back as the same number, of several such decimals with the one
nearest to it. The digits stand in positional notation when the first of them lies between the fourth place after the
point and the sixteenth before it, else in front of a power of ten.

- `Interval`: the reals that are read back as a number;
- `digits?` looks for a decimal of that many digits inside;
- `Binary64.text` is the text.
-/

namespace RemoteSigning.Binary64

/-- The reals that round to a number, and the number, over a common denominator. -/
structure Interval where
  low : Nat
  value : Nat
  high : Nat
  den : Nat
  /-- The two ends round to the number, too. -/
  closed : Bool

/-- The reals that round to `m * 2 ^ q`; below a power of two they are packed twice as densely. -/
def interval (m : Nat) (q : Int) : Interval :=
  let below := if m = 1 <<< 52 ∧ q > -1074 then 1 else 2
  let (value, den) := scale (4 * m) 1 (q - 2)
  let unit := (scale 1 1 (q - 2)).1
  ⟨value - below * unit, value, value + 2 * unit, den, m % 2 = 0⟩

/-- A fraction `num / den` rounds to the number. -/
def Interval.contains (i : Interval) (num den : Nat) : Bool :=
  if i.closed then i.low * den ≤ num * i.den && num * i.den ≤ i.high * den
  else i.low * den < num * i.den && num * i.den < i.high * den

/-- Ten to an integer, as a ratio. -/
def tenPow : Int → Nat × Nat
  | .ofNat n => (Nat.pow 10 n, 1)
  | .negSucc n => (1, Nat.pow 10 (n + 1))

/-- The exponent of the first decimal digit of a positive ratio: an estimate, corrected at most `fuel` times. -/
def firstPlace (num den : Nat) : Nat → Int → Int
  | 0, e => e
  | fuel + 1, e =>
    let (p, r) := tenPow e
    if num * r < p * den then firstPlace num den fuel (e - 1)
    else if num * r ≥ p * 10 * den then firstPlace num den fuel (e + 1)
    else e

/-- A decimal in the interval on the grid of `10 ^ place`: of the two neighbours of the value the nearer one that is
inside. -/
def Interval.onGrid? (i : Interval) (place : Int) : Option Nat :=
  let (p, r) := tenPow place
  let a := i.value * r / (i.den * p)
  let inside (n : Nat) : Bool := i.contains (n * p) r
  match inside a, inside (a + 1) with
  | true, true =>
    -- twice the distance of the value from `a`, against one step of the grid
    let twice := 2 * (i.value * r - a * (i.den * p))
    if twice < i.den * p then some a
    else if twice > i.den * p then some (a + 1)
    else some (if a % 2 = 0 then a else a + 1)
  | true, false => some a
  | false, true => some (a + 1)
  | false, false => none

/-- The first grid with a decimal in the interval, from coarse to fine, and the decimal. -/
def Interval.coarsest (i : Interval) : Nat → Int → Nat × Int
  | 0, place => (i.value, place)
  | fuel + 1, place =>
    match i.onGrid? place with
    | some n => (n, place)
    | none => i.coarsest fuel (place - 1)

/-- The shortest decimal of a positive number: digits, and the place of the last one. -/
def shortest (m : Nat) (q : Int) : Nat × Int :=
  let i := interval m q
  let estimate : Int := ((m.log2 : Int) + q) * 30103 / 100000
  i.coarsest 18 (firstPlace i.value i.den 8 estimate)

/-- Digits with a point after the first `whole` of them; at least one digit stands on each side. -/
def positional (digits : List Char) (whole : Int) : String :=
  if whole ≤ 0 then "0." ++ String.ofList (List.replicate whole.natAbs '0' ++ digits)
  else
    let n := whole.toNat
    if digits.length ≤ n then String.ofList (digits ++ List.replicate (n - digits.length) '0') ++ ".0"
    else String.ofList (digits.take n) ++ "." ++ String.ofList (digits.drop n)

/-- Digits with a point after the first, and a power of ten of at least two digits. -/
def scientific (digits : List Char) (exponent : Int) : String :=
  let power := toString exponent.natAbs
  String.ofList (digits.take 1) ++ (if digits.length > 1 then "." ++ String.ofList (digits.drop 1) else "") ++ "e" ++
    (if exponent < 0 then "-" else "+") ++ (if power.length < 2 then "0" ++ power else power)

/-- A positive number in its shortest form. -/
def positiveText (m : Nat) (q : Int) : String :=
  let (n, place) := shortest m q
  let all := Nat.toDigits 10 n
  let digits := (all.reverse.dropWhile (· == '0')).reverse
  let whole : Int := all.length + place
  if -4 < whole ∧ whole ≤ 16 then positional digits whole else scientific digits (whole - 1)

/-- The shortest text of a number; what is no number is `nan`, and the infinities are `inf`. -/
def text : Binary64 → String
  | .nan => "nan"
  | .infinite negative => if negative then "-inf" else "inf"
  | .finite negative m q => (if negative then "-" else "") ++ if m = 0 then "0.0" else positiveText m q

/-- Positional from `0.0001` to below `10 ^ 16`; else a power of ten. -/
example : (ofDecimal false 25 0).text = "25.0" ∧ (ofDecimal false 1 (-4)).text = "0.0001" ∧
    (ofDecimal false 1 (-5)).text = "1e-05" ∧ (ofDecimal false 1 16).text = "1e+16" ∧
    (ofDecimal false 5 (-324)).text = "5e-324" ∧ (ofDecimal true 123456789 (-3)).text = "-123456.789" := by
  decide +kernel

end RemoteSigning.Binary64
