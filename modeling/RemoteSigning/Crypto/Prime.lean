import RemoteSigning.Crypto.Modular

/-!
# Primes and groups

Numbers that keys are made of are tested with the strong test to a number of bases; a composite number that passes it to
all of them is not known.

- `isPrime` is the test;
- `isAgreementGroup` says whether a prime and a base make a group for the agreement on keys.
-/

namespace RemoteSigning

/-- The bases of the strong test, the primes below a hundred. -/
def primeBases : List Nat :=
  [2, 3, 5, 7, 11, 13, 17, 19, 23, 29, 31, 37, 41, 43, 47, 53, 59, 61, 67, 71, 73, 79, 83, 89, 97]

/-- One of `x`, its square, the square of that and so on, `count` numbers, is `n - 1`. -/
def reachesMinusOne (n : Nat) : Nat → Nat → Bool
  | 0, _ => false
  | count + 1, x => x = n - 1 || reachesMinusOne n count (x * x % n)

/-- How often two divides a number; `fuel` bounds the count. -/
def twosIn : Nat → Nat → Nat
  | 0, _ => 0
  | fuel + 1, n => if n % 2 = 0 && n ≠ 0 then twosIn fuel (n / 2) + 1 else 0

/-- An odd number passes the strong test to a base. -/
def passesStrongTest (n base : Nat) : Bool :=
  let twos := twosIn (n.log2 + 1) (n - 1)
  let x := powMod base ((n - 1) >>> twos) n
  x = 1 || reachesMinusOne n twos x

/-- A number is prime. -/
def isPrime (n : Nat) : Bool :=
  if n < 2 then false
  else if primeBases.contains n then true
  else if primeBases.any fun p => n % p = 0 then false
  else primeBases.all (passesStrongTest n)

def bitLength (n : Nat) : Nat := if n = 0 then 0 else n.log2 + 1

/-- A prime of a usual size and a base make a group for the agreement on keys. Where the order of the group is not
written, half of the prime has to be prime too. -/
def isAgreementGroup (p : Nat) (q : Option Nat) (g : Nat) : Bool :=
  512 ≤ bitLength p && bitLength p ≤ 10000 && p % 2 = 1 && 1 < g && g + 1 < p && isPrime p &&
    match q with
    | none => isPrime (p / 2)
    | some q => q < p && isPrime q && (p - 1) % q = 0 && powMod g q p = 1

example : (List.range 30).filter isPrime = [2, 3, 5, 7, 11, 13, 17, 19, 23, 29] := by decide +kernel
example : isPrime (101 * 103) = false ∧ isPrime 10007 = true := by decide +kernel

end RemoteSigning
