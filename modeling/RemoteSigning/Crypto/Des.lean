import RemoteSigning.Crypto.Cbc

/-!
# DES, as far as key files need it

Old key files are encrypted with DES, once or three times. A block has eight bytes; it is a number of 64 bits, and bits
are counted from the greatest one, beginning with one. Key files are only ever read.

- `Des.decrypter` is what a key of eight bytes does to a block, `Des.tripleDecrypter` what a key of twenty-four does;
- `rounds_reverse`: the rounds are undone by the same rounds, with their keys in the other order.
-/

namespace RemoteSigning.Des

/-- The bits of a number of `width` bits at given places. -/
def permute (places : List Nat) (width n : Nat) : Nat :=
  places.foldl (fun out place => 2 * out + (n >>> (width - place)) % 2) 0

/-- Where the bits of a block come from before the first round. -/
def initialPlaces : List Nat :=
  [58, 50, 42, 34, 26, 18, 10, 2, 60, 52, 44, 36, 28, 20, 12, 4, 62, 54, 46, 38, 30, 22, 14, 6, 64, 56, 48, 40, 32, 24,
   16, 8, 57, 49, 41, 33, 25, 17, 9, 1, 59, 51, 43, 35, 27, 19, 11, 3, 61, 53, 45, 37, 29, 21, 13, 5, 63, 55, 47, 39,
   31, 23, 15, 7]

/-- Where they come from after the last one. -/
def finalPlaces : List Nat :=
  [40, 8, 48, 16, 56, 24, 64, 32, 39, 7, 47, 15, 55, 23, 63, 31, 38, 6, 46, 14, 54, 22, 62, 30, 37, 5, 45, 13, 53, 21,
   61, 29, 36, 4, 44, 12, 52, 20, 60, 28, 35, 3, 43, 11, 51, 19, 59, 27, 34, 2, 42, 10, 50, 18, 58, 26, 33, 1, 41, 9,
   49, 17, 57, 25]

/-- The bits of half a block, drawn out to the size of a round key. -/
def expansion : List Nat :=
  [32, 1, 2, 3, 4, 5, 4, 5, 6, 7, 8, 9, 8, 9, 10, 11, 12, 13, 12, 13, 14, 15, 16, 17, 16, 17, 18, 19, 20, 21, 20, 21, 22,
   23, 24, 25, 24, 25, 26, 27, 28, 29, 28, 29, 30, 31, 32, 1]

/-- Where the bits of half a block go at the end of a round. -/
def roundPlaces : List Nat :=
  [16, 7, 20, 21, 29, 12, 28, 17, 1, 15, 23, 26, 5, 18, 31, 10, 2, 8, 24, 14, 32, 27, 3, 9, 19, 13, 30, 6, 22, 11, 4, 25]

/-- The bits of a key that count: all but the last one of each byte. -/
def keyPlaces : List Nat :=
  [57, 49, 41, 33, 25, 17, 9, 1, 58, 50, 42, 34, 26, 18, 10, 2, 59, 51, 43, 35, 27, 19, 11, 3, 60, 52, 44, 36, 63, 55,
   47, 39, 31, 23, 15, 7, 62, 54, 46, 38, 30, 22, 14, 6, 61, 53, 45, 37, 29, 21, 13, 5, 28, 20, 12, 4]

/-- The bits of a round key among them. -/
def roundKeyPlaces : List Nat :=
  [14, 17, 11, 24, 1, 5, 3, 28, 15, 6, 21, 10, 23, 19, 12, 4, 26, 8, 16, 7, 27, 20, 13, 2, 41, 52, 31, 37, 47, 55, 30,
   40, 51, 45, 33, 48, 44, 49, 39, 56, 34, 53, 46, 42, 50, 36, 29, 32]

/-- How far the halves of the key are rotated before each round. -/
def rotations : List Nat := [1, 1, 2, 2, 2, 2, 2, 2, 1, 2, 2, 2, 2, 2, 2, 1]

/-- The substitutions of six bits by four, one for each sixth of a round key, four rows of sixteen each. -/
def substitutions : Array (Array Nat) := #[
  #[14, 4, 13, 1, 2, 15, 11, 8, 3, 10, 6, 12, 5, 9, 0, 7, 0, 15, 7, 4, 14, 2, 13, 1, 10, 6, 12, 11, 9, 5, 3, 8,
    4, 1, 14, 8, 13, 6, 2, 11, 15, 12, 9, 7, 3, 10, 5, 0, 15, 12, 8, 2, 4, 9, 1, 7, 5, 11, 3, 14, 10, 0, 6, 13],
  #[15, 1, 8, 14, 6, 11, 3, 4, 9, 7, 2, 13, 12, 0, 5, 10, 3, 13, 4, 7, 15, 2, 8, 14, 12, 0, 1, 10, 6, 9, 11, 5,
    0, 14, 7, 11, 10, 4, 13, 1, 5, 8, 12, 6, 9, 3, 2, 15, 13, 8, 10, 1, 3, 15, 4, 2, 11, 6, 7, 12, 0, 5, 14, 9],
  #[10, 0, 9, 14, 6, 3, 15, 5, 1, 13, 12, 7, 11, 4, 2, 8, 13, 7, 0, 9, 3, 4, 6, 10, 2, 8, 5, 14, 12, 11, 15, 1,
    13, 6, 4, 9, 8, 15, 3, 0, 11, 1, 2, 12, 5, 10, 14, 7, 1, 10, 13, 0, 6, 9, 8, 7, 4, 15, 14, 3, 11, 5, 2, 12],
  #[7, 13, 14, 3, 0, 6, 9, 10, 1, 2, 8, 5, 11, 12, 4, 15, 13, 8, 11, 5, 6, 15, 0, 3, 4, 7, 2, 12, 1, 10, 14, 9,
    10, 6, 9, 0, 12, 11, 7, 13, 15, 1, 3, 14, 5, 2, 8, 4, 3, 15, 0, 6, 10, 1, 13, 8, 9, 4, 5, 11, 12, 7, 2, 14],
  #[2, 12, 4, 1, 7, 10, 11, 6, 8, 5, 3, 15, 13, 0, 14, 9, 14, 11, 2, 12, 4, 7, 13, 1, 5, 0, 15, 10, 3, 9, 8, 6,
    4, 2, 1, 11, 10, 13, 7, 8, 15, 9, 12, 5, 6, 3, 0, 14, 11, 8, 12, 7, 1, 14, 2, 13, 6, 15, 0, 9, 10, 4, 5, 3],
  #[12, 1, 10, 15, 9, 2, 6, 8, 0, 13, 3, 4, 14, 7, 5, 11, 10, 15, 4, 2, 7, 12, 9, 5, 6, 1, 13, 14, 0, 11, 3, 8,
    9, 14, 15, 5, 2, 8, 12, 3, 7, 0, 4, 10, 1, 13, 11, 6, 4, 3, 2, 12, 9, 5, 15, 10, 11, 14, 1, 7, 6, 0, 8, 13],
  #[4, 11, 2, 14, 15, 0, 8, 13, 3, 12, 9, 7, 5, 10, 6, 1, 13, 0, 11, 7, 4, 9, 1, 10, 14, 3, 5, 12, 2, 15, 8, 6,
    1, 4, 11, 13, 12, 3, 7, 14, 10, 15, 6, 8, 0, 5, 9, 2, 6, 11, 13, 8, 1, 4, 10, 7, 9, 5, 0, 15, 14, 2, 3, 12],
  #[13, 2, 8, 4, 6, 15, 11, 1, 10, 9, 3, 14, 5, 0, 12, 7, 1, 15, 13, 8, 10, 3, 7, 4, 12, 5, 6, 11, 0, 14, 9, 2,
    7, 11, 4, 1, 9, 12, 14, 2, 0, 6, 10, 13, 15, 3, 5, 8, 2, 1, 14, 7, 4, 10, 8, 13, 15, 12, 9, 0, 3, 5, 6, 11]]

/-- Half of a key, rotated to the left. -/
def rotateHalf (n half : Nat) : Nat := (half <<< n) % (1 <<< 28) ||| half >>> (28 - n)

/-- The round keys of two halves, first round first. -/
def roundKeysFrom : List Nat → Nat → Nat → List Nat
  | [], _, _ => []
  | n :: rest, left, right =>
    let left := rotateHalf n left
    let right := rotateHalf n right
    permute roundKeyPlaces 56 (left <<< 28 ||| right) :: roundKeysFrom rest left right

def roundKeys (key : Bytes) : List Nat :=
  let k := permute keyPlaces 64 (Sha2.ofBytes key)
  roundKeysFrom rotations (k >>> 28) (k % (1 <<< 28))

/-- The substitution of six bits: the outer two choose the row, the others the place in it. -/
def substitute (box six : Nat) : Nat :=
  let row := six / 32 * 2 + six % 2
  ((substitutions.getD box #[]).getD (row * 16 + six / 2 % 16) 0)

/-- What a round does to half a block. -/
def mix (key half : Nat) : Nat :=
  let x := permute expansion 32 half ^^^ key
  permute roundPlaces 32 ((List.range 8).foldl (fun out i => out * 16 + substitute i (x >>> (42 - 6 * i) % 64)) 0)

/-- The rounds on the two halves of a block. -/
def rounds : List Nat → Nat → Nat → Nat × Nat
  | [], left, right => (left, right)
  | k :: rest, left, right => rounds rest right (left ^^^ mix k right)

theorem rounds_append (ks₁ ks₂ : List Nat) (left right : Nat) :
    rounds (ks₁ ++ ks₂) left right = rounds ks₂ (rounds ks₁ left right).1 (rounds ks₁ left right).2 := by
  induction ks₁ generalizing left right with
  | nil => rfl
  | cons k rest ih => simp only [List.cons_append, rounds]; exact ih _ _

theorem rounds_reverse (keys : List Nat) (left right : Nat) :
    rounds keys.reverse (rounds keys left right).2 (rounds keys left right).1 = (right, left) := by
  induction keys generalizing left right with
  | nil => rfl
  | cons k rest ih =>
    simp only [List.reverse_cons, rounds, rounds_append, ih]
    rw [Nat.xor_assoc, Nat.xor_self, Nat.xor_zero]

def cryptBlock (keys : List Nat) (block : Nat) : Nat :=
  let b := permute initialPlaces 64 block
  let (left, right) := rounds keys (b >>> 32) (b % (1 <<< 32))
  permute finalPlaces 64 (right <<< 32 ||| left)

/-- What a key of eight bytes undoes. -/
def decrypter (key : Bytes) : Bytes → Bytes :=
  let keys := (roundKeys key).reverse
  fun block => Sha2.toBytes 8 (cryptBlock keys (Sha2.ofBytes block))

/-- What a key of twenty-four bytes undoes: it was applied in three parts, the middle one backwards. -/
def tripleDecrypter (key : Bytes) : Bytes → Bytes :=
  let first := (roundKeys (key.take 8)).reverse
  let second := roundKeys ((key.drop 8).take 8)
  let third := (roundKeys (key.drop 16)).reverse
  fun block => Sha2.toBytes 8 (cryptBlock first (cryptBlock second (cryptBlock third (Sha2.ofBytes block))))

/-- A block, and what it was before. -/
example : cryptBlock (roundKeys [0x13, 0x34, 0x57, 0x79, 0x9B, 0xBC, 0xDF, 0xF1]) 0x0123456789ABCDEF =
    0x85E813540F0AB405 := by decide +kernel

end RemoteSigning.Des
