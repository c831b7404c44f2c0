import RemoteSigning.Crypto.Cbc
import RemoteSigning.Crypto.PasswordKey

/-!
# Keys that take much memory to draw

A key is drawn from a password through a long row of blocks that has to be kept, because later blocks choose among
earlier ones.

- `scrypt?` draws a key, where the numbers of the row, of the size of its blocks and of the rows are usable.
-/

namespace RemoteSigning

namespace Scrypt

/-- Rotation to the left. -/
@[inline] def rotate (x n : UInt32) : UInt32 := (x <<< n) ||| (x >>> (32 - n))

/-- Mixes four of the sixteen words of a block. -/
def quarter (x : Array UInt32) (a b c d : Nat) : Array UInt32 :=
  let look (x : Array UInt32) (i : Nat) : UInt32 := x.getD i 0
  let x := x.setIfInBounds b (look x b ^^^ rotate (look x a + look x d) 7)
  let x := x.setIfInBounds c (look x c ^^^ rotate (look x b + look x a) 9)
  let x := x.setIfInBounds d (look x d ^^^ rotate (look x c + look x b) 13)
  x.setIfInBounds a (look x a ^^^ rotate (look x d + look x c) 18)

/-- Mixes the columns and then the rows of a block. -/
def doubleRound (x : Array UInt32) : Array UInt32 :=
  let x := quarter (quarter (quarter (quarter x 0 4 8 12) 5 9 13 1) 10 14 2 6) 15 3 7 11
  quarter (quarter (quarter (quarter x 0 1 2 3) 5 6 7 4) 10 11 8 9) 15 12 13 14

/-- Two blocks combined word by word. -/
def combine (x y : Array UInt32) : Array UInt32 := x.zipWith (· ^^^ ·) y

/-- Mixes a block of sixteen words in eight rounds, and adds what it was. -/
def mixBlock (x : Array UInt32) : Array UInt32 :=
  (doubleRound (doubleRound (doubleRound (doubleRound x)))).zipWith (· + ·) x

/-- Mixes `2 r` blocks of sixteen words, each with the one before it; those at even places come first. -/
def mixBlocks (r : Nat) (b : Array UInt32) : Array UInt32 :=
  let (_, even, odd) := Nat.fold (2 * r)
    (fun i _ (s : Array UInt32 × Array UInt32 × Array UInt32) =>
      let x := mixBlock (combine s.1 (b.extract (16 * i) (16 * i + 16)))
      if i % 2 = 0 then (x, s.2.1 ++ x, s.2.2) else (x, s.2.1, s.2.2 ++ x))
    (b.extract (32 * r - 16) (32 * r), #[], #[])
  even ++ odd

/-- Mixes blocks `n` times and keeps them all, and then `n` times more, each time with one of those that were kept. -/
def mixRow (r n : Nat) (b : Array UInt32) : Array UInt32 :=
  let (x, kept) := Nat.fold n (fun _ _ (s : Array UInt32 × Array (Array UInt32)) => (mixBlocks r s.1, s.2.push s.1))
    (b, #[])
  Nat.fold n (fun _ _ x =>
    let low := (x.getD (32 * r - 16) 0).toNat + (x.getD (32 * r - 15) 0).toNat * (1 <<< 32)
    mixBlocks r (combine x (kept.getD (low % n) #[]))) x

/-- The bytes of words, the least significant byte first. -/
def bytesOf (x : Array UInt32) : Bytes := x.toList.flatMap fun w => Md5.bytesOf 4 w.toNat

/-- A number is a power of two and greater than one. -/
def isRowLength (n : Nat) : Bool := 1 < n && n &&& (n - 1) = 0

end Scrypt

/-- A key of `size` bytes from a password and a salt, through rows of `n` blocks of `r` double blocks each. -/
def scrypt? (password salt : Bytes) (n r p size : Nat) : Option Bytes :=
  if ! Scrypt.isRowLength n || r = 0 || p = 0 then none
  else
    let d : Digest := .sha2 .sha256
    let blocks := Cbc.groupsOf (128 * r) p (pbkdf2 d password salt 1 (128 * r * p))
    let mixed := blocks.flatMap fun b => Scrypt.bytesOf (Scrypt.mixRow r n (Md5.wordsOf b).toArray)
    some (pbkdf2 d password mixed 1 size)

end RemoteSigning
