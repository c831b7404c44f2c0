import RemoteSigning.Text.CodePoint

/-!
# MD5

The hash function with which old key files draw a key from a password. Its words have 32 bits and are written with their
least significant byte first.

- `Md5.digest` is the digest of a message.
-/

namespace RemoteSigning.Md5

/-- The constants of the rounds: the sines of 1, 2 and so on, without their signs, in units of `2 ^ -32`. -/
def constants : Array UInt32 := #[
  0xd76aa478, 0xe8c7b756, 0x242070db, 0xc1bdceee, 0xf57c0faf, 0x4787c62a, 0xa8304613, 0xfd469501,
  0x698098d8, 0x8b44f7af, 0xffff5bb1, 0x895cd7be, 0x6b901122, 0xfd987193, 0xa679438e, 0x49b40821,
  0xf61e2562, 0xc040b340, 0x265e5a51, 0xe9b6c7aa, 0xd62f105d, 0x02441453, 0xd8a1e681, 0xe7d3fbc8,
  0x21e1cde6, 0xc33707d6, 0xf4d50d87, 0x455a14ed, 0xa9e3e905, 0xfcefa3f8, 0x676f02d9, 0x8d2a4c8a,
  0xfffa3942, 0x8771f681, 0x6d9d6122, 0xfde5380c, 0xa4beea44, 0x4bdecfa9, 0xf6bb4b60, 0xbebfbc70,
  0x289b7ec6, 0xeaa127fa, 0xd4ef3085, 0x04881d05, 0xd9d4d039, 0xe6db99e5, 0x1fa27cf8, 0xc4ac5665,
  0xf4292244, 0x432aff97, 0xab9423a7, 0xfc93a039, 0x655b59c3, 0x8f0ccc92, 0xffeff47d, 0x85845dd1,
  0x6fa87e4f, 0xfe2ce6e0, 0xa3014314, 0x4e0811a1, 0xf7537e82, 0xbd3af235, 0x2ad7d2bb, 0xeb86d391]

/-- How far the rounds rotate: four distances for each quarter of them. -/
def rotations : Array UInt32 := #[7, 12, 17, 22, 5, 9, 14, 20, 4, 11, 16, 23, 6, 10, 15, 21]

/-- Rotation to the left. -/
def rotate (x n : UInt32) : UInt32 := (x <<< n) ||| (x >>> (32 - n))

/-- The four words between two blocks. -/
structure State where
  a : UInt32
  b : UInt32
  c : UInt32
  d : UInt32
  deriving DecidableEq, Repr

/-- Where the function begins. -/
def State.initial : State := ⟨0x67452301, 0xefcdab89, 0x98badcfe, 0x10325476⟩

/-- What a round mixes, and which word of the block it takes. -/
def State.mixed (s : State) (i : Nat) : UInt32 × Nat :=
  if i < 16 then ((s.b &&& s.c) ||| (~~~ s.b &&& s.d), i)
  else if i < 32 then ((s.d &&& s.b) ||| (~~~ s.d &&& s.c), (5 * i + 1) % 16)
  else if i < 48 then (s.b ^^^ s.c ^^^ s.d, (3 * i + 5) % 16)
  else (s.c ^^^ (s.b ||| ~~~ s.d), 7 * i % 16)

def State.round (block : Array UInt32) (s : State) (i : Nat) : State :=
  let (f, g) := s.mixed i
  let x := s.a + f + constants.getD i 0 + block.getD g 0
  ⟨s.d, s.b + rotate x (rotations.getD (i / 16 * 4 + i % 4) 0), s.b, s.c⟩

/-- Takes a block of sixteen words into a state. -/
def State.compress (s : State) (block : Array UInt32) : State :=
  let r := (List.range 64).foldl (State.round block) s
  ⟨s.a + r.a, s.b + r.b, s.c + r.c, s.d + r.d⟩

def wordsOf : Bytes → List UInt32
  | a :: b :: c :: d :: rest =>
    (a.toUInt32 ||| b.toUInt32 <<< 8 ||| c.toUInt32 <<< 16 ||| d.toUInt32 <<< 24) :: wordsOf rest
  | _ => []

/-- The bytes of a number of `width` bytes. -/
def bytesOf : Nat → Nat → Bytes
  | 0, _ => []
  | width + 1, n => n.toUInt8 :: bytesOf width (n / 256)

/-- What follows a message of so many bytes: a bit, zeros, and the number of bits. -/
def padding (length : Nat) : Bytes := 0x80 :: List.replicate ((119 - length % 64) % 64) 0 ++ bytesOf 8 (8 * length)

/-- Takes words into a state; `block` holds the words of the block that is begun. -/
def State.absorb (s : State) (block : Array UInt32) : List UInt32 → State
  | [] => s
  | w :: rest =>
    let block := block.push w
    if block.size = 16 then (s.compress block).absorb #[] rest else s.absorb block rest

def digest (message : Bytes) : Bytes :=
  let s := State.initial.absorb #[] (wordsOf (message ++ padding message.length))
  [s.a, s.b, s.c, s.d].flatMap fun w => bytesOf 4 w.toNat

/-- The digest of nothing, and that of one letter. -/
example : digest [] = [0xd4, 0x1d, 0x8c, 0xd9, 0x8f, 0x00, 0xb2, 0x04, 0xe9, 0x80, 0x09, 0x98, 0xec, 0xf8, 0x42, 0x7e] ∧
    digest [0x61] =
      [0x0c, 0xc1, 0x75, 0xb9, 0xc0, 0xf1, 0xb6, 0xa8, 0x31, 0xc3, 0x99, 0xe2, 0x69, 0x77, 0x26, 0x61] := by
  decide +kernel

end RemoteSigning.Md5
