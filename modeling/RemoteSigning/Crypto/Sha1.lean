import RemoteSigning.Crypto.Sha2

/-!
# SHA-1

The hash function with which older key files and key bundles are sealed and encrypted. Its words have 32 bits, the most
significant byte first.

- `Sha1.digest` is the digest of a message.
-/

namespace RemoteSigning.Sha1

/-- Rotation to the left. -/
@[inline] def rotate (x n : UInt32) : UInt32 := (x <<< n) ||| (x >>> (32 - n))

/-- The five words between two blocks. -/
structure State where
  a : UInt32
  b : UInt32
  c : UInt32
  d : UInt32
  e : UInt32
  deriving DecidableEq, Repr

/-- Where the function begins. -/
def State.initial : State := ⟨0x67452301, 0xefcdab89, 0x98badcfe, 0x10325476, 0xc3d2e1f0⟩

/-- What a round mixes, with the constant of its quarter. -/
def State.mixed (s : State) (i : Nat) : UInt32 :=
  if i < 20 then ((s.b &&& s.c) ||| (~~~ s.b &&& s.d)) + 0x5a827999
  else if i < 40 then (s.b ^^^ s.c ^^^ s.d) + 0x6ed9eba1
  else if i < 60 then ((s.b &&& s.c) ||| (s.b &&& s.d) ||| (s.c &&& s.d)) + 0x8f1bbcdc
  else (s.b ^^^ s.c ^^^ s.d) + 0xca62c1d6

/-- A round with its number and its word. -/
def State.round (s : State) (i : Nat) (x : UInt32) : State :=
  ⟨rotate s.a 5 + s.mixed i + s.e + x, s.a, rotate s.b 30, s.c, s.d⟩

/-- The sixteen words of a block, drawn out to eighty. -/
def schedule (block : Array UInt32) : Array UInt32 :=
  Nat.fold 64 (fun i _ ws =>
    ws.push (rotate (ws.getD (i + 13) 0 ^^^ ws.getD (i + 8) 0 ^^^ ws.getD (i + 2) 0 ^^^ ws.getD i 0) 1)) block

/-- Takes a block of sixteen words into a state. -/
def State.compress (s : State) (block : Array UInt32) : State :=
  let ws := schedule block
  let r := Nat.fold 80 (fun i _ r => State.round r i (ws.getD i 0)) s
  ⟨s.a + r.a, s.b + r.b, s.c + r.c, s.d + r.d, s.e + r.e⟩

def wordsOf : Bytes → List UInt32
  | a :: b :: c :: d :: rest =>
    (a.toUInt32 <<< 24 ||| b.toUInt32 <<< 16 ||| c.toUInt32 <<< 8 ||| d.toUInt32) :: wordsOf rest
  | _ => []

/-- Takes words into a state; `block` holds the words of the block that is begun. -/
def State.absorb (s : State) (block : Array UInt32) : List UInt32 → State
  | [] => s
  | x :: rest =>
    let block := block.push x
    if block.size = 16 then (s.compress block).absorb #[] rest else s.absorb block rest

/-- What follows a message of so many bytes: a bit, zeros, and the number of bits. -/
def padding (length : Nat) : Bytes :=
  0x80 :: List.replicate ((119 - length % 64) % 64) 0 ++ Sha2.toBytes 8 (8 * length)

def State.toBytes (s : State) : Bytes := [s.a, s.b, s.c, s.d, s.e].flatMap fun x => Sha2.toBytes 4 x.toNat

def digest (message : Bytes) : Bytes :=
  (State.initial.absorb #[] (wordsOf (message ++ padding message.length))).toBytes

/-- The digest of nothing, and that of one letter. -/
example : digest [] = [0xda, 0x39, 0xa3, 0xee, 0x5e, 0x6b, 0x4b, 0x0d, 0x32, 0x55, 0xbf, 0xef, 0x95, 0x60, 0x18, 0x90,
      0xaf, 0xd8, 0x07, 0x09] ∧
    digest [0x61] = [0x86, 0xf7, 0xe4, 0x37, 0xfa, 0xa5, 0xa7, 0xfc, 0xe1, 0x5d, 0x1d, 0xdc, 0xb9, 0xea, 0xea, 0xea,
      0x37, 0x76, 0x67, 0xb8] := by
  decide +kernel

end RemoteSigning.Sha1
