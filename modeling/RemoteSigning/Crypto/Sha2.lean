import RemoteSigning.Text.CodePoint

/-!
# The SHA-2 family

Two families of hash functions, on words of 32 and of 64 bits, each in two lengths. Their constants are bits of the roots
of the first primes, and are computed as such: those of the short words are halves of those of the long ones.

- `HashName` names the four functions, `HashName.digest` computes them;
- `length_toBytes`: a word is written in as many bytes as asked for.
-/

namespace RemoteSigning

/-- A hash function of the SHA-2 family. -/
inductive HashName where
  | sha224
  | sha256
  | sha384
  | sha512
  deriving DecidableEq, Repr, Inhabited

namespace HashName

/-- All of them, from short to long. -/
def all : List HashName := [.sha224, .sha256, .sha384, .sha512]

/-- The number of bits, which is also the number in the name. -/
def bits : HashName → Nat
  | .sha224 => 224
  | .sha256 => 256
  | .sha384 => 384
  | .sha512 => 512

/-- The number of bytes of a digest. -/
def size (h : HashName) : Nat := h.bits / 8

end HashName

namespace Sha2

/-- A number in a fixed number of bytes, the first one the most significant. -/
def toBytes : Nat → Nat → Bytes
  | 0, _ => []
  | width + 1, n => toBytes width (n / 256) ++ [n.toUInt8]

theorem length_toBytes (width n : Nat) : (toBytes width n).length = width := by
  induction width generalizing n with
  | zero => rfl
  | succ w ih => simp [toBytes, ih]

/-- The number that bytes stand for, the first one the most significant. -/
def ofBytes (bs : Bytes) : Nat := bs.foldl (fun n b => n * 256 + b.toNat) 0

/-! ## Constants -/

/-- The primes in ascending order, as many as there are rounds at most. -/
def primes : List Nat := (List.range 410).filter fun n => 2 ≤ n && (List.range n).all fun d => d < 2 || n % d != 0

/-- The greatest number below `2 ^ bits` whose power `k` is at most `n`. -/
def root (k n : Nat) : Nat → Nat → Nat
  | 0, r => r
  | bits + 1, r => root k n bits (if Nat.pow (r + (1 <<< bits)) k ≤ n then r + (1 <<< bits) else r)

/-- The first 64 bits after the point of the root `k` of a number. -/
def fractionOfRoot (k p : Nat) : Nat := root k (p <<< (64 * k)) 72 0 % (1 <<< 64)

/-- One constant per round: bits of the cube roots of the primes. -/
def roundConstants : List Nat := primes.map (fractionOfRoot 3)

/-- Bits of the square roots of the primes. -/
def squareRoots : List Nat := (primes.take 16).map (fractionOfRoot 2)

/-! ## Words -/

/-- What the two families do not share. -/
class Word (w : Type) extends Add w, XorOp w, AndOp w, Complement w, Inhabited w where
  /-- Bytes per word. -/
  bytes : Nat
  ofNat : Nat → w
  toNat : w → Nat
  /-- Mixes the first word of a state. -/
  upper₀ : w → w
  /-- Mixes the fifth word of a state. -/
  upper₁ : w → w
  /-- Mixes the word fifteen places back. -/
  lower₀ : w → w
  /-- Mixes the word two places back. -/
  lower₁ : w → w
  /-- One constant per round. -/
  constants : Array w

/-- Rotation to the right. -/
@[inline] def rotate32 (x : UInt32) (n : UInt32) : UInt32 := (x >>> n) ||| (x <<< (32 - n))

/-- Rotation to the right. -/
@[inline] def rotate64 (x : UInt64) (n : UInt64) : UInt64 := (x >>> n) ||| (x <<< (64 - n))

/-- The constants of 64 rounds: the upper halves. -/
def constants32 : Array UInt32 := ((roundConstants.take 64).map fun n => (n >>> 32).toUInt32).toArray

def constants64 : Array UInt64 := (roundConstants.map Nat.toUInt64).toArray

instance : Word UInt32 where
  bytes := 4
  ofNat := Nat.toUInt32
  toNat := UInt32.toNat
  upper₀ x := rotate32 x 2 ^^^ rotate32 x 13 ^^^ rotate32 x 22
  upper₁ x := rotate32 x 6 ^^^ rotate32 x 11 ^^^ rotate32 x 25
  lower₀ x := rotate32 x 7 ^^^ rotate32 x 18 ^^^ (x >>> 3)
  lower₁ x := rotate32 x 17 ^^^ rotate32 x 19 ^^^ (x >>> 10)
  constants := constants32

instance : Word UInt64 where
  bytes := 8
  ofNat := Nat.toUInt64
  toNat := UInt64.toNat
  upper₀ x := rotate64 x 28 ^^^ rotate64 x 34 ^^^ rotate64 x 39
  upper₁ x := rotate64 x 14 ^^^ rotate64 x 18 ^^^ rotate64 x 41
  lower₀ x := rotate64 x 1 ^^^ rotate64 x 8 ^^^ (x >>> 7)
  lower₁ x := rotate64 x 19 ^^^ rotate64 x 61 ^^^ (x >>> 6)
  constants := constants64

/-! ## The compression function -/

/-- The eight words between two blocks. -/
structure State (w : Type) where
  a : w
  b : w
  c : w
  d : w
  e : w
  f : w
  g : w
  h : w
  deriving DecidableEq, Repr, Inhabited

section
variable {w : Type} [Word w]

def State.words (s : State w) : List w := [s.a, s.b, s.c, s.d, s.e, s.f, s.g, s.h]

/-- One round with a constant and a word of the schedule. -/
@[specialize] def State.round (s : State w) (k x : w) : State w :=
  let t₁ := s.h + Word.upper₁ s.e + ((s.e &&& s.f) ^^^ (~~~ s.e &&& s.g)) + k + x
  let t₂ := Word.upper₀ s.a + ((s.a &&& s.b) ^^^ (s.a &&& s.c) ^^^ (s.b &&& s.c))
  ⟨t₁ + t₂, s.a, s.b, s.c, s.d + t₁, s.e, s.f, s.g⟩

/-- The sixteen words of a block, drawn out to one word per round. -/
@[specialize] def schedule (block : Array w) : Array w :=
  Nat.fold ((Word.constants (w := w)).size - 16) (fun i _ ws =>
    ws.push (Word.lower₁ (ws.getD (i + 14) default) + ws.getD (i + 9) default +
      Word.lower₀ (ws.getD (i + 1) default) + ws.getD i default)) block

/-- Takes a block of sixteen words into a state. -/
@[specialize] def State.compress (s : State w) (block : Array w) : State w :=
  let ws := schedule block
  let r := Nat.fold (Word.constants (w := w)).size (fun i _ r =>
    State.round r ((Word.constants (w := w)).getD i default) (ws.getD i default)) s
  ⟨s.a + r.a, s.b + r.b, s.c + r.c, s.d + r.d, s.e + r.e, s.f + r.f, s.g + r.g, s.h + r.h⟩

/-- Takes bytes into a state, a whole number of blocks; `word` and `room` are the word that is begun and the bytes it
lacks. -/
@[specialize] def State.absorbFrom (s : State w) (block : Array w) (word : Nat) : Nat → Bytes → State w
  | _, [] => s
  | room, b :: rest =>
    let word := word * 256 + b.toNat
    if room ≤ 1 then
      let block := block.push (Word.ofNat word)
      if block.size = 16 then State.absorbFrom (s.compress block) #[] 0 (Word.bytes w) rest
      else State.absorbFrom s block 0 (Word.bytes w) rest
    else State.absorbFrom s block word (room - 1) rest

/-- Takes a whole number of blocks into a state. -/
def State.absorb (s : State w) (bs : Bytes) : State w := s.absorbFrom #[] 0 (Word.bytes w) bs

/-- What follows a message of so many bytes: a bit, zeros, and the number of bits. -/
def padding (w : Type) [Word w] (length : Nat) : Bytes :=
  let block := 16 * Word.bytes w
  let field := 2 * Word.bytes w
  0x80 :: List.replicate ((2 * block - 1 - field - length % block) % block) 0 ++ toBytes field (8 * length)

/-- The state after a message that ends with `tail`, `before` bytes of which are in the state already. -/
def State.finish (s : State w) (before : Nat) (tail : Bytes) : State w :=
  s.absorb (tail ++ padding w (before + tail.length))

/-- The first bytes of a state. -/
def State.toBytes (s : State w) (size : Nat) : Bytes :=
  (s.words.flatMap fun x => Sha2.toBytes (Word.bytes w) (Word.toNat x)).take size

/-- The state with eight numbers. -/
def State.ofList (ns : List Nat) : State w :=
  match ns.map Word.ofNat with
  | [a, b, c, d, e, f, g, h] => ⟨a, b, c, d, e, f, g, h⟩
  | _ => ⟨default, default, default, default, default, default, default, default⟩

end

/-- Where the two functions on short words begin. -/
def initial224 : State UInt32 := .ofList ((squareRoots.drop 8).map (· % (1 <<< 32)))
/-- Where the two functions on short words begin. -/
def initial256 : State UInt32 := .ofList ((squareRoots.take 8).map (· >>> 32))
/-- Where the two functions on long words begin. -/
def initial384 : State UInt64 := .ofList (squareRoots.drop 8)
/-- Where the two functions on long words begin. -/
def initial512 : State UInt64 := .ofList (squareRoots.take 8)

end Sha2

namespace HashName

def digest (h : HashName) (message : Bytes) : Bytes :=
  match h with
  | .sha224 => (Sha2.initial224.finish 0 message).toBytes 28
  | .sha256 => (Sha2.initial256.finish 0 message).toBytes 32
  | .sha384 => (Sha2.initial384.finish 0 message).toBytes 48
  | .sha512 => (Sha2.initial512.finish 0 message).toBytes 64

/-- The bytes that are taken in at once. -/
def blockSize : HashName → Nat
  | .sha224 | .sha256 => 64
  | .sha384 | .sha512 => 128

end HashName

end RemoteSigning
