import RemoteSigning.Crypto.Hmac

/-!
# Chained blocks

A block cipher encrypts texts of any length by chaining: each block is combined with the one before it was encrypted, the
first one with an initial block. The last block is filled up, and each byte of the filling counts them.

- `Cbc.decrypt?` decrypts whole blocks and takes the filling off;
- `unpad?_pad`: what padding adds, `unpad?` takes away.
-/

namespace RemoteSigning.Cbc

/-- Bytes in groups of a size, as long as they are complete; `fuel` bounds their number. -/
def groupsOf (size : Nat) : Nat → Bytes → List Bytes
  | 0, _ => []
  | fuel + 1, bs => if bs.length < size || size = 0 then [] else bs.take size :: groupsOf size fuel (bs.drop size)

/-- Blocks that were chained, each combined with the block before it. -/
def unchain (decryptBlock : Bytes → Bytes) (previous : Bytes) : List Bytes → Bytes
  | [] => []
  | block :: rest => xorBytes (decryptBlock block) previous ++ unchain decryptBlock block rest

/-- Fills up the last block, with at least one byte, each byte counting them. -/
def pad (size : Nat) (bs : Bytes) : Bytes :=
  let n := size - bs.length % size
  bs ++ List.replicate n n.toUInt8

/-- Takes the bytes away that fill up the last block. -/
def unpad? (size : Nat) (bs : Bytes) : Option Bytes :=
  match bs.getLast? with
  | none => none
  | some n =>
    let kept := bs.length - n.toNat
    if 1 ≤ n.toNat ∧ n.toNat ≤ size ∧ n.toNat ≤ bs.length ∧ bs.drop kept = List.replicate n.toNat n then
      some (bs.take kept)
    else none

theorem unpad?_pad {size : Nat} (bs : Bytes) (pos : 0 < size) (small : size < 256) :
    unpad? size (pad size bs) = some bs := by
  have hm := Nat.mod_lt bs.length pos
  have hn : (size - bs.length % size).toUInt8.toNat = size - bs.length % size := by
    simp only [Nat.toUInt8, UInt8.toNat_ofNat']; omega
  have hlast : (pad size bs).getLast? = some (size - bs.length % size).toUInt8 := by
    have : size - bs.length % size ≠ 0 := by omega
    simp [pad, List.getLast?_append, List.getLast?_replicate, this]
  unfold unpad?
  rw [hlast]
  simp only [hn, pad, List.length_append, List.length_replicate, Nat.add_sub_cancel, List.drop_left, List.take_left]
  rw [if_pos ⟨by omega, by omega, by omega, trivial⟩]

/-- The text of chained blocks of a size under an initial block, without its filling. -/
def decrypt? (size : Nat) (decryptBlock : Bytes → Bytes) (initial input : Bytes) : Option Bytes :=
  if input.length % size ≠ 0 || input.isEmpty || initial.length ≠ size then none
  else unpad? size (unchain decryptBlock initial (groupsOf size input.length input))

end RemoteSigning.Cbc
