import RemoteSigning.Crypto.Modular
import RemoteSigning.Crypto.Sha2

/-!
# RSA signatures

- `Rsa.pad?` is the block of type 1 that holds the data to sign, if the modulus leaves room for it;
- `length_pad`: it is as long as the modulus;
- `Rsa.PrivateKey.sign?` applies the private key to it.
-/

namespace RemoteSigning.Rsa

/-- A private key: the modulus and the two exponents. -/
structure PrivateKey where
  modulus : Nat
  publicExponent : Nat
  privateExponent : Nat
  deriving DecidableEq, Repr

/-- The bytes of a modulus. -/
def PrivateKey.size (k : PrivateKey) : Nat := if k.modulus = 0 then 0 else k.modulus.log2 / 8 + 1

/-- Data behind eight or more filling bytes, in a block of a size. -/
def pad? (size : Nat) (data : Bytes) : Option Bytes :=
  if size < data.length + 11 then none
  else some (0x00 :: 0x01 :: List.replicate (size - data.length - 3) 0xFF ++ 0x00 :: data)

theorem length_pad {size : Nat} {data block : Bytes} (h : pad? size data = some block) : block.length = size := by
  unfold pad? at h
  split at h
  · simp at h
  · simp only [Option.some.injEq] at h
    rw [← h]; simp; omega

def PrivateKey.apply (k : PrivateKey) (block : Bytes) : Bytes :=
  Sha2.toBytes k.size (powMod (Sha2.ofBytes block) k.privateExponent k.modulus)

/-- The signature over data, if the modulus leaves room for them. -/
def PrivateKey.sign? (k : PrivateKey) (data : Bytes) : Option Bytes := (pad? k.size data).map k.apply

end RemoteSigning.Rsa
