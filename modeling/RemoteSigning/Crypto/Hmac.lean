import RemoteSigning.Crypto.Digest

/-!
# Keyed digests

- `Hmac.digest` is the keyed digest of a message;
- `Hmac.keyed` keeps the states after the key, where the function has states that can be kept.
-/

namespace RemoteSigning

/-- Two byte strings combined bit by bit. -/
def xorBytes (a b : Bytes) : Bytes := List.zipWith (· ^^^ ·) a b

namespace Hmac

/-- A key, filled up to a block; a longer one is digested first. -/
def blockKey (d : Digest) (key : Bytes) : Bytes :=
  let k := if key.length > d.blockSize then d.hash key else key
  k ++ List.replicate (d.blockSize - k.length) 0

/-- The block of a key before the message. -/
def innerBlock (block : Bytes) : Bytes := block.map (· ^^^ 0x36)

/-- The block of a key before the digest of the message. -/
def outerBlock (block : Bytes) : Bytes := block.map (· ^^^ 0x5C)

/-- The states after the inner and the outer block of a key. -/
structure Key (w : Type) where
  inner : Sha2.State w
  outer : Sha2.State w

@[specialize] def Key.ofBlock {w : Type} [Sha2.Word w] (initial : Sha2.State w) (block : Bytes) : Key w :=
  ⟨initial.absorb (innerBlock block), initial.absorb (outerBlock block)⟩

@[specialize] def Key.digest {w : Type} [Sha2.Word w] (k : Key w) (size : Nat) (message : Bytes) : Bytes :=
  let block := 16 * Sha2.Word.bytes w
  (k.outer.finish block ((k.inner.finish block message).toBytes size)).toBytes size

/-- The keyed digests under one key, as a function. -/
def keyed (d : Digest) (key : Bytes) : Bytes → Bytes :=
  let block := blockKey d key
  match d with
  | .md5 | .sha1 =>
    let inner := innerBlock block
    let outer := outerBlock block
    fun message => d.hash (outer ++ d.hash (inner ++ message))
  | .sha2 .sha224 => let k := Key.ofBlock Sha2.initial224 block; k.digest 28
  | .sha2 .sha256 => let k := Key.ofBlock Sha2.initial256 block; k.digest 32
  | .sha2 .sha384 => let k := Key.ofBlock Sha2.initial384 block; k.digest 48
  | .sha2 .sha512 => let k := Key.ofBlock Sha2.initial512 block; k.digest 64

def digest (d : Digest) (key message : Bytes) : Bytes := keyed d key message

end Hmac

end RemoteSigning
