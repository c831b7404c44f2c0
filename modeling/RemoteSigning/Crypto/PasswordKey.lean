import RemoteSigning.Crypto.Hmac

/-!
# Keys from passwords

A password is turned into the key of a cipher by many digests over it and a salt. There is a way for each time in which
it was done:

- `pbkdf1` is a digest of a digest, and so on;
- `bundleKey` is the way of key bundles, which draws keys for several purposes;
- `pbkdf2` combines many keyed digests;
- `headerKey` is the way of key files whose headers say that they are encrypted.
-/

namespace RemoteSigning

/-- The digest of a digest, and so on. -/
def iterateDigest (d : Digest) : Nat → Bytes → Bytes
  | 0, bs => bs
  | n + 1, bs => iterateDigest d n (d.hash bs)

/-- A digest over a password and a salt, digested `rounds` times in all. -/
def pbkdf1 (d : Digest) (password salt : Bytes) (rounds : Nat) : Bytes := iterateDigest d rounds (password ++ salt)

/-! ## Keyed digests -/

/-- The combination of `rounds + 1` digests, each of the one before; `u` is the first. -/
def chain (mac : Bytes → Bytes) : Nat → Bytes → Bytes → Bytes
  | 0, _, acc => acc
  | rounds + 1, u, acc =>
    let next := mac u
    chain mac rounds next (xorBytes acc next)

/-- A key of `size` bytes from a password and a salt. -/
def pbkdf2 (d : Digest) (password salt : Bytes) (rounds size : Nat) : Bytes :=
  let mac := Hmac.keyed d password
  let blocks := (List.range ((size + d.size - 1) / d.size)).map fun i =>
    let first := mac (salt ++ Sha2.toBytes 4 (i + 1))
    chain mac (rounds - 1) first first
  blocks.flatten.take size

/-! ## Key bundles -/

/-- Bytes repeated up to a multiple of the block size. -/
def repeated (block : Nat) (bs : Bytes) : Bytes :=
  let size := (bs.length + block - 1) / block * block
  ((List.replicate (size / max bs.length 1 + 1) bs).flatten).take size

/-- The blocks of a byte string, each plus `b + 1`, as numbers of a block's size; `fuel` bounds their number. -/
def addToBlocks (block : Nat) (b : Bytes) : Nat → Bytes → Bytes
  | 0, _ => []
  | _, [] => []
  | fuel + 1, bs =>
    Sha2.toBytes block (Sha2.ofBytes (bs.take block) + Sha2.ofBytes b + 1) ++ addToBlocks block b fuel (bs.drop block)

/-- One digest after another, until there are enough bytes; `fuel` bounds their number. -/
def bundleBlocks (d : Digest) (diversifier : Bytes) (rounds : Nat) : Nat → Bytes → Bytes
  | 0, _ => []
  | fuel + 1, input =>
    let a := iterateDigest d (max rounds 1) (diversifier ++ input)
    let b := (repeated d.blockSize a).take d.blockSize
    a ++ bundleBlocks d diversifier rounds fuel (addToBlocks d.blockSize b input.length input)

/-- What a key of a bundle is for. -/
inductive KeyPurpose where
  /-- To encrypt. -/
  | encryption
  /-- To begin a chain of blocks. -/
  | initialBlock
  /-- To seal. -/
  | seal
  deriving DecidableEq, Repr

def KeyPurpose.number : KeyPurpose → UInt8
  | .encryption => 1
  | .initialBlock => 2
  | .seal => 3

/-- A key of `size` bytes from a password for a purpose, the way key bundles draw it: the password is in UTF-16 with a
zero at its end. -/
def bundleKey (d : Digest) (purpose : KeyPurpose) (password salt : Bytes) (rounds size : Nat) : Bytes :=
  (bundleBlocks d (List.replicate d.blockSize purpose.number) rounds ((size + d.size - 1) / d.size)
    (repeated d.blockSize salt ++ repeated d.blockSize password)).take size

/-! ## Headers -/

/-- Draws a key of a size from a password and a salt: digests, each one over the digest before it, the password and the
salt. `fuel` bounds their number. -/
def headerKey (password salt : Bytes) (size : Nat) : Nat → Bytes → Bytes
  | 0, _ => []
  | fuel + 1, before =>
    let d := Md5.digest (before ++ password ++ salt)
    if size ≤ d.length then d.take size else d ++ headerKey password salt (size - d.length) fuel d

end RemoteSigning
