import RemoteSigning.Crypto.Md5
import RemoteSigning.Crypto.Sha1
import RemoteSigning.Crypto.Sha2

/-!
# Digests of key files

Hashes are signed with the functions of the SHA-2 family only; key files and key bundles also use two older ones.

- `Digest` names the functions, `Digest.hash` computes them.
-/

namespace RemoteSigning

/-- A hash function that key files use. -/
inductive Digest where
  | md5
  | sha1
  | sha2 (name : HashName)
  deriving DecidableEq, Repr

namespace Digest

/-- The number of bytes of a digest. -/
def size : Digest → Nat
  | .md5 => 16
  | .sha1 => 20
  | .sha2 h => h.size

/-- The bytes that are taken in at once. -/
def blockSize : Digest → Nat
  | .md5 | .sha1 => 64
  | .sha2 h => h.blockSize

def hash : Digest → Bytes → Bytes
  | .md5, message => Md5.digest message
  | .sha1, message => Sha1.digest message
  | .sha2 h, message => h.digest message

end Digest

end RemoteSigning
