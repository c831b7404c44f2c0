import RemoteSigning.Algorithm
import RemoteSigning.Encoding.Base64
import RemoteSigning.Text.Quoted

/-!
# What is signed, and the signature

The service answers the first exchange with a digest and the name of an algorithm. `HashToSign.read` accepts the digest
in strict base64 only, and names that it recognises. A signature carries the hash that it was made over.

- `HashFault.message` words the refusals;
- `digest_ne_nil_of_read`: no empty digest is accepted.
-/

namespace RemoteSigning

/-- A digest and the algorithm to sign it with. -/
structure HashToSign where
  digest : Bytes
  algorithm : Algorithm
  deriving DecidableEq, Repr, Inhabited

/-- Why a digest or an algorithm is refused. -/
inductive HashFault where
  /-- The digest has characters outside ASCII. -/
  | notAscii
  | notBase64 (fault : Base64.Fault)
  | empty
  | unknownAlgorithm (name : Text)
  deriving DecidableEq, Repr

/-- The wording of a refusal. -/
def HashFault.message : HashFault → Text
  | .notAscii => "string argument should contain only ASCII characters"
  | .notBase64 e => "hash is not valid base64: " ++ e.message
  | .empty => "hash is empty"
  | .unknownAlgorithm name => "unrecognized algorithm: " ++ name.quoted

namespace HashToSign

/-- Reads a digest and the name of an algorithm. -/
def read (hash algorithm : Text) : Except HashFault HashToSign :=
  if ! hash.isAscii then .error .notAscii
  else match Base64.decode .strict hash with
    | .error e => .error (.notBase64 e)
    | .ok [] => .error .empty
    | .ok digest =>
      match Algorithm.parse? algorithm with
      | none => .error (.unknownAlgorithm algorithm)
      | some a => .ok ⟨digest, a⟩

theorem digest_ne_nil_of_read {hash algorithm : Text} {h : HashToSign} (hr : read hash algorithm = .ok h) :
    h.digest ≠ [] := by
  unfold read at hr
  split at hr
  · simp at hr
  · split at hr
    · simp at hr
    · simp at hr
    next digest hne _ =>
      split at hr
      · simp at hr
      · simp only [Except.ok.injEq] at hr
        subst hr
        exact fun h => hne h

/-- The hash function. -/
def hashName (h : HashToSign) : HashName := h.algorithm.hash

end HashToSign

/-- A signature and the hash it was made over. -/
structure Signature where
  value : Bytes
  hash : HashToSign
  deriving DecidableEq, Repr, Inhabited

def Signature.encoded (s : Signature) : Text := Base64.encode s.value

end RemoteSigning
