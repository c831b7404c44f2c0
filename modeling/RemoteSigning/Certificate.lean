import RemoteSigning.Crypto.Sha2
import RemoteSigning.Encoding.Armor
import RemoteSigning.Encoding.Hex

/-!
# Certificates

A certificate is its encoding, together with the reference under which the token knows the key, if it has one. Two
certificates are the same if their encodings are.

- `fingerprint` identifies a certificate in logs and answers;
- `same_iff`: the key reference plays no part in a comparison.
-/

namespace RemoteSigning

/-- A signer's certificate. -/
structure Certificate where
  /-- The encoding. -/
  der : Bytes
  /-- The reference of the key on its token. -/
  keyRef : Option Bytes := none
  deriving DecidableEq, Repr, Inhabited

namespace Certificate

/-- The encoding from hexadecimal digits. -/
def ofHex (t : Text) (keyRef : Option Bytes) : Except Hex.Fault Certificate := (Hex.decode t).map (⟨·, keyRef⟩)

/-- The encoding from its armour. -/
def ofArmor (t : Text) (keyRef : Option Bytes) : Except Armor.Fault Certificate := (Armor.decode t).map (⟨·, keyRef⟩)

/-- The encoding in its armour. -/
def toArmor (c : Certificate) : Text := Armor.encode c.der

/-- The digest of the encoding. -/
def fingerprint (c : Certificate) : Bytes := HashName.sha256.digest c.der

/-- The first sixteen digits of the fingerprint, as they stand in the log. -/
def shortFingerprint (c : Certificate) : Text := (Hex.encode c.fingerprint).take 16

/-- The two encodings are equal. -/
def same (c d : Certificate) : Bool := c.der = d.der

theorem same_iff (c d : Certificate) : c.same d = true ↔ c.der = d.der := by simp [same]

end Certificate

end RemoteSigning
