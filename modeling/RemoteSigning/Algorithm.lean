import RemoteSigning.Crypto.Sha2
import RemoteSigning.Text.Blank
import RemoteSigning.Text.Case

/-!
# Signature algorithms

The service names an algorithm by a hash function alone (`SHA-256`), or by a kind of key and a hash function
(`RSA-SHA256`). A name of the second kind has to agree with the key of the signer's certificate.

- `Algorithm.parse?` recognises a name, whatever its case and the blanks around it;
- `Algorithm.admits` is the agreement with a key; `admits_unknown`: a key of no known kind agrees with all names;
- `digestInfo` puts a digest and the name of its hash function into one encoded value, `length_digestInfoHead` bytes
  longer than the digest.
-/

namespace RemoteSigning

/-- The kinds of keys that can sign. -/
inductive KeyType where
  | rsa
  | ec
  deriving DecidableEq, Repr, Inhabited

def KeyType.name : KeyType → String
  | .rsa => "RSA"
  | .ec => "EC"

namespace HashName

def name (h : HashName) : String := "SHA-" ++ toString h.bits

def ofName? (t : Text) : Option HashName := all.find? fun h => Text.ofString h.name = t

end HashName

/-- A recognised algorithm. -/
structure Algorithm where
  /-- The hash function. -/
  hash : HashName
  /-- The kind of key that is required, if any. -/
  key : Option KeyType
  deriving DecidableEq, Repr, Inhabited

namespace Algorithm

/-- The name of an algorithm, in upper case. -/
def identifier (a : Algorithm) : String :=
  match a.key with
  | none => a.hash.name
  | some .rsa => "RSA-SHA" ++ toString a.hash.bits
  | some .ec => "ECDSA-SHA" ++ toString a.hash.bits

def all : List Algorithm := HashName.all.flatMap fun h => [⟨h, none⟩, ⟨h, some .rsa⟩, ⟨h, some .ec⟩]

def parse? (t : Text) : Option Algorithm :=
  let wanted := t.strip.upper
  all.find? fun a => Text.ofString a.identifier = wanted

/-- The algorithm may be used with a key whose kind has this name; without a name the kind is unknown. -/
def admitsName (a : Algorithm) (found : Option Text) : Bool :=
  match a.key, found with
  | some k, some t => t = Text.ofString k.name
  | _, _ => true

/-- The algorithm may be used with a key of this kind, `none` if it is unknown. -/
def admits (a : Algorithm) (found : Option KeyType) : Bool := a.admitsName (found.map (·.name))

theorem admits_unknown (a : Algorithm) : a.admits none = true := by
  unfold admits admitsName; cases a.key <;> rfl

theorem admits_some (a : Algorithm) (k : KeyType) : a.admits (some k) = true ↔ a.key = none ∨ a.key = some k := by
  obtain ⟨h, key⟩ := a
  rcases key with _ | key
  · simp [admits, admitsName]
  · cases key <;> cases k <;> simp [admits, admitsName, KeyType.name] <;> decide

end Algorithm

/-- The encoding of a digest with its hash function, up to the digest. -/
def HashName.digestInfoHead (h : HashName) : Bytes :=
  let variant : UInt8 := match h with
    | .sha224 => 4
    | .sha256 => 1
    | .sha384 => 2
    | .sha512 => 3
  [0x30, (h.size + 17).toUInt8, 0x30, 0x0D, 0x06, 0x09, 0x60, 0x86, 0x48, 0x01, 0x65, 0x03, 0x04, 0x02, variant, 0x05,
    0x00, 0x04, h.size.toUInt8]

theorem HashName.length_digestInfoHead (h : HashName) : h.digestInfoHead.length = 19 := rfl

/-- A digest with its hash function. -/
def HashName.digestInfo (h : HashName) (digest : Bytes) : Bytes := h.digestInfoHead ++ digest

/-- No hash function has this name. -/
structure UnknownHash where
  name : Text
  deriving DecidableEq, Repr

/-- The wording of the fault. -/
def UnknownHash.message (e : UnknownHash) : Text := "No DigestInfo prefix for " ++ e.name

/-- A digest with the hash function of a name. -/
def digestInfo (name : Text) (digest : Bytes) : Except UnknownHash Bytes :=
  match HashName.ofName? name with
  | some h => .ok (h.digestInfo digest)
  | none => .error ⟨name⟩

end RemoteSigning
