import RemoteSigning.Algorithm
import RemoteSigning.Certificate
import RemoteSigning.X509.Structure

/-!
# What a certificate says about its key

- `Certificate.keyType` is the kind of the public key: nothing if the certificate cannot be read or the key is of
  another kind;
- `Certificate.hasNonRepudiation` tells certificates for qualified signatures from others.

Both have faults for certificates that can be read as such but whose version, key or extensions are wrong.
-/

namespace RemoteSigning

/-- A certificate that can be read, but not used. -/
inductive CertificateFault where
  /-- The version is neither the first nor the third; the number is the one that is written. -/
  | version (number : Nat)
  /-- The key cannot be used. -/
  | key (refusal : KeyRefusal)
  /-- An extension occurs twice. -/
  | duplicateExtension (oid : Oid)
  /-- An extension cannot be used. -/
  | extension (misfit : X509.Misfit)
  deriving DecidableEq, Repr

/-- The kind of a public key, if it is one of the two that can sign. -/
def PublicKey.type? : PublicKey → Option KeyType
  | .rsa .. => some .rsa
  | .ec .. => some .ec
  | .other _ => none

namespace X509

/-- The first identifier that occurs again, at its second place. -/
def repeated? (seen : List Oid) : List Oid → Option Oid
  | [] => none
  | o :: rest => if seen.contains o then some o else repeated? (o :: seen) rest

/-- A certificate of the first or the third version, which are written as 0 and 2. -/
def Structure.ofKnownVersion (s : Structure) : Except CertificateFault Structure :=
  if s.version = 0 || s.version = 2 then .ok s else .error (.version s.version)

/-- A certificate has the key usage non-repudiation. All extensions have to be usable. -/
def Structure.hasNonRepudiation (s : Structure) : Except CertificateFault Bool :=
  match repeated? [] (s.extensions.map (·.oid)) with
  | some oid => .error (.duplicateExtension oid)
  | none =>
    match s.extensions.forM Extension.check with
    | .error m => .error (.extension m)
    | .ok () =>
      match s.extensions.find? (·.oid = keyUsageId) with
      | none => .ok false
      | some x => .ok (((Der.whole? KeyUsage.read? x.content).map KeyUsage.nonRepudiation).getD false)

end X509

namespace Certificate

/-- What is in the encoding, nothing if it is no certificate. -/
def structure? (c : Certificate) : Except CertificateFault (Option X509.Structure) :=
  match X509.parse? c.der with
  | none => .ok none
  | some s => s.ofKnownVersion.map some

/-- The kind of the key, if it can be told. -/
def keyType (c : Certificate) : Except CertificateFault (Option KeyType) :=
  match c.structure? with
  | .error e => .error e
  | .ok none => .ok none
  | .ok (some s) =>
    match s.key.publicKey with
    | .error r => .error (.key r)
    | .ok k => .ok k.type?

/-- The key is one for qualified signatures. -/
def hasNonRepudiation (c : Certificate) : Except CertificateFault Bool :=
  match c.structure? with
  | .error e => .error e
  | .ok none => .ok false
  | .ok (some s) => s.hasNonRepudiation

/-- What is no certificate has no kind of key, and is not for qualified signatures. -/
theorem keyType_of_not_certificate {c : Certificate} (h : X509.parse? c.der = none) :
    c.keyType = .ok none ∧ c.hasNonRepudiation = .ok false := by
  simp [keyType, hasNonRepudiation, structure?, h]

end Certificate

end RemoteSigning
