import RemoteSigning.Files
import RemoteSigning.Keys.Bundle
import RemoteSigning.Keys.KeyFile
import RemoteSigning.X509.Fault

/-!
# A token in memory

A software token is a private key with a certificate. It signs only for its own certificate, only with algorithms that
suit its key, and only digests of the right length.

- `SoftwareToken.load` takes both from files: a key bundle, or a key file and a certificate file;
- `SoftwareToken.sign` is the signature; `sign_of_other_certificate`: the certificate is checked first. Signatures with
  elliptic curves are drawn at random where keys are used in earnest; here they come from a `PairSource`.
-/

namespace RemoteSigning

inductive SigningKey where
  | rsa (key : Rsa.PrivateKey)
  | ec (key : Ecdsa.PrivateKey)
  deriving DecidableEq, Repr

def SigningKey.type : SigningKey → KeyType
  | .rsa _ => .rsa
  | .ec _ => .ec

/-- Why a key does not sign a digest. -/
inductive SigningProblem where
  | digestLength
  | keyTooSmall
  deriving DecidableEq, Repr

def SigningProblem.message : SigningProblem → String
  | .digestLength => "The provided data must be the same length as the hash algorithm's digest size."
  | .keyTooSmall =>
    "Digest or salt length too long for key size. Use a larger key or shorter salt length if you are specifying a PSS salt"

/-- The bytes of each half of a signature. -/
def Curve.halfSize (c : Curve) : Nat := (c.bits + 7) / 8

/-- Where signatures with elliptic curves come from: a pair of numbers for a hash function, a key and a digest. -/
abbrev PairSource := HashName → Ecdsa.PrivateKey → Bytes → Nat × Nat

/-- The signature over a digest of a hash function. -/
def SigningKey.sign (k : SigningKey) (h : HashName) (digest : Bytes) (pairs : PairSource := Ecdsa.sign) :
    Except SigningProblem Bytes :=
  if digest.length ≠ h.size then .error .digestLength
  else match k with
    | .rsa key =>
      match key.sign? (h.digestInfo digest) with
      | some signature => .ok signature
      | none => .error .keyTooSmall
    | .ec key =>
      let (r, s) := pairs h key digest
      .ok (Ecdsa.rawBytes key.curve.halfSize r s)

def rawPair (size : Nat) (signature : Bytes) : Nat × Nat :=
  (Sha2.ofBytes (signature.take size), Sha2.ofBytes (signature.drop size))

/-- A raw pair is a signature over a digest under the public key that belongs to a private key. -/
def Ecdsa.PrivateKey.recognises (k : Ecdsa.PrivateKey) (digest signature : Bytes) : Bool :=
  let (r, s) := rawPair k.curve.halfSize signature
  Ecdsa.verify k.curve (k.curve.mul k.secret k.curve.base) digest r s

/-- A private key with its certificate. -/
structure SoftwareToken where
  key : SigningKey
  certificate : Certificate
  deriving DecidableEq, Repr

namespace SoftwareToken

/-- The token of a private key, if it is of a kind that can sign. -/
def make (k : PrivateKey) (c : Certificate) : Except Fault SoftwareToken :=
  match k with
  | .rsa key => .ok ⟨.rsa key, c⟩
  | .ec key => .ok ⟨.ec key, c⟩
  | .other _ => .error (.value "Software token supports RSA and EC keys only")

/-- Signs a hash; a digest that cannot be signed is also recorded in the log, by the wording of its problem. -/
def sign (t : SoftwareToken) (c : Certificate) (h : HashToSign) (pairs : PairSource := Ecdsa.sign) :
    Except Fault Bytes × Option Text :=
  if ! c.same t.certificate then
    (.error (.decline .noCertificate "Certificate does not belong to this token"), none)
  else if ! h.algorithm.admits (some t.key.type) then
    (.error (.decline .tokenError (Text.ofString h.algorithm.identifier ++ " cannot be used with a " ++
      Text.ofString t.key.type.name ++ " key")), none)
  else match t.key.sign h.hashName h.digest pairs with
    | .ok signature => (.ok signature, none)
    | .error p => (.error (.decline .tokenError p.message), some p.message)

theorem sign_of_other_certificate {t : SoftwareToken} {c : Certificate} (h : c.der ≠ t.certificate.der)
    (hash : HashToSign) (pairs : PairSource) :
    (t.sign c hash pairs).1 = .error (.decline .noCertificate "Certificate does not belong to this token") := by
  have : c.same t.certificate = false := by simp [Certificate.same, h]
  simp [sign, this]

end SoftwareToken

/-! ## Files -/

/-- The fault of a key file as a fault of whoever loads it. -/
def KeyFault.toFault : KeyFault → Fault
  | .malformed => .other "ValueError" none
  | .unknown => .other "UnsupportedAlgorithm" none
  | .noPassword | .needlessPassword => .other "TypeError" none

/-- The first certificate of a certificate file. -/
def loadCertificate (bs : Bytes) : Except Fault Certificate :=
  match (Pem.blocks? bs).bind (·.find? fun b =>
      b.label = Text.ofString "CERTIFICATE" || b.label = Text.ofString "X509 CERTIFICATE") with
  | none => .error (.other "ValueError" none)
  | some b =>
    let c : Certificate := ⟨b.content, none⟩
    match c.structure? with
    | .ok (some _) => .ok c
    | .ok none => .error (.other "ValueError" none)
    | .error e => .error e.toFault

/-- The name is that of a key bundle. -/
def isBundleName (name : Text) : Bool :=
  let lower := name.lower
  (Text.ofString ".p12").isSuffixOf lower || (Text.ofString ".pfx").isSuffixOf lower

/-- Loads a token from a key bundle, or from a key file and a certificate file. An empty password is none. -/
def SoftwareToken.load (files : FileTree) (keyPath : Text) (certificatePath password : Option Text) :
    Except Fault SoftwareToken := do
  let password := password.bind fun p => if p.isEmpty then none else some p
  let secret ← match password with
    | none => .ok none
    | some p => ((Utf8.encode p).mapError Fault.unencodable).map some
  let content ← (files.read keyPath).mapError FileFault.toFault
  if isBundleName keyPath then
    let bundle ← (KeyFault.orMalformed (Bundle.open? content (password.getD []))).mapError KeyFault.toFault
    for c in bundle.chosen?.toList ++ bundle.others do
      let _ ← c.parts.ofKnownVersion.mapError CertificateFault.toFault
    match bundle.key, bundle.chosen? with
    | some pair, some c => make pair.key ⟨c.der, none⟩
    | _, _ => throw (.value (keyPath ++ " does not contain a key and certificate"))
  else
    match certificatePath with
    | none | some [] => throw (.value "A PEM private key needs SOFTWARE_TOKEN_CERT")
    | some path =>
      let key ← (loadPrivateKey content secret).mapError KeyFault.toFault
      let certificate ← loadCertificate (← (files.read path).mapError FileFault.toFault)
      make key certificate

end RemoteSigning
