import RemoteSigning.Asn1.Ber
import RemoteSigning.Keys.Encryption
import RemoteSigning.Keys.PrivateKey
import RemoteSigning.X509.Usage

/-!
# Key bundles

A key bundle holds keys and certificates in bags, all of them sealed with a digest under a password; bags and keys may be
encrypted under the same password. Each part of a bundle may be written by the basic rules, and is not looked at more
closely than its use requires.

- `Bundle.open?` checks the seal and takes what is in the bags;
- `Bundle.passwordFor?` tells an empty password from none by the seal;
- `Bundle.chosen?` is the first certificate that belongs to the key, `Bundle.others` are the other certificates.
-/

namespace RemoteSigning

open Der (Element Fields)

/-! ## Contents -/

namespace BundleId

def data : Oid := [1, 2, 840, 113549, 1, 7, 1]
def encryptedData : Oid := [1, 2, 840, 113549, 1, 7, 6]
def keyBag : Oid := [1, 2, 840, 113549, 1, 12, 10, 1, 1]
def shroudedKeyBag : Oid := [1, 2, 840, 113549, 1, 12, 10, 1, 2]
def certificateBag : Oid := [1, 2, 840, 113549, 1, 12, 10, 1, 3]
def revocationBag : Oid := [1, 2, 840, 113549, 1, 12, 10, 1, 4]
def secretBag : Oid := [1, 2, 840, 113549, 1, 12, 10, 1, 5]
def nestedBag : Oid := [1, 2, 840, 113549, 1, 12, 10, 1, 6]
def x509Certificate : Oid := [1, 2, 840, 113549, 1, 9, 22, 1]
def simpleCertificate : Oid := [1, 2, 840, 113549, 1, 9, 22, 2]
def revocationList : Oid := [1, 2, 840, 113549, 1, 9, 23, 1]

end BundleId

/-- A value whose kind is told by an identifier before it. -/
structure LabelledContent where
  kind : Oid
  value : Element
  deriving DecidableEq, Repr

/-- Reads an identifier and a value. -/
def LabelledContent.read? : Element → Option LabelledContent :=
  Der.sequence? do
    let kind ← Fields.item Element.oid?
    match ← Fields.explicit 0 some with
    | some value => return ⟨kind, value⟩
    | none => failure

/-- What was encrypted, and how. -/
structure EncryptedContent where
  algorithm : AlgorithmIdentifier
  bytes : Bytes
  deriving DecidableEq, Repr

namespace EncryptedContent

def readKey? : Element → Option EncryptedContent :=
  Der.sequence? do
    let algorithm ← Fields.item AlgorithmIdentifier.readAny?
    let bytes ← Fields.item Element.octets?
    return ⟨algorithm, bytes⟩

/-- Reads encrypted bags: a version, and the kind of the content before the rest. -/
def readBags? : Element → Option EncryptedContent :=
  Der.sequence? do
    let _ ← Fields.item Element.integer?
    Fields.item <| Der.sequence? do
      let _ ← Fields.item Element.oid?
      let algorithm ← Fields.item AlgorithmIdentifier.readAny?
      let bytes ← Fields.item (Ber.implicitOctets? 0)
      return ⟨algorithm, bytes⟩

def open? (c : EncryptedContent) (password : Password) : Option Element := do
  let e ← (Encryption.read? c.algorithm).filter Encryption.isForBundles
  Ber.element? (← e.decrypt? password c.bytes)

end EncryptedContent

/-! ## Keys -/

/-- A private key with its public key. -/
structure KeyPair where
  key : PrivateKey
  publicKey : PublicKey
  deriving DecidableEq, Repr

namespace KeyPair

/-- A number, read as if it had no sign. -/
def unsigned? (e : Element) : Option Nat := (e.expect? Der.integerTag).map Sha2.ofBytes

/-- An RSA key with two primes; the version is 1 only if there are more. -/
def ofRsa? (e : Element) : Option KeyPair := do
  let k ← (RsaNumbers.read? (· ≠ 1) unsigned? e).filter RsaNumbers.areConsistent
  return ⟨.rsa ⟨k.n, k.e, k.d⟩, .rsa k.n k.e⟩

/-- A curve's key: the curve has to be named, in the key or else with its kind. The public point is the one that is
written. -/
def ofCurve? (known : Option CurveChoice) (e : Element) : Option KeyPair := do
  let k ← CurveNumbers.read? e
  match k.curve.or known with
  | some (.named oid) =>
    let c ← Curve.named? oid
    let key : Ecdsa.PrivateKey := ⟨c, Sha2.ofBytes k.secret⟩
    let point ← match k.point with
      | some written => some written
      | none => key.point?
    if c.isEncodedPoint point then some ⟨.ec key, .ec c point⟩ else none
  | _ => none

/-- The key in the general form. -/
def ofEncoded? (k : PrivateKey.Encoded) : Option KeyPair :=
  if k.algorithm.oid = AlgorithmId.rsaKey || k.algorithm.oid = AlgorithmId.rsaPssKey then
    (Ber.element? k.content).bind ofRsa?
  else if k.algorithm.oid = AlgorithmId.ecKey then
    (Ber.element? k.content).bind (ofCurve? (k.algorithm.parameters? CurveChoice.read?))
  else
    match PrivateKey.ofOther k with
    | .ok (.checked key) => key.publicKey?.map (⟨key, ·⟩)
    | _ => none

end KeyPair

/-! ## Bags -/

inductive Bag where
  | key (encoded : PrivateKey.Encoded)
  | shroudedKey (content : EncryptedContent)
  /-- The encoding of a certificate. -/
  | certificate (bytes : Bytes)
  /-- What is of no use here. -/
  | other
  deriving DecidableEq, Repr

namespace Bag

/-- Attributes, which are of no use here: each has an identifier and values, in whatever order. -/
def readAttributes? (e : Element) : Option Unit := do
  let items ← e.within? Der.setTag
  items.forM <| Der.sequence? do
    let _ ← Fields.item Element.oid?
    let _ ← Fields.item (·.within? Der.setTag)
    return ()

/-- A key in the general form, of whatever version. -/
def readKey? : Element → Option PrivateKey.Encoded :=
  Der.sequence? do
    let _ ← Fields.item Element.integer?
    let algorithm ← Fields.item AlgorithmIdentifier.readAny?
    let content ← Fields.item Element.octets?
    let _ ← Fields.implicit 0 Der.setTag readAttributes?
    return ⟨algorithm, content⟩

/-- What is in a bag of certificates, of revocations or of secrets: bytes or a text, as its kind asks for. -/
def readLabelled? (e : Element) : Option LabelledContent :=
  (LabelledContent.read? e).filter fun c =>
    if c.kind = BundleId.x509Certificate || c.kind = BundleId.revocationList then c.value.octets?.isSome
    else c.kind ≠ BundleId.simpleCertificate || c.value.hasTag Der.ia5StringTag

/-- What a bag holds, and perhaps attributes of it. -/
def readContent? : Element → Option LabelledContent :=
  Der.sequence? do
    let kind ← Fields.item Element.oid?
    let value ← Fields.explicit 0 some
    let _ ← Fields.tagged Der.setTag readAttributes?
    match value with
    | some value => return ⟨kind, value⟩
    | none => failure

/-- The bags that an element stands for, which are several if it holds others; `fuel` bounds how deep they go. -/
def readUpTo? : Nat → Element → Option (List Bag)
  | 0, _ => none
  | fuel + 1, e => do
    let c ← readContent? e
    if c.kind = BundleId.keyBag then return [.key (← readKey? c.value)]
    else if c.kind = BundleId.shroudedKeyBag then return [.shroudedKey (← EncryptedContent.readKey? c.value)]
    else if c.kind = BundleId.nestedBag then
      return (← (← c.value.items?).mapM (readUpTo? fuel)).flatten
    else if [BundleId.certificateBag, BundleId.revocationBag, BundleId.secretBag].contains c.kind then
      let inner ← readLabelled? c.value
      if c.kind = BundleId.certificateBag && inner.kind = BundleId.x509Certificate then
        return [.certificate inner.value.content]
      else return [.other]
    else return [.other]

def readAll? (e : Element) : Option (List Bag) := do
  return (← (← e.items?).mapM (readUpTo? (e.content.length + 1))).flatten

/-- The bags in a content of a bundle; contents of other kinds than two are passed over. -/
def ofContent? (password : Password) (e : Element) : Option (List Bag) := do
  let c ← LabelledContent.read? e
  if c.kind = BundleId.data then readAll? (← Ber.element? (← c.value.octets?))
  else if c.kind = BundleId.encryptedData then
    readAll? (← (← EncryptedContent.readBags? c.value).open? password)
  else return []

end Bag

/-! ## Seals -/

/-- A seal: the digest over the contents, and how its key is drawn from the password. -/
structure Seal where
  digest : Digest
  value : Bytes
  salt : Bytes
  rounds : Int
  deriving DecidableEq, Repr

namespace Seal

def digests : List (Oid × Digest) :=
  [(AlgorithmId.md5, .md5), (AlgorithmId.sha1, .sha1), (AlgorithmId.sha224, .sha2 .sha224),
   (AlgorithmId.sha256, .sha2 .sha256), (AlgorithmId.sha384, .sha2 .sha384), (AlgorithmId.sha512, .sha2 .sha512)]

/-- Reads a seal; where the rounds are not written, there is one. -/
def read? : Element → Option Seal :=
  Der.sequence? do
    let content ← Fields.item EncryptedContent.readKey?
    let salt ← Fields.item Element.octets?
    let rounds ← Fields.tagged Der.integerTag Element.integer?
    match Encryption.look? digests content.algorithm.oid with
    | some digest => return ⟨digest, content.bytes, salt, rounds.getD 1⟩
    | none => failure

/-- The seal is right for contents under a password. -/
def fits (s : Seal) (contents : Bytes) (password : Password) : Bool :=
  1 ≤ s.rounds &&
    s.value = Hmac.digest s.digest (bundleKey s.digest .seal password.wide s.salt s.rounds.toNat s.digest.size) contents

end Seal

/-! ## Bundles -/

structure BundledCertificate where
  der : Bytes
  parts : X509.Structure
  deriving DecidableEq, Repr

namespace BundledCertificate

/-- Reads a certificate. What is signed of it keeps its bytes. -/
def read? (bs : Bytes) : Option BundledCertificate := do
  let der := (← Ber.keepingFirst? bs).bytes
  return ⟨der, ← X509.parse? der⟩

def isFor (c : BundledCertificate) (k : PublicKey) : Bool :=
  match c.parts.key.publicKey with
  | .ok own => own.same k
  | .error _ => false

end BundledCertificate

structure Bundle where
  key : Option KeyPair
  certificates : List BundledCertificate
  deriving DecidableEq, Repr

namespace Bundle

/-- Adds what is in a bag. Only the first key counts; the other ones are not even opened. -/
def addBag? (password : Password) (b : Bundle) : Bag → Option Bundle
  | .other => some b
  | .certificate bs => do return { b with certificates := b.certificates ++ [← BundledCertificate.read? bs] }
  | .key encoded =>
    if b.key.isSome then some b else do return { b with key := some (← KeyPair.ofEncoded? encoded) }
  | .shroudedKey content =>
    if b.key.isSome then some b
    else do
      let encoded ← Bag.readKey? (← content.open? password)
      return { b with key := some (← KeyPair.ofEncoded? encoded) }

/-- The password that the seal is right under. An empty one may stand for none, which is tried first. -/
def passwordFor? (mac : Option Seal) (contents : Bytes) (given : Text) : Option Password :=
  let candidates := if given.isEmpty then [Password.none, Password.ofText []] else [Password.ofText given]
  match mac with
  | none => candidates.head?
  | some s => candidates.find? (s.fits contents)

def readFile? : Element → Option (Bytes × Option Seal) :=
  Der.sequence? do
    let _ ← Fields.item Element.integer?
    let content ← Fields.item LabelledContent.read?
    let mac ← Fields.tagged Der.sequenceTag Seal.read?
    match content.value.octets? with
    | some bytes => if content.kind = BundleId.data then return (bytes, mac) else failure
    | none => failure

/-- Opens a bundle with a password, which is empty if there is none. -/
def open? (bs : Bytes) (given : Text) : Option Bundle := do
  let (contents, mac) ← readFile? (← Ber.element? bs)
  let password ← passwordFor? mac contents given
  let bags ← (← (← Ber.element? contents).items?).mapM (Bag.ofContent? password)
  bags.flatten.foldlM (addBag? password) ⟨none, []⟩

/-- A certificate belongs to the key. -/
def isOwn (b : Bundle) (c : BundledCertificate) : Bool := b.key.any fun k => c.isFor k.publicKey

/-- The first certificate that belongs to the key. -/
def chosen? (b : Bundle) : Option BundledCertificate := b.certificates.find? b.isOwn

/-- The certificates apart from the chosen one. -/
def others (b : Bundle) : List BundledCertificate := b.certificates.eraseP b.isOwn

end Bundle

end RemoteSigning
