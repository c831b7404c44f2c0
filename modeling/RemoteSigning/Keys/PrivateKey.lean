import RemoteSigning.Crypto.Ecdsa
import RemoteSigning.Crypto.Rsa
import RemoteSigning.X509.PublicKey

/-!
# Private keys in their encodings

A private key is encoded in the general form, which names its kind, or in a form of its own for RSA, for DSA and for
curves.

- `PrivateKey.ofGeneral`, `PrivateKey.ofRsa`, `PrivateKey.ofCurve`, `PrivateKey.ofDsa` read the four forms;
- `ReadKey.key` refuses keys that contradict themselves;
- `PrivateKey.publicKey?` is the public key that belongs to a private one.
-/

namespace RemoteSigning

open Der (Element Fields)

/-- A private key; of other kinds than the two that can sign only the kind is kept. -/
inductive PrivateKey where
  | rsa (key : Rsa.PrivateKey)
  | ec (key : Ecdsa.PrivateKey)
  | other (algorithm : Oid)
  deriving DecidableEq, Repr

/-- Why a key cannot be had from its file. -/
inductive KeyFault where
  /-- The encoding is wrong, or the password. -/
  | malformed
  /-- The kind is unknown. -/
  | unknown
  /-- A password is needed. -/
  | noPassword
  /-- A password was given for a key without one. -/
  | needlessPassword
  deriving DecidableEq, Repr

/-- A refused key as a fault of its file. -/
def KeyRefusal.toKeyFault : KeyRefusal → KeyFault
  | .unknown => .unknown
  | .invalid => .malformed

namespace KeyFault

/-- Nothing is a malformed key. -/
def orMalformed {α : Type} : Option α → Except KeyFault α
  | some a => .ok a
  | none => .error .malformed

end KeyFault

/-! ## RSA -/

structure RsaNumbers where
  n : Nat
  e : Nat
  d : Nat
  p : Nat
  q : Nat
  dp : Nat
  dq : Nat
  qInv : Nat
  deriving DecidableEq, Repr

namespace RsaNumbers

/-- The numbers belong to one another, and the two that have to be are prime. -/
def areConsistent (k : RsaNumbers) : Bool :=
  k.e % 2 = 1 && 1 < k.e && k.p % 2 = 1 && k.q % 2 = 1 && k.n = k.p * k.q && isPrime k.p && isPrime k.q &&
    k.d * k.e % Nat.lcm (k.p - 1) (k.q - 1) = 1 && k.dp = k.d % (k.p - 1) && k.dq = k.d % (k.q - 1) &&
    k.qInv < k.p && k.qInv * k.q % k.p = 1

/-- Reads the numbers of a key with two primes; `number` reads each one, the version being the first. -/
def read? (isVersion : Nat → Bool) (number : Element → Option Nat) : Element → Option RsaNumbers :=
  Der.sequence? do
    let version ← Fields.item number
    let n ← Fields.item number
    let e ← Fields.item number
    let d ← Fields.item number
    let p ← Fields.item number
    let q ← Fields.item number
    let dp ← Fields.item number
    let dq ← Fields.item number
    let qInv ← Fields.item number
    if isVersion version then return ⟨n, e, d, p, q, dp, dq, qInv⟩ else failure

end RsaNumbers

/-- A key as it was read. Whether the numbers of an RSA key belong to one another has not been looked at yet. -/
inductive ReadKey where
  | rsa (numbers : RsaNumbers)
  | checked (key : PrivateKey)
  deriving DecidableEq, Repr

/-- The key, if it does not contradict itself. -/
def ReadKey.key : ReadKey → Except KeyFault PrivateKey
  | .rsa k => if k.areConsistent then .ok (.rsa ⟨k.n, k.e, k.d⟩) else .error .malformed
  | .checked k => .ok k

/-! ## Curves -/

structure CurveNumbers where
  version : Int
  secret : Bytes
  curve : Option CurveChoice
  point : Option Bytes
  deriving DecidableEq, Repr

def CurveNumbers.read? : Element → Option CurveNumbers :=
  Der.sequence? do
    let version ← Fields.item Element.integer?
    let secret ← Fields.item Element.octets?
    let curve ← Fields.explicit 0 CurveChoice.read?
    let point ← Fields.explicit 1 Element.bits?
    return ⟨version, secret, curve, point.map (·.2)⟩

/-- The public point of a curve's key, in full. -/
def Ecdsa.PrivateKey.point? (k : Ecdsa.PrivateKey) : Option Bytes := k.curve.writePoint? (k.curve.mul k.secret k.curve.base)

namespace PrivateKey

/-- The public key that belongs to a private one; a secret number that is zero has none. -/
def publicKey? : PrivateKey → Option PublicKey
  | .rsa k => some (.rsa k.modulus k.publicExponent)
  | .ec k => k.point?.map fun point => .ec k.curve point
  | .other oid => some (.other oid)

/-- The secret number and the public point fit the curve and each other. -/
def fitsCurve (c : Curve) (k : CurveNumbers) : Bool :=
  let secret := Sha2.ofBytes k.secret
  k.secret.length = Ecdsa.orderSize c.order && 0 < secret && secret < c.order &&
    k.point.all fun point =>
      (c.pointId? point).isSome && c.pointId? point = ((⟨c, secret⟩ : Ecdsa.PrivateKey).point?).bind c.pointId?

/-- A curve's key in its own form; the curve may be known from elsewhere, and then has to be the same one. -/
def ofCurve (known : Option CurveChoice) (bs : Bytes) : Except KeyFault ReadKey :=
  match Der.whole? CurveNumbers.read? bs with
  | none => .error .malformed
  | some k =>
    if k.version ≠ 1 || (known.isSome && k.curve.isSome && known ≠ k.curve) then .error .malformed
    else match known.or k.curve with
      | none => .error .malformed
      | some choice =>
        match Curve.choose choice with
        | .error r => .error r.toKeyFault
        | .ok c => if fitsCurve c k then .ok (.checked (.ec ⟨c, Sha2.ofBytes k.secret⟩)) else .error .malformed

/-! ## The other forms -/

/-- An RSA key in its own form. -/
def ofRsa (bs : Bytes) : Except KeyFault ReadKey :=
  (KeyFault.orMalformed (Der.whole? (RsaNumbers.read? (· = 0) Element.natural?) bs)).map .rsa

/-- A DSA key in its own form: a version, the numbers of the group, and the public and the secret number. -/
def ofDsa (bs : Bytes) : Except KeyFault ReadKey :=
  match Der.whole? (Der.listOf? Element.natural?) bs with
  | some [0, _, _, _, _, _] => .ok (.checked (.other AlgorithmId.dsaKey))
  | _ => .error .malformed

/-- A key in the general form, as the algorithm that it is for, and bytes that only that algorithm can read. -/
structure Encoded where
  algorithm : AlgorithmIdentifier
  content : Bytes
  deriving DecidableEq, Repr

/-- An attribute of a key: an identifier and a set of values. -/
def isAttribute (e : Element) : Option Unit :=
  Der.sequence? (do
    let _ ← Fields.item Element.oid?
    let _ ← Fields.item (Der.setOf? some)
    return ()) e

/-- Reads the general form: the first version, the algorithm, the key, and perhaps attributes. -/
def Encoded.read? : Element → Option Encoded :=
  Der.sequence? do
    let version ← Fields.item (Element.word? 8)
    let algorithm ← Fields.item AlgorithmIdentifier.read?
    let content ← Fields.item Element.octets?
    let _ ← Fields.implicit 0 Der.setTag (Der.setOf? isAttribute)
    if version = 0 then return ⟨algorithm, content⟩ else failure

/-- A key for agreement, or for a signature that is of no use here. -/
def ofOther (k : Encoded) : Except KeyFault ReadKey :=
  let oid := k.algorithm.oid
  let number? : Option Nat := Der.whole? Element.natural? k.content
  let otherIf (valid : Bool) : Except KeyFault ReadKey :=
    if valid then .ok (.checked (.other oid)) else .error .malformed
  if oid = AlgorithmId.dsaKey then otherIf number?.isSome
  else
    match X509.EncodedKey.fixedLengths.find? (·.1 = oid), X509.EncodedKey.agreements.find? (·.1 = oid) with
    | some (_, length), _ => otherIf ((Der.whole? Element.octets? k.content).any (·.length = length))
    | none, some (_, read) =>
      otherIf (number?.isSome && (k.algorithm.parameters? read).any fun group =>
        isAgreementGroup group.p group.q group.g)
    | none, none => .error .unknown

/-- A key in the general form. -/
def ofGeneral (bs : Bytes) : Except KeyFault ReadKey :=
  match Der.whole? Encoded.read? bs with
  | none => .error .malformed
  | some k =>
    if k.algorithm.oid = AlgorithmId.rsaKey || k.algorithm.oid = AlgorithmId.rsaPssKey then ofRsa k.content
    else if k.algorithm.oid = AlgorithmId.ecKey then ofCurve (k.algorithm.parameters? CurveChoice.read?) k.content
    else ofOther k

end PrivateKey

end RemoteSigning
