import RemoteSigning.Crypto.Curve
import RemoteSigning.Crypto.Prime
import RemoteSigning.X509.AlgorithmIdentifier

/-!
# Public keys

A public key is written as the algorithm that it is for, and bits that only that algorithm can read.

- `EncodedKey.read?` reads the two, `EncodedKey.publicKey` what the bits stand for;
- `Curve.choose` finds the curve of a key, which may also be given by its numbers if they are those of a usual one.
-/

namespace RemoteSigning

open Der (Element Fields)

inductive KeyRefusal where
  /-- The kind of key is unknown, or the curve. -/
  | unknown
  /-- The key is not what its kind requires. -/
  | invalid
  deriving DecidableEq, Repr

namespace Curve

/-- The numbers of a curve, as they are written where it is not named. -/
def toExplicit (c : Curve) : ExplicitCurve where
  prime := c.p
  a := Sha2.toBytes c.fieldSize c.a
  b := Sha2.toBytes c.fieldSize c.b
  base := 4 :: Sha2.toBytes c.fieldSize c.gx ++ Sha2.toBytes c.fieldSize c.gy
  order := c.order

/-- The curves that may be given by their numbers. -/
def writtenOut : List Curve := [secp256r1, secp384r1, secp521r1]

def choose : CurveChoice → Except KeyRefusal Curve
  | .named oid =>
    match named? oid with
    | some c => .ok c
    | none => .error .unknown
  | .implicit => .error .unknown
  | .explicit numbers =>
    match writtenOut.find? fun c => c.toExplicit = numbers with
    | some c => .ok c
    | none => .error .unknown

end Curve

/-- A public key; of the kinds that are of no use here only the kind is kept. -/
inductive PublicKey where
  | rsa (modulus exponent : Nat)
  /-- A point of a curve, as it is written. -/
  | ec (curve : Curve) (point : Bytes)
  | other (algorithm : Oid)
  deriving DecidableEq, Repr

/-- Two public keys are the same key, in whatever form their points are written. -/
def PublicKey.same : PublicKey → PublicKey → Bool
  | .rsa n e, .rsa n' e' => n = n' && e = e'
  | .ec c point, .ec c' point' => c = c' && c.pointId? point = c'.pointId? point'
  | .other oid, .other oid' => oid = oid'
  | _, _ => false

namespace X509

/-- A public key, still encoded. -/
structure EncodedKey where
  algorithm : AlgorithmIdentifier
  bytes : Bytes
  deriving DecidableEq, Repr

def EncodedKey.read? : Element → Option EncodedKey :=
  Der.sequence? do
    let algorithm ← Fields.item AlgorithmIdentifier.read?
    let (_, bytes) ← Fields.item Element.bits?
    return ⟨algorithm, bytes⟩

/-- The modulus and the exponent of an RSA key. -/
def rsaNumbers? (bs : Bytes) : Option (Nat × Nat) :=
  (Der.whole? (Der.sequence? do
    let n ← Fields.item Element.natural?
    let e ← Fields.item Element.natural?
    return (n, e)) bs).filter fun (n, e) => 3 ≤ e && e < n && e % 2 = 1

namespace EncodedKey

/-- The lengths of the keys on the curves of Edwards and Montgomery. -/
def fixedLengths : List (Oid × Nat) :=
  [(AlgorithmId.ed25519, 32), (AlgorithmId.x25519, 32), (AlgorithmId.ed448, 57), (AlgorithmId.x448, 56)]

/-- The ways in which the group of a key for agreement is written. -/
def agreements : List (Oid × (Element → Option GroupNumbers)) :=
  [(AlgorithmId.dhKey, GroupNumbers.readAgreement?), (AlgorithmId.dhPublicNumber, GroupNumbers.readExtended?)]

def publicKey (k : EncodedKey) : Except KeyRefusal PublicKey :=
  let oid := k.algorithm.oid
  let number? : Option Nat := Der.whole? Element.natural? k.bytes
  let otherIf (valid : Bool) : Except KeyRefusal PublicKey := if valid then .ok (.other oid) else .error .invalid
  if oid = AlgorithmId.rsaKey || oid = AlgorithmId.rsaPssKey then
    match rsaNumbers? k.bytes with
    | some (n, e) => .ok (.rsa n e)
    | none => .error .invalid
  else if oid = AlgorithmId.ecKey then
    match k.algorithm.parameters? CurveChoice.read? with
    | none => .error .invalid
    | some choice => do
      let c ← Curve.choose choice
      if c.isEncodedPoint k.bytes then .ok (.ec c k.bytes) else .error .invalid
  else if oid = AlgorithmId.dsaKey then otherIf number?.isSome
  else
    match fixedLengths.find? (·.1 = oid), agreements.find? (·.1 = oid) with
    | some (_, length), _ => otherIf (k.bytes.length = length)
    | none, some (_, read) =>
      otherIf (number?.isSome && (k.algorithm.parameters? read).any fun group =>
        isAgreementGroup group.p group.q group.g)
    | none, none => .error .unknown

end EncodedKey

end X509

end RemoteSigning
