import RemoteSigning.Asn1.Fields

/-!
# Algorithm identifiers

An algorithm is named by an identifier, and may have parameters. For the algorithms that are known the parameters have to
be what the algorithm asks for; whatever they are, they are no more than one element.

- `AlgorithmIdentifier.read?` reads one, with the identifiers that its parameters may contain;
- `ParameterRule` says what parameters an algorithm has, `ruleOf` which algorithm has which.
-/

namespace RemoteSigning

open Der (Element Fields)

/-! ## The identifiers of algorithms -/

namespace AlgorithmId

def rsaKey : Oid := [1, 2, 840, 113549, 1, 1, 1]
def rsaPssKey : Oid := [1, 2, 840, 113549, 1, 1, 10]
def ecKey : Oid := [1, 2, 840, 10045, 2, 1]
def dsaKey : Oid := [1, 2, 840, 10040, 4, 1]
def dhKey : Oid := [1, 2, 840, 113549, 1, 3, 1]
def dhPublicNumber : Oid := [1, 2, 840, 10046, 2, 1]
def x25519 : Oid := [1, 3, 101, 110]
def x448 : Oid := [1, 3, 101, 111]
def ed25519 : Oid := [1, 3, 101, 112]
def ed448 : Oid := [1, 3, 101, 113]

def sha1 : Oid := [1, 3, 14, 3, 2, 26]
def sha256 : Oid := [2, 16, 840, 1, 101, 3, 4, 2, 1]
def sha384 : Oid := [2, 16, 840, 1, 101, 3, 4, 2, 2]
def sha512 : Oid := [2, 16, 840, 1, 101, 3, 4, 2, 3]
def sha224 : Oid := [2, 16, 840, 1, 101, 3, 4, 2, 4]
def md5 : Oid := [1, 2, 840, 113549, 2, 5]

def hmacSha1 : Oid := [1, 2, 840, 113549, 2, 7]
def hmacSha224 : Oid := [1, 2, 840, 113549, 2, 8]
def hmacSha256 : Oid := [1, 2, 840, 113549, 2, 9]
def hmacSha384 : Oid := [1, 2, 840, 113549, 2, 10]
def hmacSha512 : Oid := [1, 2, 840, 113549, 2, 11]

def maskGeneration : Oid := [1, 2, 840, 113549, 1, 1, 8]

def pbes2 : Oid := [1, 2, 840, 113549, 1, 5, 13]
def pbkdf2 : Oid := [1, 2, 840, 113549, 1, 5, 12]
def scrypt : Oid := [1, 3, 6, 1, 4, 1, 11591, 4, 11]

def aes128 : Oid := [2, 16, 840, 1, 101, 3, 4, 1, 2]
def aes192 : Oid := [2, 16, 840, 1, 101, 3, 4, 1, 22]
def aes256 : Oid := [2, 16, 840, 1, 101, 3, 4, 1, 42]
def tripleDes : Oid := [1, 2, 840, 113549, 3, 7]
def singleDes : Oid := [1, 3, 14, 3, 2, 7]
def rc2 : Oid := [1, 2, 840, 113549, 3, 2]

/-- Encryption under a password of the oldest kind, with a digest that has a number and a cipher that has one. -/
def pbes1 (n : Nat) : Oid := [1, 2, 840, 113549, 1, 5, n]

/-- Encryption under a password as in key bundles, by the number of the cipher. -/
def bundlePbe (n : Nat) : Oid := [1, 2, 840, 113549, 1, 12, 1, n]

/-- Digests, keyed digests, and RSA with a digest. -/
def plain : List Oid :=
  sha1 :: hmacSha1 :: rsaKey :: [1, 3, 14, 3, 2, 29] ::
    ([1, 2, 3, 4, 7, 8, 9, 10].map fun n => [2, 16, 840, 1, 101, 3, 4, 2, n]) ++
    [hmacSha224, hmacSha256, hmacSha384, hmacSha512] ++
    ([5, 11, 12, 13, 14].map fun n => [1, 2, 840, 113549, 1, 1, n]) ++
    ([13, 14, 15, 16].map fun n => [2, 16, 840, 1, 101, 3, 4, 3, n])

/-- The keys on Edwards's and Montgomery's curves, and signatures with DSA and ECDSA with any digest but SHA-1. -/
def bare : List Oid :=
  [x25519, x448, ed25519, ed448] ++ ([1, 2, 3, 4].map fun n => [1, 2, 840, 10045, 4, 3, n]) ++
    ([1, 2, 3, 4, 9, 10, 11, 12].map fun n => [2, 16, 840, 1, 101, 3, 4, 3, n])

end AlgorithmId

/-! ## Parameters -/

structure AlgorithmIdentifier where
  oid : Oid
  parameters : Option Element
  deriving DecidableEq, Repr

/-- A curve that is given by its numbers. -/
structure ExplicitCurve where
  prime : Nat
  a : Bytes
  b : Bytes
  base : Bytes
  order : Nat
  deriving DecidableEq, Repr

/-- The numbers of a curve: a version, the field, the equation with the number that it was drawn from, the base point,
its order and perhaps the cofactor. -/
def ExplicitCurve.read? : Element → Option ExplicitCurve :=
  Der.sequence? do
    let _ ← Fields.item (Element.word? 8)
    let prime ← Fields.item (Der.sequence? do
      let _ ← Fields.item Element.oid?
      Fields.item Element.natural?)
    let (a, b) ← Fields.item (Der.sequence? do
      let a ← Fields.item Element.octets?
      let b ← Fields.item Element.octets?
      let _ ← Fields.tagged Der.bitStringTag Element.bits?
      return (a, b))
    let base ← Fields.item Element.octets?
    let order ← Fields.item Element.natural?
    let _ ← Fields.tagged Der.integerTag Element.natural?
    return ⟨prime, a, b, base, order⟩

inductive CurveChoice where
  | named (oid : Oid)
  /-- The curve of whoever issued the key. -/
  | implicit
  | explicit (curve : ExplicitCurve)
  deriving DecidableEq, Repr

def CurveChoice.read? (e : Element) : Option CurveChoice :=
  if e.isNull then some .implicit
  else (e.oid?.map .named).or ((ExplicitCurve.read? e).map .explicit)

/-- The prime, the order and the base of a group, and what may follow. -/
structure GroupNumbers where
  p : Nat
  /-- The order of the group, where it is written. -/
  q : Option Nat
  g : Nat
  deriving DecidableEq, Repr

/-- The numbers of a DSA key. -/
def GroupNumbers.readDsa? : Element → Option GroupNumbers :=
  Der.sequence? do
    let p ← Fields.item Element.natural?
    let q ← Fields.item Element.natural?
    let g ← Fields.item Element.natural?
    return ⟨p, some q, g⟩

/-- The numbers of a key agreement, with the length of secret numbers perhaps. -/
def GroupNumbers.readAgreement? : Element → Option GroupNumbers :=
  Der.sequence? do
    let p ← Fields.item Element.natural?
    let g ← Fields.item Element.natural?
    let _ ← Fields.tagged Der.integerTag (Element.word? 32)
    return ⟨p, none, g⟩

/-- The numbers of a key agreement with the order of the group, and with its cofactor and the way in which it was found
perhaps. -/
def GroupNumbers.readExtended? : Element → Option GroupNumbers :=
  Der.sequence? do
    let p ← Fields.item Element.natural?
    let g ← Fields.item Element.natural?
    let q ← Fields.item Element.natural?
    let _ ← Fields.tagged Der.integerTag Element.natural?
    let _ ← Fields.tagged Der.sequenceTag (Der.sequence? do
      let _ ← Fields.item Element.bits?
      Fields.item Element.natural?)
    return ⟨p, some q, g⟩

/-- Salt and rounds. -/
structure Salting where
  salt : Bytes
  rounds : Nat
  deriving DecidableEq, Repr

/-- Reads a salt and a number of rounds. -/
def Salting.read? : Element → Option Salting :=
  Der.sequence? do
    let salt ← Fields.item Element.octets?
    let rounds ← Fields.item (Element.word? 64)
    return ⟨salt, rounds⟩

/-- How a key is drawn from a password by many keyed digests. -/
structure Derivation where
  salting : Salting
  /-- The length of the key, where it is written. -/
  keyLength : Option Nat
  /-- The keyed digest, where it is written. -/
  digest : Option AlgorithmIdentifier
  deriving DecidableEq, Repr

/-- How a key is drawn from a password in a way that takes much memory. -/
structure MemoryDerivation where
  salt : Bytes
  cost : Nat
  blockSize : Nat
  lanes : Nat
  keyLength : Option Nat
  deriving DecidableEq, Repr

/-- Reads how much memory and work a key takes. -/
def MemoryDerivation.read? : Element → Option MemoryDerivation :=
  Der.sequence? do
    let salt ← Fields.item Element.octets?
    let cost ← Fields.item (Element.word? 64)
    let blockSize ← Fields.item (Element.word? 64)
    let lanes ← Fields.item (Element.word? 64)
    let keyLength ← Fields.tagged Der.integerTag (Element.word? 32)
    return ⟨salt, cost, blockSize, lanes, keyLength⟩

/-- The version that stands for a key size, and the initial block of RC2. -/
def readRc2? : Element → Option (Option Nat × Bytes) :=
  Der.sequence? do
    let version ← Fields.tagged Der.integerTag (Element.word? 32)
    let initial ← Fields.item Element.octets?
    if initial.length = 8 then return (version, initial) else failure

namespace AlgorithmIdentifier

/-- The algorithm with the empty element for parameters. -/
def withNull (oid : Oid) : AlgorithmIdentifier := ⟨oid, some ⟨Der.nullTag, [], []⟩⟩

section
-- reads the identifiers inside parameters
variable (inner : Element → Option AlgorithmIdentifier)

/-- A keyed digest under a password. -/
def readDerivation? : Element → Option Derivation :=
  Der.sequence? do
    let salt ← Fields.item Element.octets?
    let rounds ← Fields.item (Element.word? 64)
    let keyLength ← Fields.tagged Der.integerTag (Element.word? 64)
    let digest ← Fields.tagged Der.sequenceTag inner
    return ⟨⟨salt, rounds⟩, keyLength, digest⟩

/-- A derivation and a cipher. -/
def readPair? : Element → Option (AlgorithmIdentifier × AlgorithmIdentifier) :=
  Der.sequence? do
    let derivation ← Fields.item inner
    let cipher ← Fields.item inner
    return (derivation, cipher)

/-- A function that draws masks, with its digest. -/
def readMask? : Element → Option (Oid × AlgorithmIdentifier) :=
  Der.sequence? do
    let oid ← Fields.item Element.oid?
    let digest ← Fields.item inner
    return (oid, digest)

/-- The digest, the mask, the length of the salt and the trailer of a signature with a salt. -/
def isSaltedSignature (e : Element) : Bool :=
  (Der.sequence? (do
    let sha1 := withNull AlgorithmId.sha1
    let _ ← Fields.orDefault sha1 (Fields.explicit 0 inner)
    let _ ← Fields.orDefault (AlgorithmId.maskGeneration, sha1) (Fields.explicit 1 (readMask? inner))
    let _ ← Fields.orDefault 20 (Fields.explicit 2 (Element.word? 16))
    let _ ← Fields.explicit 3 (Element.word? 8)
    return ()) e).isSome

end

end AlgorithmIdentifier

inductive ParameterRule where
  /-- The empty element or none. -/
  | emptyOrNone
  /-- None. -/
  | none
  /-- So many bytes. -/
  | octets (size : Nat)
  /-- Salt and rounds; the salt may have a fixed length. -/
  | salting (size : Option Nat)
  /-- A curve. -/
  | curve
  /-- The numbers of a group, in one of three forms. -/
  | group (read : Element → Option GroupNumbers)
  /-- None, or those of a signature with a salt. -/
  | saltedSignature
  /-- A derivation and a cipher. -/
  | derivedCipher
  /-- A derivation by keyed digests; the usual one is not written. -/
  | derivation
  /-- A derivation that takes much memory. -/
  | memoryDerivation
  /-- A key size and an initial block. -/
  | rc2
  /-- Anything, or nothing. -/
  | anything

/-- The parameters are what a rule asks for; `inner` reads the identifiers inside. -/
def ParameterRule.admits (inner : Element → Option AlgorithmIdentifier) (rule : ParameterRule)
    (parameters : Option Element) : Bool :=
  match rule, parameters with
  | .anything, _ => true
  | .emptyOrNone, Option.none | .none, Option.none | .saltedSignature, Option.none => true
  | _, Option.none => false
  | .emptyOrNone, some e => e.isNull
  | .none, some _ => false
  | .octets size, some e => (e.octets?.map List.length) = some size
  | .salting size, some e =>
    match Salting.read? e with
    | some s => size.all (s.salt.length = ·)
    | Option.none => false
  | .curve, some e => (CurveChoice.read? e).isSome
  | .group read, some e => (read e).isSome
  | .saltedSignature, some e => AlgorithmIdentifier.isSaltedSignature inner e
  | .derivedCipher, some e => (AlgorithmIdentifier.readPair? inner e).isSome
  | .derivation, some e => (AlgorithmIdentifier.readDerivation? inner e).any fun d =>
    d.digest ≠ some (AlgorithmIdentifier.withNull AlgorithmId.hmacSha1)
  | .memoryDerivation, some e => (MemoryDerivation.read? e).isSome
  | .rc2, some e => (readRc2? e).isSome

namespace AlgorithmIdentifier

/-- The rules of the algorithms that are neither plain nor bare. -/
def rules : List (Oid × ParameterRule) :=
  [(AlgorithmId.rsaPssKey, .saltedSignature), (AlgorithmId.ecKey, .curve),
   (AlgorithmId.dsaKey, .group GroupNumbers.readDsa?), (AlgorithmId.dhKey, .group GroupNumbers.readAgreement?),
   (AlgorithmId.dhPublicNumber, .group GroupNumbers.readExtended?), (AlgorithmId.pbes2, .derivedCipher),
   (AlgorithmId.pbkdf2, .derivation), (AlgorithmId.scrypt, .memoryDerivation), (AlgorithmId.aes128, .octets 16),
   (AlgorithmId.aes192, .octets 16), (AlgorithmId.aes256, .octets 16), (AlgorithmId.tripleDes, .octets 8),
   (AlgorithmId.singleDes, .octets 8), (AlgorithmId.rc2, .rc2), (AlgorithmId.pbes1 3, .salting (some 8)),
   (AlgorithmId.bundlePbe 1, .salting none), (AlgorithmId.bundlePbe 3, .salting none),
   (AlgorithmId.bundlePbe 6, .salting none)]

def ruleOf (oid : Oid) : ParameterRule :=
  if AlgorithmId.plain.contains oid then .emptyOrNone
  else if AlgorithmId.bare.contains oid then .none
  else ((rules.find? (·.1 = oid)).map (·.2)).getD .anything

def readAny? : Element → Option AlgorithmIdentifier :=
  Der.sequence? do
    let oid ← Fields.item Element.oid?
    let parameters ← Fields.itemIf (fun _ => true) some
    return ⟨oid, parameters⟩

/-- Reads an identifier; `depth` bounds how deep identifiers lie in one another. -/
def readWithin? : Nat → Element → Option AlgorithmIdentifier
  | 0, _ => none
  | depth + 1, e => (readAny? e).filter fun a => (ruleOf a.oid).admits (readWithin? depth) a.parameters

/-- Reads an identifier. Those inside are shorter, so that their depth is bounded by the length. -/
def read? (e : Element) : Option AlgorithmIdentifier := readWithin? (e.content.length + 1) e

/-- Parameters, read as what they are for their algorithm. -/
def parameters? {α : Type} (a : AlgorithmIdentifier) (read : Element → Option α) : Option α := a.parameters.bind read

end AlgorithmIdentifier

/-- RSA asks for the empty element or for nothing, Edwards's curves ask for nothing. -/
example : (Der.whole? AlgorithmIdentifier.read? [0x30, 0x05, 0x06, 0x03, 0x2B, 0x65, 0x70]).isSome = true := by cbv
example : (Der.whole? AlgorithmIdentifier.read? [0x30, 0x07, 0x06, 0x03, 0x2B, 0x65, 0x70, 0x05, 0x00]) = none := by cbv

end RemoteSigning
