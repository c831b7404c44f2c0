import RemoteSigning.Asn1.Moment
import RemoteSigning.X509.Extension
import RemoteSigning.X509.PublicKey

/-!
# The structure of certificates

A certificate holds a version, names and a validity that are of no interest here, a public key, and extensions. What is
not built in this way is no certificate: every part is looked at, whether it is used or not.

- `X509.parse?` reads an encoding; a version other than the first and the third is a fault of its own.
-/

namespace RemoteSigning.X509

open Der (Element Fields)

/-- What is kept of a certificate. -/
structure Structure where
  version : Nat
  key : EncodedKey
  extensions : List Extension
  deriving DecidableEq, Repr

/-- From when to when a certificate is valid. -/
def readValidity? : Element → Option (Der.Moment × Der.Moment) :=
  Der.sequence? do
    let first ← Fields.item Element.moment?
    let last ← Fields.item Element.moment?
    return (first, last)

/-- What is signed of a certificate: the version, which is the first one unless it is written, the serial number, the
algorithm of the signature, the issuer, the validity, the holder and the holder's key; and then two old names and the
extensions, all of which may be absent. -/
def readBody? : Element → Option Structure :=
  Der.sequence? do
    let version ← Fields.orDefault 0 (Fields.explicit 0 (Element.word? 8))
    let _ ← Fields.item Element.integer?
    let _ ← Fields.item AlgorithmIdentifier.read?
    let _ ← Fields.item Name.read?
    let _ ← Fields.item readValidity?
    let _ ← Fields.item Name.read?
    let key ← Fields.item EncodedKey.read?
    let _ ← Fields.implicit 1 Der.bitStringTag Element.bits?
    let _ ← Fields.implicit 2 Der.bitStringTag Element.bits?
    let extensions ← Fields.explicit 3 (Der.listOf? Extension.read?)
    return ⟨version, key, extensions.getD []⟩

/-- A certificate: the body, the algorithm of its signature, and the signature. -/
def read? : Element → Option Structure :=
  Der.sequence? do
    let body ← Fields.item readBody?
    let _ ← Fields.item AlgorithmIdentifier.read?
    let _ ← Fields.item Element.bits?
    return body

/-- A certificate and nothing else. -/
def parse? (der : Bytes) : Option Structure := Der.whole? read? der

end RemoteSigning.X509
