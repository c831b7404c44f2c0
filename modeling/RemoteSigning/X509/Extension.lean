import RemoteSigning.Asn1.Moment
import RemoteSigning.X509.Admission
import RemoteSigning.X509.DistributionPoint
import RemoteSigning.X509.NameConstraints
import RemoteSigning.X509.Policy
import RemoteSigning.X509.SignedTimestamp

/-!
# Extensions

An extension is an identifier with contents, and says whether whoever does not know it has to refuse the certificate.
The contents of a known extension have a form, and on top of that conditions on what they say.

- `Extension.read?` reads an extension without its contents;
- `Extension.check` says whether the contents can be used;
- `KeyUsage` is the extension that tells what a key is for.
-/

namespace RemoteSigning.X509

open Der (Element Fields)

structure Extension where
  oid : Oid
  critical : Bool
  content : Bytes
  deriving DecidableEq, Repr

/-- Reads an extension; that it is not critical is not written. -/
def Extension.read? : Element → Option Extension :=
  Der.sequence? do
    let oid ← Fields.item Element.oid?
    let critical ← Fields.orDefault false (Fields.tagged Der.booleanTag Element.boolean?)
    let content ← Fields.item Element.octets?
    return ⟨oid, critical, content⟩

/-! ## Key usage -/

/-- What a key is for, one bit for each use. -/
structure KeyUsage where
  bits : Bytes
  deriving DecidableEq, Repr

namespace KeyUsage

def read? (e : Element) : Option KeyUsage := e.bits?.map fun (_, bits) => ⟨bits⟩

/-- The use with a number, counted from the greatest bit of the first byte. -/
def has (u : KeyUsage) (n : Nat) : Bool := ((u.bits[n / 8]?).getD 0) &&& (0x80 >>> (n % 8).toUInt8) != 0

def nonRepudiation (u : KeyUsage) : Bool := u.has 1

def keyAgreement (u : KeyUsage) : Bool := u.has 4

/-- A key that only enciphers or only deciphers is for the agreement on keys. -/
def check (u : KeyUsage) : Except Misfit Unit :=
  if (u.has 7 || u.has 8) && ! u.keyAgreement then .error .value else .ok ()

/-- The third byte of the encoding holds the first eight uses. -/
example : ((Der.whole? read? [0x03, 0x02, 0x06, 0x40]).map nonRepudiation) = some true := by cbv

end KeyUsage

/-! ## Forms and conditions -/

/-- The contents of a kind of extension: how they are read, and what they have to say. -/
def Contents := Bytes → Except Misfit Unit

namespace Contents

/-- Contents that are read, and then looked at. -/
def of {α : Type} (read : Element → Option α) (check : α → Except Misfit Unit) : Contents := fun bs =>
  match Der.whole? read bs with
  | some a => check a
  | none => .error .value

/-- Contents that only have to be readable. -/
def ofForm {α : Type} (read : Element → Option α) : Contents := of read fun _ => .ok ()

def require (condition : Bool) : Except Misfit Unit := if condition then .ok () else .error .value

/-- The holder is an authority, and how many authorities may follow it. -/
def basicConstraints : Contents :=
  of (Der.sequence? do
    let authority ← Fields.orDefault false (Fields.tagged Der.booleanTag Element.boolean?)
    let length ← Fields.tagged Der.integerTag (Element.word? 64)
    return (authority, length)) fun (authority, length) => require (authority || length.isNone)

/-- Names of the holder or the issuer, at least one. -/
def alternativeNames : Contents := of GeneralName.readList? GeneralName.checkAll

/-- What the key is used for beyond the key usage, at least one use. -/
def extendedKeyUsage : Contents := ofForm fun e => (Der.listOf? Element.oid? e).filter (! ·.isEmpty)

/-- Services and where they are found. -/
def accessDescriptions : Contents :=
  of (Der.listOf? (Der.sequence? do
    let _ ← Fields.item Element.oid?
    Fields.item GeneralName.read?)) GeneralName.checkAll

def policies : Contents := of Policy.readAll? fun ps => ps.forM Policy.check

/-- After how many certificates policies are required, or not mapped any more; one of the two. -/
def policyConstraints : Contents :=
  of (Der.sequence? do
    let required ← Fields.implicit 0 Der.integerTag (Element.word? 64)
    let mapped ← Fields.implicit 1 Der.integerTag (Element.word? 64)
    return (required, mapped)) fun (required, mapped) => require (required.isSome || mapped.isSome)

/-- Numbers of features that the holder's server has: two are known, and there has to be one. -/
def features : Contents :=
  of (Der.listOf? (Element.word? 64)) fun numbers =>
    if ! numbers.all fun n => n = 5 || n = 17 then .error .unknown
    else if numbers.isEmpty then .error .kind
    else .ok ()

/-- Nothing but the empty element. -/
def empty : Contents := ofForm fun e => if e.isNull then some () else none

def timestamps : Contents := of Element.octets? fun bs => require (SignedTimestamp.isList bs)

/-- The template from which the certificate was made, and its version. -/
def template : Contents :=
  ofForm (Der.sequence? do
    let _ ← Fields.item Element.oid?
    let _ ← Fields.tagged Der.integerTag (Element.word? 32)
    Fields.tagged Der.integerTag (Element.word? 32))

/-- Points where lists of withdrawn certificates are found. -/
def distributionPoints : Contents := of (Der.listOf? DistributionPoint.read?) fun ps => ps.forM DistributionPoint.check

/-- When the private key may be used: from one moment, to one, or both in order. No year is zero. -/
def usagePeriod : Contents :=
  of (Der.sequence? do
    let first ← Fields.implicit 0 Der.generalizedTimeTag Element.generalizedTime?
    let last ← Fields.implicit 1 Der.generalizedTimeTag Element.generalizedTime?
    return (first, last)) fun
  | (none, none) => .error .value
  | (first, last) =>
    require (first.all (1 ≤ ·.year) && last.all (1 ≤ ·.year) &&
      first.all fun f => last.all fun l => f.key ≤ l.key)

/-- Authorities that admit to professions. -/
def admissions : Contents := of Admissions.read? GeneralName.checkAll

end Contents

/-! ## Kinds -/

/-- The identifier of an extension of the standard, by its number. -/
def standardId (n : Nat) : Oid := [2, 5, 29, n]

def keyUsageId : Oid := standardId 15

/-- The contents of all kinds of extensions that are known. -/
def knownContents : List (Oid × Contents) :=
  [(keyUsageId, .of KeyUsage.read? KeyUsage.check), (standardId 14, .ofForm Element.octets?),
   (standardId 16, .usagePeriod), (standardId 17, .alternativeNames), (standardId 18, .alternativeNames),
   (standardId 19, .basicConstraints), (standardId 30, .of NameConstraints.read? NameConstraints.check),
   (standardId 31, .distributionPoints), (standardId 32, .policies),
   (standardId 35, .of AuthorityKey.read? AuthorityKey.check), (standardId 36, .policyConstraints),
   (standardId 37, .extendedKeyUsage), (standardId 46, .distributionPoints),
   (standardId 54, .ofForm Element.natural?), ([1, 3, 6, 1, 5, 5, 7, 1, 1], .accessDescriptions),
   ([1, 3, 6, 1, 5, 5, 7, 1, 11], .accessDescriptions), ([1, 3, 6, 1, 5, 5, 7, 1, 24], .features),
   ([1, 3, 6, 1, 5, 5, 7, 48, 1, 5], .empty), ([1, 3, 6, 1, 4, 1, 11129, 2, 4, 2], .timestamps),
   ([1, 3, 6, 1, 4, 1, 11129, 2, 4, 3], .empty), ([1, 3, 6, 1, 4, 1, 311, 21, 7], .template),
   ([1, 3, 36, 8, 3, 3], .admissions)]

/-- The contents can be used. -/
def Extension.check (x : Extension) : Except Misfit Unit :=
  match knownContents.find? (·.1 = x.oid) with
  | some (_, contents) => contents x.content
  | none => .ok ()

end RemoteSigning.X509
