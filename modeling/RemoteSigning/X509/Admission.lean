import RemoteSigning.X509.GeneralName

/-!
# Admissions to professions

A certificate may say to which professions its holder is admitted, by which authority, and under which number.

- `Admissions.read?` reads the admissions; what is kept of them are the names of the authorities.
-/

namespace RemoteSigning.X509.Admissions

open Der (Element Fields)

/-- The authority that names a profession: an identifier, an address and a text, any of which may be absent. -/
def isNamingAuthority (e : Element) : Option Unit :=
  Der.sequence? (do
    let _ ← Fields.tagged Der.oidTag Element.oid?
    let _ ← Fields.tagged Der.ia5StringTag Element.ia5?
    let _ ← Fields.itemIf Element.isDisplayText Element.displayText?
    return ()) e

/-- A profession: the authority, the names of the profession, its identifiers, a number and further bytes. -/
def isProfession (e : Element) : Option Unit :=
  Der.sequence? (do
    let _ ← Fields.explicit 0 isNamingAuthority
    let _ ← Fields.item (Der.listOf? Element.displayText?)
    let _ ← Fields.tagged Der.sequenceTag (Der.listOf? Element.oid?)
    let _ ← Fields.tagged Der.printableStringTag fun e => Der.printable? e.content
    let _ ← Fields.tagged Der.octetStringTag Element.octets?
    return ()) e

/-- The authority of an admission, which is in one place or in none. -/
def readAdmission? : Element → Option (Option GeneralName) :=
  Der.sequence? do
    let authority ← Fields.explicit 0 GeneralName.read?
    let _ ← Fields.explicit 1 isNamingAuthority
    let _ ← Fields.item (Der.listOf? isProfession)
    return authority

/-- The authorities, first the one for all admissions. -/
def read? : Element → Option (List GeneralName) :=
  Der.sequence? do
    let authority ← Fields.itemIf GeneralName.isKind GeneralName.read?
    let others ← Fields.item (Der.listOf? readAdmission?)
    return (authority :: others).filterMap id

end RemoteSigning.X509.Admissions
