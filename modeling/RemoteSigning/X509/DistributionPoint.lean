import RemoteSigning.X509.GeneralName

/-!
# Distribution points

Lists of withdrawn certificates are found at distribution points. A point has names, or a name that is relative to the
issuer's, and the issuer of the list if that is somebody else.

- `DistributionPoint.read?` reads one;
- `DistributionPoint.check` says whether it can be used: all names can, and there is one;
- `AuthorityKey` is the reference to the issuer's key, with the issuer and the number of its certificate, or neither.
-/

namespace RemoteSigning.X509

open Der (Element Fields)

inductive PointName where
  | full (names : List GeneralName)
  | relative (part : NamePart)
  deriving DecidableEq, Repr

structure DistributionPoint where
  name : Option PointName
  issuer : Option (List GeneralName)
  deriving DecidableEq, Repr

namespace PointName

def read? (e : Element) : Option PointName :=
  if e.hasTag (Der.contextTag 0) then
    (Der.listOf? GeneralName.read? { e with lead := Der.sequenceTag }).map .full
  else if e.hasTag (Der.contextTag 1) then (NamePart.read? { e with lead := Der.setTag }).map .relative
  else none

def isGiven : PointName → Bool
  | .full names => ! names.isEmpty
  | .relative part => ! part.isEmpty

/-- The name can be used. -/
def check : PointName → Except Misfit Unit
  | .full names => GeneralName.checkAll names
  | .relative part => part.check

end PointName

namespace DistributionPoint

/-- Reads a point: its name, the reasons that its list covers, and the issuer of the list. -/
def read? : Element → Option DistributionPoint :=
  Der.sequence? do
    let name ← Fields.explicit 0 PointName.read?
    let _ ← Fields.implicit 1 Der.bitStringTag Element.bits?
    let issuer ← Fields.implicit 2 Der.sequenceTag (Der.listOf? GeneralName.read?)
    return ⟨name, issuer⟩

/-- The names can be used, and there is one of the point or of the issuer. -/
def check (p : DistributionPoint) : Except Misfit Unit := do
  p.name.forM PointName.check
  p.issuer.forM GeneralName.checkAll
  if ! p.name.any PointName.isGiven && ! p.issuer.any (! ·.isEmpty) then throw .value

end DistributionPoint

/-- The issuer's key: by a reference, or by the issuer and the number of its certificate. -/
structure AuthorityKey where
  reference : Option Bytes
  issuer : Option (List GeneralName)
  serial : Option Nat
  deriving DecidableEq, Repr

namespace AuthorityKey

/-- Reads what the key is known by. -/
def read? : Element → Option AuthorityKey :=
  Der.sequence? do
    let reference ← Fields.implicit 0 Der.octetStringTag Element.octets?
    let issuer ← Fields.implicit 1 Der.sequenceTag (Der.listOf? GeneralName.read?)
    let serial ← Fields.implicit 2 Der.integerTag Element.natural?
    return ⟨reference, issuer, serial⟩

/-- The issuer can be used, and comes with a number. -/
def check (k : AuthorityKey) : Except Misfit Unit := do
  k.issuer.forM GeneralName.checkAll
  if k.issuer.isSome != k.serial.isSome then throw .value

end AuthorityKey

end RemoteSigning.X509
