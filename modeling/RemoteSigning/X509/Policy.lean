import RemoteSigning.X509.Name

/-!
# Policies

A certificate may name the policies under which it was issued, each one with qualifiers: the address of a statement, or a
notice for whoever relies on the certificate.

- `Policy.readAll?` reads the policies of a certificate;
- `Policy.check` says whether the qualifiers go by the identifiers of what they are.
-/

namespace RemoteSigning.X509

open Der (Element Fields)

/-- A qualifier of a policy, under the identifier that it is written with. -/
inductive Qualifier where
  /-- The address of a statement. -/
  | statement (oid : Oid) (address : Text)
  /-- A notice. -/
  | notice (oid : Oid)
  deriving DecidableEq, Repr

structure Policy where
  oid : Oid
  qualifiers : List Qualifier
  deriving DecidableEq, Repr

namespace Qualifier

/-- The identifier of the addresses of statements. -/
def statementId : Oid := [1, 3, 6, 1, 5, 5, 7, 2, 1]

def noticeId : Oid := [1, 3, 6, 1, 5, 5, 7, 2, 2]

/-- The reference to a notice elsewhere, by an organisation and numbers, and the text of the notice; both may be absent.
-/
def isNotice (e : Element) : Bool :=
  (Der.sequence? (do
    let _ ← Fields.tagged Der.sequenceTag (Der.sequence? do
      let _ ← Fields.item Element.displayText?
      Fields.item (Der.listOf? Element.natural?))
    let _ ← Fields.itemIf Element.isDisplayText Element.displayText?
    return ()) e).isSome

/-- Reads a qualifier by the kind of what is written. -/
def read? : Element → Option Qualifier :=
  Der.sequence? do
    let oid ← Fields.item Element.oid?
    let e ← Fields.next
    match e.ia5? with
    | some address => return .statement oid address
    | none => if isNotice e then return .notice oid else failure

def isConsistent : Qualifier → Bool
  | .statement oid _ => oid = statementId
  | .notice oid => oid = noticeId

end Qualifier

namespace Policy

def read? : Element → Option Policy :=
  Der.sequence? do
    let oid ← Fields.item Element.oid?
    let qualifiers ← Fields.tagged Der.sequenceTag (Der.listOf? Qualifier.read?)
    return ⟨oid, qualifiers.getD []⟩

def readAll? : Element → Option (List Policy) := Der.listOf? read?

/-- All qualifiers are consistent. -/
def check (p : Policy) : Except Misfit Unit :=
  if p.qualifiers.all Qualifier.isConsistent then .ok () else .error .value

end Policy

end RemoteSigning.X509
