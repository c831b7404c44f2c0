import RemoteSigning.X509.GeneralName

/-!
# Constraints on names

An authority may be bound to names that lie below given ones, and kept from names below others. Both lists are trees of
names; a machine is a tree only together with the machines of its network, and a host only without a star.

- `NameConstraints.read?` reads the two lists;
- `NameConstraints.check` says whether the trees can be used.
-/

namespace RemoteSigning.X509

open Der (Element Fields)

/-- What names are permitted, and which of them are excluded. -/
structure NameConstraints where
  permitted : Option (List GeneralName)
  excluded : Option (List GeneralName)
  deriving DecidableEq, Repr

namespace NameConstraints

/-- Reads a tree: its top, and the depths that it has and may have. -/
def readTree? : Element → Option GeneralName :=
  Der.sequence? do
    let top ← Fields.item GeneralName.read?
    let _ ← Fields.orDefault 0 (Fields.implicit 0 Der.integerTag (Element.word? 64))
    let _ ← Fields.implicit 1 Der.integerTag (Element.word? 64)
    return top

/-- Reads both lists. -/
def read? : Element → Option NameConstraints :=
  Der.sequence? do
    let permitted ← Fields.implicit 0 Der.sequenceTag (Der.listOf? readTree?)
    let excluded ← Fields.implicit 1 Der.sequenceTag (Der.listOf? readTree?)
    return ⟨permitted, excluded⟩

/-- The top of a tree of machines is a network. -/
def isTree : GeneralName → Bool
  | .machine address => ! GeneralName.isMachine address
  | _ => true

def hasStar : GeneralName → Bool
  | .host name => name.contains "*"
  | _ => false

/-- A list has trees, and nothing else. -/
def checkTrees (names : List GeneralName) : Except Misfit Unit :=
  if names.isEmpty then .error .value
  else if ! names.all isTree then .error .kind
  else if names.any hasStar then .error .value
  else .ok ()

/-- All names of both lists can be used, and so can the lists. -/
def check (c : NameConstraints) : Except Misfit Unit := do
  c.permitted.forM GeneralName.checkAll
  c.excluded.forM GeneralName.checkAll
  c.permitted.forM checkTrees
  c.excluded.forM checkTrees
  if c.permitted.isNone && c.excluded.isNone then throw .value

end NameConstraints

end RemoteSigning.X509
