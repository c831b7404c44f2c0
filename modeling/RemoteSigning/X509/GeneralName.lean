import RemoteSigning.X509.Name

/-!
# General names

The holder of a certificate goes by names of many kinds: addresses of mail, hosts, pages and machines, and names in the
sense of directories.

- `GeneralName.read?` reads one;
- `GeneralName.check` says whether it can be used: two old kinds cannot, an address of machines has to be one, and a
  name of a directory has to be usable itself.
-/

namespace RemoteSigning.X509

open Der (Element Fields)

inductive GeneralName where
  | other (oid : Oid) (value : Element)
  | mail (address : Text)
  | host (name : Text)
  | postal
  | directory (name : Name)
  | parties
  | page (address : Text)
  /-- An address of a machine, or of a network with its mask. -/
  | machine (address : Bytes)
  | registered (oid : Oid)
  deriving DecidableEq, Repr

namespace GeneralName

/-- An identifier, and an element in one that is numbered zero. -/
def readOther? (items : List Element) : Option GeneralName :=
  Fields.all? (do
    let oid ← Fields.item Element.oid?
    match ← Fields.explicit 0 some with
    | some value => return .other oid value
    | none => failure) items

/-- Reads a name by the number of its kind. -/
def read? (e : Element) : Option GeneralName :=
  let text (make : Text → GeneralName) : Option GeneralName := (Der.utf8? e.content).map make
  if ! e.more.isEmpty then none
  else if e.lead = Der.contextTag 0 then (Der.elements? e.content).bind readOther?
  else if e.lead = Der.plainContextTag 1 then text .mail
  else if e.lead = Der.plainContextTag 2 then text .host
  else if e.lead = Der.contextTag 3 then some .postal
  else if e.lead = Der.contextTag 4 then (Der.whole? Name.read? e.content).map .directory
  else if e.lead = Der.contextTag 5 then some .parties
  else if e.lead = Der.plainContextTag 6 then text .page
  else if e.lead = Der.plainContextTag 7 then some (.machine e.content)
  else if e.lead = Der.plainContextTag 8 then
    ({ e with lead := Der.oidTag } : Element).oid?.map .registered
  else none

/-- Whether an element is a general name, as far as its tag tells. -/
def isKind (e : Element) : Bool :=
  e.more.isEmpty && ((List.range 9).any fun n => e.lead = Der.contextTag n || e.lead = Der.plainContextTag n)

/-- A number of so many bits is ones followed by zeros. -/
def isMask (bits n : Nat) : Bool := (List.range (bits + 1)).any fun k => n = (1 <<< bits) - (1 <<< k)

/-- The address of one machine, in either length. -/
def isMachine (address : Bytes) : Bool := address.length = 4 || address.length = 16

/-- The address of a network and its mask, the bits that the mask does not cover being zero. -/
def isNetwork (address : Bytes) : Bool :=
  let half := address.length / 2
  let mask := Sha2.ofBytes (address.drop half)
  (half = 4 || half = 16) && address.length = 2 * half && isMask (8 * half) mask &&
    Sha2.ofBytes (address.take half) &&& mask = Sha2.ofBytes (address.take half)

/-- The name can be used. -/
def check : GeneralName → Except Misfit Unit
  | .postal | .parties => .error .unsupported
  | .directory name => name.check
  | .machine address => if isMachine address || isNetwork address then .ok () else .error .value
  | _ => .ok ()

/-- A list of names, and at least one. -/
def readList? (e : Element) : Option (List GeneralName) := (Der.listOf? read? e).filter (! ·.isEmpty)

def checkAll (names : List GeneralName) : Except Misfit Unit := names.forM check

/-- The first sixteen machines of a network, and a mask with a gap. -/
example : isNetwork [10, 0, 0, 0, 255, 255, 255, 240] = true := by cbv
example : isNetwork [10, 0, 0, 0, 255, 0, 255, 0] = false := by cbv

end GeneralName

end RemoteSigning.X509
