import RemoteSigning.Asn1.Fields
import RemoteSigning.Asn1.Strings

/-!
# Names

A name is a sequence of parts, and a part is a set of attributes, each one an identifier with a value. Of the values only
three kinds of strings are looked at when a name is read; the others matter when the name is used.

- `Name.read?` reads a name; its sets have to be in order;
- `Name.check` says whether a name can be used, and if not why.
-/

namespace RemoteSigning.X509

open Der (Element Fields)

/-- Why something that can be read cannot be used. -/
inductive Misfit where
  /-- A value is not what its kind requires. -/
  | value
  /-- A value is of another kind than it has to be. -/
  | kind
  /-- A number stands for nothing. -/
  | unknown
  /-- A name is of a kind that cannot be used. -/
  | unsupported
  deriving DecidableEq, Repr

structure Attribute where
  oid : Oid
  value : Element
  deriving DecidableEq, Repr

abbrev NamePart := List Attribute

abbrev Name := List NamePart

/-- The strings whose characters are looked at when a name is read. -/
def checkedStrings : List (UInt8 × (Bytes → Option Text)) :=
  [(Der.printableStringTag, Der.printable?), (Der.bmpStringTag, Der.bmp?), (Der.universalStringTag, Der.universal?)]

def readValue? (e : Element) : Option Element :=
  match checkedStrings.find? fun (tag, _) => e.hasTag tag with
  | some (_, read) => (read e.content).map fun _ => e
  | none => some e

def Attribute.read? : Element → Option Attribute :=
  Der.sequence? do
    let oid ← Fields.item Element.oid?
    let value ← Fields.item readValue?
    return ⟨oid, value⟩

/-- A part of a name, in order. -/
def NamePart.read? : Element → Option NamePart := Der.setOf? Attribute.read?

def Name.read? : Element → Option Name := Der.listOf? NamePart.read?

/-! ## Use -/

/-- The identifier of the one attribute whose value may be a bit string. -/
def uniqueIdentifier : Oid := [2, 5, 4, 45]

/-- The tags of the values that an attribute may have: strings, times, and strings of bits and bytes. -/
def valueTags : Bytes := [3, 4, 12, 18, 19, 20, 22, 23, 24, 26, 28, 30]

/-- The value of an attribute: bytes for a bit string, text for everything else. -/
def Attribute.decode (a : Attribute) : Except Misfit (Sum Bytes Text) :=
  let v := a.value
  if ! v.more.isEmpty then .error .value
  else if ! valueTags.contains v.lead then .error .unknown
  else if v.hasTag Der.bitStringTag then
    if a.oid = uniqueIdentifier then .ok (.inl v.content) else .error .kind
  else
    let read := ((checkedStrings.find? fun (tag, _) => v.hasTag tag).map (·.2)).getD Der.utf8?
    match read v.content with
    | some t => .ok (.inr t)
    | none => .error .value

/-- No element of a list occurs again. -/
def distinct {α : Type} [BEq α] : List α → Bool
  | [] => true
  | a :: rest => ! rest.contains a && distinct rest

/-- A part of a name has attributes, each one once. -/
def NamePart.check (p : NamePart) : Except Misfit Unit := do
  let values ← p.mapM fun a => return (a.oid, ← a.decode)
  if values.isEmpty || ! distinct values then throw .value

/-- All parts of a name can be used. -/
def Name.check (n : Name) : Except Misfit Unit := n.forM NamePart.check

end RemoteSigning.X509
