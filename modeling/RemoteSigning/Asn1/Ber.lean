import RemoteSigning.Asn1.Der

/-!
# Basic encoding rules

The basic rules leave it open how an element is written: a length may have more bytes than it needs or none at all, the
contents then ending with a mark, and a string may be cut into pieces. Every such element has one distinguished encoding.

- `Ber.read?` reads one element off the front and brings it into the distinguished form; `Ber.element?` drops the rest;
- `Ber.keepingFirst?` leaves the first element inside as it is written, because something else depends on its bytes.
-/

namespace RemoteSigning.Ber

open Der (Element)

/-- The length of an element. -/
inductive Extent where
  /-- So many bytes. -/
  | bytes (n : Nat)
  /-- All elements up to a mark. -/
  | untilMark
  deriving DecidableEq, Repr

/-- A length, in as many bytes as it may have, and the rest. -/
def extent? : Bytes → Option (Extent × Bytes)
  | [] => none
  | b :: rest =>
    if b < 0x80 then some (.bytes b.toNat, rest)
    else if b = 0x80 then some (.untilMark, rest)
    else
      let count := b.toNat - 0x80
      if rest.length < count then none else some (.bytes (Sha2.ofBytes (rest.take count)), rest.drop count)

/-- The further bytes of a tag, and the rest. -/
def tagTail? (lead : UInt8) (rest : Bytes) : Option (Bytes × Bytes) :=
  if lead &&& 0x1F = 0x1F then Der.longTag? rest else some ([], rest)

/-- A tag is that of a constructed element. -/
def isConstructed (lead : UInt8) : Bool := lead &&& 0x20 != 0

/-- The tags of strings, which may be cut into pieces. -/
def stringTags : Bytes := [3, 4, 12, 18, 19, 20, 22, 23, 24, 25, 26, 27, 28, 30]

/-- An element with the given items inside. The pieces of a string are put together. -/
def ofItems (lead : UInt8) (more : Bytes) (items : List Element) : Element :=
  if more.isEmpty && stringTags.contains (lead - 0x20) then ⟨lead - 0x20, [], items.flatMap (·.content)⟩
  else ⟨lead, more, items.flatMap (·.bytes)⟩

/-- Takes the mark at the end of a list of elements. -/
def takeMark? : Bytes → Option Bytes
  | 0 :: 0 :: rest => some rest
  | _ => none

mutual

/-- One element off the front in its distinguished form, and the rest; `fuel` bounds the elements read. What is inside a
constructed element is left as it is if it does not consist of elements. -/
def readUpTo? : Nat → Bytes → Option (Element × Bytes)
  | 0, _ => none
  | _, [] => none
  | fuel + 1, lead :: rest =>
    match tagTail? lead rest with
    | none => none
    | some (more, rest) =>
      match extent? rest with
      | none => none
      | some (.bytes n, rest) =>
        if rest.length < n then none
        else
          let content := rest.take n
          let after := rest.drop n
          if isConstructed lead then
            match listUpTo? fuel content with
            | some items => some (ofItems lead more items, after)
            | none => some (⟨lead, more, content⟩, after)
          else some (⟨lead, more, content⟩, after)
      | some (.untilMark, rest) =>
        if isConstructed lead then
          match markedUpTo? fuel rest with
          | some (items, after) => some (ofItems lead more items, after)
          | none => none
        else none

/-- All the elements that bytes consist of. -/
def listUpTo? : Nat → Bytes → Option (List Element)
  | _, [] => some []
  | 0, _ => none
  | fuel + 1, b :: rest =>
    match readUpTo? fuel (b :: rest) with
    | some (e, after) => (listUpTo? fuel after).map (e :: ·)
    | none => none

/-- The elements up to a mark, and the rest. -/
def markedUpTo? : Nat → Bytes → Option (List Element × Bytes)
  | 0, _ => none
  | fuel + 1, bs =>
    match takeMark? bs with
    | some after => some ([], after)
    | none =>
      match readUpTo? fuel bs with
      | some (e, rest) => (markedUpTo? fuel rest).map fun (items, after) => (e :: items, after)
      | none => none

end

/-- One element off the front in its distinguished form, and the rest. -/
def read? (bs : Bytes) : Option (Element × Bytes) := readUpTo? (2 * bs.length + 2) bs

/-- The element at the front; what follows it does not count. -/
def element? (bs : Bytes) : Option Element := (read? bs).map (·.1)

/-- The contents of the element at the front. Those that end with a mark are followed by the mark and by whatever follows
the element. -/
def contents? : Bytes → Option Bytes
  | [] => none
  | lead :: rest =>
    match (tagTail? lead rest).bind fun (_, rest) => extent? rest with
    | some (.bytes n, rest) => some (rest.take n)
    | some (.untilMark, rest) => some rest
    | none => none

/-- The sequence at the front in its distinguished form, apart from its first item, which keeps its bytes. -/
def keepingFirst? (bs : Bytes) : Option Element :=
  match element? bs, contents? bs with
  | some e, some contents =>
    match e.items?, read? contents with
    | some (_ :: items), some (_, after) =>
      some { e with content := contents.take (contents.length - after.length) ++ items.flatMap (·.bytes) }
    | _, _ => none
  | _, _ => none

/-- The bytes of a string in the place of one whose meaning depends on the place, also where it is cut into pieces. -/
def implicitOctets? (n : Nat) (e : Element) : Option Bytes :=
  if e.hasTag (Der.plainContextTag n) then some e.content
  else if e.hasTag (Der.contextTag n) then
    (Der.elements? e.content).bind fun items => (items.mapM Element.octets?).map List.flatten
  else none

/-- A sequence of a long number and a string in two pieces, without lengths. -/
example : element? [0x30, 0x80, 0x02, 0x81, 0x01, 0x05, 0x24, 0x80, 0x04, 0x01, 0x61, 0x04, 0x01, 0x62, 0, 0, 0, 0] =
    some ⟨0x30, [], [0x02, 0x01, 0x05, 0x04, 0x02, 0x61, 0x62]⟩ := by decide +kernel

/-- The first number keeps its long length, the second one does not. -/
example : keepingFirst? [0x30, 0x80, 0x02, 0x81, 0x01, 0x05, 0x02, 0x81, 0x01, 0x06, 0, 0, 7] =
    some ⟨0x30, [], [0x02, 0x81, 0x01, 0x05, 0x02, 0x01, 0x06]⟩ := by decide +kernel

end RemoteSigning.Ber
