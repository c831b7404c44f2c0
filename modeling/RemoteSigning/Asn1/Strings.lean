import RemoteSigning.Asn1.Der
import RemoteSigning.Text.Utf16
import RemoteSigning.Text.Utf8

/-!
# Strings in distinguished encodings

Each kind of string admits its own characters, and has its own way to write them.

- `printable?`, `ascii?`, `visible?`, `utf8?`, `bmp?` and `universal?` read the bytes of a string as text;
- `displayText?` reads a string of one of the four kinds in which texts for people are written.
-/

namespace RemoteSigning.Der

/-- The characters that a printable string may have besides letters and digits. -/
def printableMarks : Bytes := [0x20, 0x27, 0x28, 0x29, 0x2B, 0x2C, 0x2D, 0x2E, 0x2F, 0x3A, 0x3D, 0x3F]

def isPrintable (b : UInt8) : Bool :=
  (0x41 ≤ b && b ≤ 0x5A) || (0x61 ≤ b && b ≤ 0x7A) || (0x30 ≤ b && b ≤ 0x39) || printableMarks.contains b

/-- Bytes of one character each, if they are all admitted. -/
def narrow? (admits : UInt8 → Bool) (bs : Bytes) : Option Text :=
  if bs.all admits then some (bs.map fun b => CodePoint.ofNat b.toNat) else none

/-- Letters, digits and a few marks. -/
def printable? (bs : Bytes) : Option Text := narrow? isPrintable bs

def ascii? (bs : Bytes) : Option Text := narrow? (· < 0x80) bs

/-- ASCII without control characters. -/
def visible? (bs : Bytes) : Option Text := narrow? (fun b => 0x20 ≤ b && b ≤ 0x7E) bs

def utf8? (bs : Bytes) : Option Text := (Utf8.decode bs).toOption

/-- What a decoder reads, if no half of a surrogate pair stands alone. -/
def scalars? (d : Decoder) (bs : Bytes) : Option Text := (d.decode bs).toOption.filter Text.isScalar

/-- UTF-16, the greater byte of a unit first. -/
def bmp? (bs : Bytes) : Option Text := scalars? (Utf16.decoder .big) bs

/-- UTF-32, the greatest byte of a unit first. -/
def universal? (bs : Bytes) : Option Text := scalars? (Utf32.decoder .big) bs

/-- The kinds of strings in which texts for people are written. -/
def displayStrings : List (UInt8 × (Bytes → Option Text)) :=
  [(ia5StringTag, ascii?), (utf8StringTag, utf8?), (visibleStringTag, visible?), (bmpStringTag, bmp?)]

/-- The element is a text for people, as far as its tag tells. -/
def Element.isDisplayText (e : Element) : Bool := displayStrings.any fun (tag, _) => e.hasTag tag

/-- A text for people. -/
def Element.displayText? (e : Element) : Option Text :=
  (displayStrings.find? fun (tag, _) => e.hasTag tag).bind fun (_, read) => read e.content

def Element.ia5? (e : Element) : Option Text := (e.expect? ia5StringTag).bind ascii?

/-- A pair of surrogates is one character; half of one is none. -/
example : bmp? [0xD8, 0x3D, 0xDE, 0x00] = some [0x1F600] := by cbv
example : bmp? [0xD8, 0x00] = none := by cbv

end RemoteSigning.Der
