import RemoteSigning.Text.Utf16
import RemoteSigning.Text.Utf8

/-!
# The encoding of a JSON text

A JSON text says in its first bytes how it is encoded: by a byte order mark, or by where the zeros are, as its first two
characters are ASCII.

- `TextEncoding.detect` tells the encoding;
- `decodeDetected` decodes; a mark is taken off first. Offsets in faults count the mark of UTF-16 and UTF-32, and not
  that of UTF-8.
-/

namespace RemoteSigning

/-- An encoding, and whether a mark precedes the text. -/
inductive TextEncoding where
  | utf8 (mark : Bool)
  | utf16 (order : Endian) (mark : Bool)
  | utf32 (order : Endian) (mark : Bool)
  deriving DecidableEq, Repr

namespace TextEncoding

/-- The encoding that a mark announces; the mark of UTF-32 begins with that of UTF-16. -/
def ofMark? : Bytes → Option TextEncoding
  | 0x00 :: 0x00 :: 0xFE :: 0xFF :: _ => some (.utf32 .big true)
  | 0xFF :: 0xFE :: 0x00 :: 0x00 :: _ => some (.utf32 .little true)
  | 0xFE :: 0xFF :: _ => some (.utf16 .big true)
  | 0xFF :: 0xFE :: _ => some (.utf16 .little true)
  | 0xEF :: 0xBB :: 0xBF :: _ => some (.utf8 true)
  | _ => none

/-- The encoding that the zeros among the first bytes show. -/
def ofZeros : Bytes → TextEncoding
  | a :: b :: c :: d :: _ =>
    if a = 0 then (if b = 0 then .utf32 .big false else .utf16 .big false)
    else if b = 0 then (if c = 0 && d = 0 then .utf32 .little false else .utf16 .little false)
    else .utf8 false
  | [a, b] => if a = 0 then .utf16 .big false else if b = 0 then .utf16 .little false else .utf8 false
  | _ => .utf8 false

def detect (bs : Bytes) : TextEncoding := (ofMark? bs).getD (ofZeros bs)

/-- How a text is decoded; halves of surrogate pairs are kept. -/
def decoder : TextEncoding → Decoder
  | .utf8 _ => Utf8.decoder true
  | .utf16 e _ => Utf16.decoder e
  | .utf32 e _ => Utf32.decoder e

/-- The bytes of the mark. -/
def markSize : TextEncoding → Nat
  | .utf8 mark => if mark then 3 else 0
  | .utf16 _ mark => if mark then 2 else 0
  | .utf32 _ mark => if mark then 4 else 0

/-- The bytes of the mark that offsets count. -/
def countedMark : TextEncoding → Nat
  | .utf8 _ => 0
  | e => e.markSize

end TextEncoding

/-- The text of bytes in the encoding that they show. -/
def decodeDetected (bs : Bytes) : Except DecodeFault Text :=
  let e := TextEncoding.detect bs
  (e.decoder.decode (bs.drop e.markSize)).mapError fun f =>
    { f with start := f.start + e.countedMark, stop := f.stop + e.countedMark }

/-- What begins with neither a mark nor a zero is UTF-8. -/
theorem detect_ascii {a b c d : UInt8} {rest : Bytes} (ha : a ≠ 0) (hb : b ≠ 0) (hm : a < 0x80) :
    TextEncoding.detect (a :: b :: c :: d :: rest) = .utf8 false := by
  have h1 : a ≠ 0xFF := fun h => by subst h; exact absurd hm (by decide)
  have h2 : a ≠ 0xFE := fun h => by subst h; exact absurd hm (by decide)
  have h3 : a ≠ 0xEF := fun h => by subst h; exact absurd hm (by decide)
  have hn : TextEncoding.ofMark? (a :: b :: c :: d :: rest) = none := by
    unfold TextEncoding.ofMark?
    split <;> simp_all
  simp [TextEncoding.detect, hn, TextEncoding.ofZeros, ha, hb]

end RemoteSigning
