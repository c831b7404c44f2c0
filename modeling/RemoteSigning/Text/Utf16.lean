import RemoteSigning.Text.Coding

/-!
# UTF-16 and UTF-32

Both are read here as they arrive from a service: halves of surrogate pairs that stand alone are kept as surrogates, so
that the only faults are input that is cut off and, in UTF-32, numbers beyond the last code point.
-/

namespace RemoteSigning

/-- The order of the bytes in a unit of more than one byte. -/
inductive Endian where
  | little
  | big
  deriving DecidableEq, Repr

/-- How the order is named at the end of an encoding's name. -/
def Endian.label : Endian → String
  | .little => "le"
  | .big => "be"

/-- The number that bytes stand for in an order. -/
def Endian.toNat (e : Endian) (bs : Bytes) : Nat :=
  match e with
  | .little => bs.foldr (fun b n => n * 256 + b.toNat) 0
  | .big => bs.foldl (fun n b => n * 256 + b.toNat) 0

namespace Utf16

/-- The head of a UTF-16 text: a unit, or the two units of a pair. -/
def head (e : Endian) (b : UInt8) : Bytes → Decoder.Head
  | [] => .fault 1 "truncated data"
  | c :: rest =>
    let unit := CodePoint.ofNat (e.toNat [b, c])
    match rest with
    | d :: f :: _ =>
      let next := CodePoint.ofNat (e.toNat [d, f])
      if unit.isHighSurrogate && next.isLowSurrogate then
        .point (CodePoint.ofNat (0x10000 + (unit.val - 0xD800) * 0x400 + (next.val - 0xDC00))) 3
      else .point unit 1
    | _ => .point unit 1

/-- UTF-16 in a byte order. -/
def decoder (e : Endian) : Decoder := ⟨"utf-16-" ++ e.label, head e⟩

example : (decoder .little).decode [0x3D, 0xD8, 0x00, 0xDE, 0x00, 0xDC] = .ok [0x1F600, 0xDC00] := by cbv

end Utf16

namespace Utf32

/-- The head of a UTF-32 text: four bytes. -/
def head (e : Endian) (b : UInt8) : Bytes → Decoder.Head
  | c :: d :: f :: _ =>
    let n := e.toNat [b, c, d, f]
    if h : n < 0x110000 then .point ⟨n, h⟩ 3 else .fault 4 "code point not in range(0x110000)"
  | rest => .fault (rest.length + 1) "truncated data"

/-- UTF-32 in a byte order. -/
def decoder (e : Endian) : Decoder := ⟨"utf-32-" ++ e.label, head e⟩

end Utf32

end RemoteSigning
