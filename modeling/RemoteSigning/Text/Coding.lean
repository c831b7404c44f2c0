import RemoteSigning.Text.Quoted

/-!
# Encodings of text: faults and the reading loop

A decoder is given by what it finds at the head of its input: a code point and the rest, or a fault that spans some
bytes. `Decoder.decode` reads to the end or to the first fault, and says where the fault lies.

- `DecodeFault.message`, `EncodeFault.message` word the two kinds of fault.
-/

namespace RemoteSigning

/-- Bytes that are no text in an encoding. -/
structure DecodeFault where
  /-- The encoding. -/
  codec : String
  /-- The offset of the first byte at fault. -/
  start : Nat
  /-- The offset after the last byte at fault. -/
  stop : Nat
  /-- The first byte at fault. -/
  byte : UInt8
  /-- What is wrong. -/
  reason : String
  deriving DecidableEq, Repr

/-- The wording names the byte if there is only one. -/
def DecodeFault.message (e : DecodeFault) : Text :=
  "'" ++ Text.ofString e.codec ++ "' codec can't decode " ++
    (if e.stop = e.start + 1 then "byte 0x" ++ Text.hex 2 e.byte.toNat ++ " in position " ++ Text.ofNat e.start
     else "bytes in position " ++ Text.ofNat e.start ++ "-" ++ Text.ofNat (e.stop - 1)) ++
    ": " ++ Text.ofString e.reason

/-- Code points that have no form in an encoding. -/
structure EncodeFault where
  /-- The encoding. -/
  codec : String
  /-- The position of the first code point at fault. -/
  start : Nat
  /-- The position after the last one in a row. -/
  stop : Nat
  /-- The first code point at fault. -/
  point : CodePoint
  /-- What is wrong. -/
  reason : String
  deriving DecidableEq, Repr

/-- The wording shows the code point if there is only one. -/
def EncodeFault.message (e : EncodeFault) : Text :=
  "'" ++ Text.ofString e.codec ++ "' codec can't encode " ++
    (if e.stop = e.start + 1 then "character '" ++ e.point.numbered ++ "' in position " ++ Text.ofNat e.start
     else "characters in position " ++ Text.ofNat e.start ++ "-" ++ Text.ofNat (e.stop - 1)) ++
    ": " ++ Text.ofString e.reason

/-- The first run of code points that `bad` holds of, as a fault. -/
def Text.firstFault? (codec reason : String) (bad : CodePoint → Bool) (t : Text) : Option EncodeFault :=
  let start := (t.takeWhile (! bad ·)).length
  match t.drop start with
  | [] => none
  | c :: rest => some ⟨codec, start, start + 1 + (rest.takeWhile bad).length, c, reason⟩

/-- What a decoder finds at the head of its input. -/
inductive Decoder.Head where
  /-- A code point, and by how many bytes it is longer than one byte. -/
  | point (c : CodePoint) (more : Nat)
  /-- So many bytes that stand for nothing. -/
  | fault (length : Nat) (reason : String)

/-- An encoding, by the way its texts begin. -/
structure Decoder where
  /-- The name used in faults. -/
  codec : String
  /-- Reads the head of a non-empty input. -/
  head : UInt8 → Bytes → Decoder.Head

namespace Decoder

/-- Reads at most `fuel` code points; `start` is the offset of the input, `acc` what was read, last first. -/
def loop (d : Decoder) : Nat → Nat → Text → Bytes → Except DecodeFault Text
  | _, _, acc, [] => .ok acc.reverse
  | 0, _, acc, _ => .ok acc.reverse
  | fuel + 1, start, acc, b :: rest =>
    match d.head b rest with
    | .point c more => d.loop fuel (start + 1 + more) (c :: acc) (rest.drop more)
    | .fault n reason => .error ⟨d.codec, start, start + n, b, reason⟩

def decode (d : Decoder) (input : Bytes) : Except DecodeFault Text := d.loop input.length 0 [] input

end Decoder

end RemoteSigning
