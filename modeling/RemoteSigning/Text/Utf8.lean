import RemoteSigning.Text.Coding

/-!
# UTF-8

- `Utf8.decoder` reads the well-formed sequences of the standard; on request it also reads the three bytes that would
  stand for a surrogate. A sequence that is cut off, or that goes on with a wrong byte, is a fault of the bytes before.
- `Utf8.encode` refuses surrogates.
-/

namespace RemoteSigning.Utf8

/-- The shape of a sequence, by its first byte. -/
structure Lead where
  /-- How many bytes follow. -/
  tails : Nat
  /-- The least value of the first of them. -/
  low : Nat
  /-- The greatest value of the first of them. -/
  high : Nat
  /-- The bits of the code point in the first byte. -/
  bits : Nat

/-- The shape a first byte announces; continuation bytes and the bytes C0, C1 and F5 to FF announce none. -/
def lead? (b : Nat) : Option Lead :=
  if b < 0x80 then some ⟨0, 0x80, 0xBF, b⟩
  else if b < 0xC2 then none
  else if b < 0xE0 then some ⟨1, 0x80, 0xBF, b - 0xC0⟩
  else if b = 0xE0 then some ⟨2, 0xA0, 0xBF, 0⟩
  else if b = 0xED then some ⟨2, 0x80, 0x9F, 0xD⟩
  else if b < 0xF0 then some ⟨2, 0x80, 0xBF, b - 0xE0⟩
  else if b = 0xF0 then some ⟨3, 0x90, 0xBF, 0⟩
  else if b < 0xF4 then some ⟨3, 0x80, 0xBF, b - 0xF0⟩
  else if b = 0xF4 then some ⟨3, 0x80, 0x8F, 4⟩
  else none

/-- Reads the bytes that follow; `seen` bytes of the sequence have been read and give `bits`. -/
def tails : (count low high seen bits : Nat) → Bytes → Decoder.Head
  | 0, _, _, seen, bits, _ => .point (CodePoint.ofNat bits) (seen - 1)
  | _ + 1, _, _, seen, _, [] => .fault seen "unexpected end of data"
  | n + 1, low, high, seen, bits, b :: rest =>
    if low ≤ b.toNat ∧ b.toNat ≤ high then tails n 0x80 0xBF (seen + 1) (bits * 64 + (b.toNat - 0x80)) rest
    else .fault seen "invalid continuation byte"

/-- The last two of the three bytes of a surrogate, read as that surrogate. -/
def surrogate? : Bytes → Option CodePoint
  | b :: c :: _ =>
    if 0xA0 ≤ b.toNat ∧ b.toNat ≤ 0xBF ∧ 0x80 ≤ c.toNat ∧ c.toNat ≤ 0xBF then
      some (CodePoint.ofNat (0xD000 + (b.toNat - 0x80) * 64 + (c.toNat - 0x80)))
    else none
  | _ => none

/-- The head of a UTF-8 text. -/
def head (surrogates : Bool) (b : UInt8) (rest : Bytes) : Decoder.Head :=
  match (if surrogates && b == 0xED then surrogate? rest else none) with
  | some c => .point c 2
  | none =>
    match lead? b.toNat with
    | some l => tails l.tails l.low l.high 1 l.bits rest
    | none => .fault 1 "invalid start byte"

/-- UTF-8, with or without the surrogates. -/
def decoder (surrogates : Bool) : Decoder := ⟨"utf-8", head surrogates⟩

/-- Reads UTF-8 in which no surrogates occur. -/
def decode (input : Bytes) : Except DecodeFault Text := (decoder false).decode input

def encodePoint (c : CodePoint) : Bytes :=
  let n := c.val
  if n < 0x80 then [n.toUInt8]
  else if n < 0x800 then [(0xC0 + n / 64).toUInt8, (0x80 + n % 64).toUInt8]
  else if n < 0x10000 then [(0xE0 + n / 4096).toUInt8, (0x80 + n / 64 % 64).toUInt8, (0x80 + n % 64).toUInt8]
  else [(0xF0 + n / 262144).toUInt8, (0x80 + n / 4096 % 64).toUInt8, (0x80 + n / 64 % 64).toUInt8,
    (0x80 + n % 64).toUInt8]

/-- The bytes of a text, surrogates encoded like any other code point of three bytes. -/
def encodeAll (t : Text) : Bytes := t.flatMap encodePoint

/-- The bytes of a text without surrogates. -/
def encode (t : Text) : Except EncodeFault Bytes :=
  match t.firstFault? "utf-8" "surrogates not allowed" CodePoint.isSurrogate with
  | some e => .error e
  | none => .ok (encodeAll t)

/-- Two, three and four bytes, and a sequence cut off after its second byte. -/
example : decode [0xC3, 0xB5, 0xE2, 0x82, 0xAC, 0xF0, 0x9F, 0x98, 0x80] = .ok [0xF5, 0x20AC, 0x1F600] := by cbv
example : decode [0x41, 0xE2, 0x82] = .error ⟨"utf-8", 1, 3, 0xE2, "unexpected end of data"⟩ := by cbv

end RemoteSigning.Utf8
