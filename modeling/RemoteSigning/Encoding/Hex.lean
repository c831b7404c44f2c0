import RemoteSigning.Text.Blank

/-!
# Bytes as hexadecimal digits

- `encode` writes two digits per byte, in lower case;
- `decode` reads pairs of digits in either case, with blanks of ASCII between the pairs.
-/

namespace RemoteSigning.Hex

/-- The digit of a number below sixteen. -/
def digit (n : Nat) : CodePoint := if n < 10 then CodePoint.ofNat (0x30 + n) else CodePoint.ofNat (0x61 + (n - 10))

def encodeByte (b : UInt8) : Text := [digit (b.toNat / 16), digit (b.toNat % 16)]

/-- Two digits per byte. -/
def encode (bs : Bytes) : Text := bs.flatMap encodeByte

/-- Something else than a digit stands where a digit has to. -/
structure Fault where
  position : Nat
  deriving DecidableEq, Repr

def Fault.message (e : Fault) : Text :=
  "non-hexadecimal number found in fromhex() arg at position " ++ Text.ofNat e.position

/-- Reads pairs; `first?` is the first digit of a pair that was begun, `position` the offset of the text. -/
def pairs (first? : Option Nat) (position : Nat) (acc : Bytes) : Text → Except Fault Bytes
  | [] => if first?.isSome then .error ⟨position⟩ else .ok acc.reverse
  | c :: rest =>
    match first? with
    | none =>
      if c.isAsciiBlank then pairs none (position + 1) acc rest
      else match c.hexValue? with
        | some v => pairs (some v) (position + 1) acc rest
        | none => .error ⟨position⟩
    | some v =>
      match c.hexValue? with
      | some w => pairs none (position + 1) ((v * 16 + w).toUInt8 :: acc) rest
      | none => .error ⟨position⟩

/-- Reads a text of pairs. A code point outside ASCII is found before any other fault. -/
def decode (t : Text) : Except Fault Bytes :=
  let ascii := (t.takeWhile CodePoint.isAscii).length
  if ascii < t.length then .error ⟨ascii⟩ else pairs none 0 [] t

/-- Blanks stand between pairs only, and a missing digit is a fault at the end. -/
example : decode "de Ad" = .ok [0xDE, 0xAD] ∧ decode "d e" = .error ⟨1⟩ ∧ decode "abc" = .error ⟨3⟩ := by
  refine ⟨?_, ?_, ?_⟩ <;> cbv

end RemoteSigning.Hex
