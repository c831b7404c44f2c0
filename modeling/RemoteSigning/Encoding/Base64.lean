import RemoteSigning.Text.CodePoint

/-!
# Base64

- `encode` writes the alphabet of the standard, padded to a multiple of four;
- `decode .strict` takes the alphabet and padding only, and names the first thing that is wrong;
- `decode .lenient` skips what is not in the alphabet, and stops at the first padding that completes four characters.

Both readers collect groups of four values; `length_group` says how many bytes a group stands for.
-/

namespace RemoteSigning.Base64

/-- The character of a value below 64. -/
def letter (n : Nat) : CodePoint :=
  CodePoint.ofNat <|
    if n < 26 then 0x41 + n
    else if n < 52 then 0x61 + (n - 26)
    else if n < 62 then 0x30 + (n - 52)
    else if n = 62 then 0x2B
    else 0x2F

/-- The value of a character of the alphabet. -/
def value? (c : CodePoint) : Option Nat :=
  let n := c.val
  if 0x41 ≤ n ∧ n ≤ 0x5A then some (n - 0x41)
  else if 0x61 ≤ n ∧ n ≤ 0x7A then some (n - 0x61 + 26)
  else if 0x30 ≤ n ∧ n ≤ 0x39 then some (n - 0x30 + 52)
  else if n = 0x2B then some 62
  else if n = 0x2F then some 63
  else none

theorem value?_letter {n : Nat} (h : n < 64) : value? (letter n) = some n := by
  have all : ∀ n : Fin 64, value? (letter n.val) = some n.val := by decide
  exact all ⟨n, h⟩

/-- The padding character. -/
def pad : CodePoint := '='

/-- The letters of bytes, three at a time; the last group is padded. -/
def encode : Bytes → Text
  | a :: b :: c :: rest =>
    letter (a.toNat / 4) :: letter (a.toNat % 4 * 16 + b.toNat / 16) :: letter (b.toNat % 16 * 4 + c.toNat / 64) ::
      letter (c.toNat % 64) :: encode rest
  | [a, b] => [letter (a.toNat / 4), letter (a.toNat % 4 * 16 + b.toNat / 16), letter (b.toNat % 16 * 4), pad]
  | [a] => [letter (a.toNat / 4), letter (a.toNat % 4 * 16), pad, pad]
  | [] => []

/-- How strictly a text is read. -/
inductive Strictness where
  | strict
  | lenient
  deriving DecidableEq, Repr

/-- What is wrong with a text. -/
inductive Fault where
  /-- The text begins with padding. -/
  | leadingPadding
  /-- Something follows the padding that completes a group. -/
  | excessData
  /-- A character is outside the alphabet. -/
  | foreignCharacter
  /-- A letter follows padding. -/
  | discontinuousPadding
  /-- The last group consists of a single letter; `letters` counts all of them. -/
  | singleLetter (letters : Nat)
  /-- The last group is not filled up. -/
  | incorrectPadding
  deriving DecidableEq, Repr

def Fault.message : Fault → Text
  | .leadingPadding => "Leading padding not allowed"
  | .excessData => "Excess data after padding"
  | .foreignCharacter => "Only base64 data is allowed"
  | .discontinuousPadding => "Discontinuous padding not allowed"
  | .singleLetter n =>
    "Invalid base64-encoded string: number of data characters (" ++ Text.ofNat n ++
      ") cannot be 1 more than a multiple of 4"
  | .incorrectPadding => "Incorrect padding"

/-- The bytes that are complete in a group of at most four values. -/
def group : List Nat → Bytes
  | [a, b] => [(a * 4 + b / 16).toUInt8]
  | [a, b, c] => [(a * 4 + b / 16).toUInt8, (b % 16 * 16 + c / 4).toUInt8]
  | [a, b, c, d] => [(a * 4 + b / 16).toUInt8, (b % 16 * 16 + c / 4).toUInt8, (c % 4 * 64 + d).toUInt8]
  | _ => []

/-- A group that is begun with `n + 1` values, at most four of them, stands for `n` bytes. -/
theorem length_group {vs : List Nat} (h : vs.length ≤ 4) : (group vs).length = vs.length - 1 := by
  match vs, h with
  | [], _ => rfl
  | [_], _ => rfl
  | [_, _], _ => rfl
  | [_, _, _], _ => rfl
  | [_, _, _, _], _ => rfl
  | _ :: _ :: _ :: _ :: _ :: _, h => simp only [List.length_cons] at h; omega

/-- A reader within a text. -/
structure Progress where
  /-- The values of the group that is begun. -/
  begun : List Nat := []
  /-- The padding since the last letter, as far as it counts. -/
  pads : Nat := 0
  /-- Padding has been seen. -/
  padded : Bool := false
  /-- The complete groups. -/
  groups : Nat := 0
  /-- Their bytes, last first. -/
  bytes : Bytes := []

/-- The bytes read so far, the group that is begun included. -/
def Progress.result (p : Progress) : Bytes := p.bytes.reverse ++ group p.begun

/-- One more value. -/
def Progress.push (p : Progress) (v : Nat) : Progress :=
  match p.begun ++ [v] with
  | [a, b, c, d] =>
    { p with begun := [], pads := 0, groups := p.groups + 1, bytes := (group [a, b, c, d]).reverse ++ p.bytes }
  | vs => { p with begun := vs, pads := 0 }

def readFrom (s : Strictness) (p : Progress) : Text → Except Fault Bytes
  | [] =>
    match p.begun with
    | [] => .ok p.result
    | [_] => .error (.singleLetter (4 * p.groups + 1))
    | _ => .error .incorrectPadding
  | c :: rest =>
    if c = pad then
      let pads := if p.begun.length ≥ 2 then p.pads + 1 else p.pads
      if p.begun.length ≥ 2 && p.begun.length + pads ≥ 4 then
        if s = .strict && !rest.isEmpty then .error .excessData else .ok p.result
      else readFrom s { p with pads := pads, padded := true } rest
    else match value? c with
      | none => if s = .strict then .error .foreignCharacter else readFrom s p rest
      | some v => if s = .strict && p.padded then .error .discontinuousPadding else readFrom s (p.push v) rest

def decode (s : Strictness) (t : Text) : Except Fault Bytes :=
  if s = .strict && t.head? = some pad then .error .leadingPadding else readFrom s {} t

/-- Padding that no group needs is no fault; a group that lacks some is. -/
example : decode .strict "Zm9v=" = .ok [0x66, 0x6F, 0x6F] ∧ decode .strict "Zm8" = .error .incorrectPadding ∧
    decode .strict "Zm9vZ" = .error (.singleLetter 5) ∧ decode .lenient "Z m8=x" = .ok [0x66, 0x6F] := by
  refine ⟨?_, ?_, ?_, ?_⟩ <;> cbv

end RemoteSigning.Base64
