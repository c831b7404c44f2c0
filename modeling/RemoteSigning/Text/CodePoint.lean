/-!
# Code points and text

Text is a list of code points, surrogates included: a `\ud800` escape in a document or in an answer of the
service denotes a code point that no `Char` holds, and it has to be kept, compared and counted like any other.

- `Text.ofString` embeds the strings of the program;
- `Text.isScalar` tells the text that has a UTF-8 form.
-/

namespace RemoteSigning

/-- A code point, surrogates included. -/
abbrev CodePoint := Fin 0x110000

/-- A sequence of bytes. -/
abbrev Bytes := List UInt8

/-- A sequence of code points. -/
abbrev Text := List CodePoint

namespace CodePoint

def ofChar (c : Char) : CodePoint :=
  ⟨c.toNat, by have := c.valid; simp only [UInt32.isValidChar, Nat.isValidChar] at this; simp only [Char.toNat]; omega⟩

instance : Coe Char CodePoint := ⟨ofChar⟩

/-- The code point with a number, the last one for a number out of range. -/
def ofNat (n : Nat) : CodePoint := if h : n < 0x110000 then ⟨n, h⟩ else ⟨0x10FFFF, by decide⟩

/-- The first half of a surrogate pair. -/
def isHighSurrogate (c : CodePoint) : Bool := 0xD800 ≤ c.val && c.val ≤ 0xDBFF

/-- The second half of a surrogate pair. -/
def isLowSurrogate (c : CodePoint) : Bool := 0xDC00 ≤ c.val && c.val ≤ 0xDFFF

/-- Half of a surrogate pair; such a code point is no character. -/
def isSurrogate (c : CodePoint) : Bool := 0xD800 ≤ c.val && c.val ≤ 0xDFFF

def isAscii (c : CodePoint) : Bool := c.val < 0x80

/-- One of `0` to `9`. -/
def isAsciiDigit (c : CodePoint) : Bool := 0x30 ≤ c.val && c.val ≤ 0x39

/-- The value of a hexadecimal digit of ASCII, in either case. -/
def hexValue? (c : CodePoint) : Option Nat :=
  if 0x30 ≤ c.val && c.val ≤ 0x39 then some (c.val - 0x30)
  else if 0x61 ≤ c.val && c.val ≤ 0x66 then some (c.val - 0x61 + 10)
  else if 0x41 ≤ c.val && c.val ≤ 0x46 then some (c.val - 0x41 + 10)
  else none

/-- The character of a code point, if it has one. -/
def toChar? (c : CodePoint) : Option Char :=
  if h : c.val.isValidChar then some (Char.ofNatAux c.val h) else none

theorem ofChar_injective {c d : Char} (h : ofChar c = ofChar d) : c = d := by
  have h' : c.toNat = d.toNat := congrArg (fun x : CodePoint => x.val) h
  rw [← Char.ofNat_toNat c, ← Char.ofNat_toNat d, h']

end CodePoint

namespace Text

def ofString (s : String) : Text := s.toList.map CodePoint.ofChar

instance : Coe String Text := ⟨ofString⟩

/-- The string of a text without surrogates. -/
def toString? (t : Text) : Option String := (t.mapM CodePoint.toChar?).map String.ofList

/-- The text has no surrogate, hence a UTF-8 form. -/
def isScalar (t : Text) : Bool := t.all (! CodePoint.isSurrogate ·)

def isAscii (t : Text) : Bool := t.all CodePoint.isAscii

/-- The decimal digits of a natural number. -/
def ofNat (n : Nat) : Text := ofString (toString n)

/-- The decimal digits of an integer, after `-` if it is negative. -/
def ofInt (n : Int) : Text :=
  match n with
  | .ofNat n => ofNat n
  | .negSucc n => ofString "-" ++ ofNat (n + 1)

theorem ofString_injective {s t : String} (h : ofString s = ofString t) : s = t :=
  String.toList_inj.mp (List.map_inj_right (fun _ _ => CodePoint.ofChar_injective) |>.mp h)

def splitOn (separator : CodePoint) (t : Text) : List Text :=
  t.foldr (fun c parts =>
    if c = separator then [] :: parts
    else match parts with
      | part :: rest => (c :: part) :: rest
      | [] => [[c]]) [[]]

/-- Where `part` first occurs in `t`, and what follows it. -/
def cutAt? (part : Text) : Text → Option (Text × Text)
  | [] => if part.isEmpty then some ([], []) else none
  | c :: t =>
    if part.isPrefixOf (c :: t) then some ([], (c :: t).drop part.length)
    else (cutAt? part t).map fun (before, after) => (c :: before, after)

/-- `part` occurs in `t`. -/
def contains (t part : Text) : Bool := (cutAt? part t).isSome

/-- Hexadecimal digits of a number, at least `width` of them, in lower case. -/
def hex (width n : Nat) : Text :=
  let digits := (Nat.toDigits 16 n).map CodePoint.ofChar
  List.replicate (width - digits.length) (CodePoint.ofChar '0') ++ digits

end Text

end RemoteSigning
