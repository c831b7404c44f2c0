import RemoteSigning.Text.CodePoint

/-!
# Letter case, as far as ASCII can tell

A text is put into one case only to be compared with words of ASCII. For that it is enough to know the code points
whose other case is ASCII: the letters of ASCII, the long s and the dotless i, the sharp s, the Latin ligatures, and
the Kelvin sign. Every other code point keeps or gets a form outside ASCII, so `upper` and `lower` leave it alone, and
a comparison with a word of ASCII has the outcome of the full mapping.
-/

namespace RemoteSigning

namespace CodePoint

/-- A code point in upper case, where that is ASCII. -/
def upper (c : CodePoint) : Text :=
  if 0x61 ≤ c.val ∧ c.val ≤ 0x7A then [ofNat (c.val - 0x20)]
  else match c.val with
    | 0xDF => "SS"
    | 0x131 => "I"
    | 0x17F => "S"
    | 0xFB00 => "FF"
    | 0xFB01 => "FI"
    | 0xFB02 => "FL"
    | 0xFB03 => "FFI"
    | 0xFB04 => "FFL"
    | 0xFB05 => "ST"
    | 0xFB06 => "ST"
    | _ => [c]

/-- A code point in lower case, where that is ASCII. -/
def lower (c : CodePoint) : CodePoint :=
  if 0x41 ≤ c.val ∧ c.val ≤ 0x5A then ofNat (c.val + 0x20)
  else if c.val = 0x212A then 'k'
  else c

/-- A code point in lower case, where only the letters of ASCII have case. -/
def asciiLower (c : CodePoint) : CodePoint :=
  if 0x41 ≤ c.val ∧ c.val ≤ 0x5A then ofNat (c.val + 0x20) else c

end CodePoint

namespace Text

/-- The text in upper case, as far as ASCII can tell. -/
def upper (t : Text) : Text := t.flatMap CodePoint.upper

/-- The text in lower case, as far as ASCII can tell. -/
def lower (t : Text) : Text := t.map CodePoint.lower

/-- The text with the letters of ASCII in lower case. -/
def asciiLower (t : Text) : Text := t.map CodePoint.asciiLower

/-- The long s and the Kelvin sign count as letters of ASCII, a sharp s as two. -/
example : upper [0x17F, 0xDF] = "SSS" ∧ lower [0x212A, 0x130] = [0x6B, 0x130] := by decide

end Text

end RemoteSigning
