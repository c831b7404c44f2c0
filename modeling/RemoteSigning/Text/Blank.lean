import RemoteSigning.Text.CodePoint

/-!
# White space

Two sets are in use. `isWhiteSpace` is the property White_Space of Unicode. `isBlank` adds the four separators
U+001C to U+001F, and is what surrounds an algorithm identifier, armour and the values of an environment file.

- `strip_blank_append`: blanks in front of a text do not survive `strip`.
-/

namespace RemoteSigning

namespace CodePoint

/-- The property White_Space. -/
def isWhiteSpace (c : CodePoint) : Bool :=
  (9 ≤ c.val && c.val ≤ 13) || c.val == 0x20 || c.val == 0x85 || c.val == 0xA0 || c.val == 0x1680 ||
    (0x2000 ≤ c.val && c.val ≤ 0x200A) || c.val == 0x2028 || c.val == 0x2029 || c.val == 0x202F ||
    c.val == 0x205F || c.val == 0x3000

/-- White space or one of the separators U+001C to U+001F. -/
def isBlank (c : CodePoint) : Bool := c.isWhiteSpace || (0x1C ≤ c.val && c.val ≤ 0x1F)

/-- White space of ASCII. -/
def isAsciiBlank (c : CodePoint) : Bool := (9 ≤ c.val && c.val ≤ 13) || c.val == 0x20

/-- A line feed or a carriage return. -/
def isLineEnd (c : CodePoint) : Bool := c.val == 10 || c.val == 13

/-- A blank that ends no line. -/
def isInlineBlank (c : CodePoint) : Bool := c.isBlank && !c.isLineEnd

end CodePoint

namespace Text

/-- The text without what satisfies `p` at its end. -/
def dropWhileEnd (p : CodePoint → Bool) (t : Text) : Text := (t.reverse.dropWhile p).reverse

/-- The text without what satisfies `p` at its two ends. -/
def trim (p : CodePoint → Bool) (t : Text) : Text := dropWhileEnd p (t.dropWhile p)

/-- The text without the blanks around it. -/
def strip (t : Text) : Text := trim CodePoint.isBlank t

theorem strip_blank_append {b t : Text} (hb : b.all CodePoint.isBlank) : strip (b ++ t) = strip t := by
  induction b with
  | nil => rfl
  | cons c b ih =>
    simp only [List.all_cons, Bool.and_eq_true] at hb
    rw [← ih hb.2]
    simp [strip, trim, hb.1]

end Text

end RemoteSigning
