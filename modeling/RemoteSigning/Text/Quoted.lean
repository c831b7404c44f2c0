import RemoteSigning.Text.Printable

/-!
# Quoted text and quoted bytes

The form in which texts and byte strings stand inside messages: between quotes, with a backslash before what would
end the quotes or could not be read. The single quote is used unless the content has single and no double quotes. The
examples at the end show the three kinds of escapes.
-/

namespace RemoteSigning

/-- The quote that surrounds a content: `"` if it holds `'` and no `"`, else `'`. -/
def quoteMark (hasSingle hasDouble : Bool) : Char := if hasSingle && !hasDouble then '"' else '\''

namespace CodePoint

/-- A code point by its number, in the shortest of the forms with 2, 4 and 8 hexadecimal digits. -/
def numbered (c : CodePoint) : Text :=
  if c.val < 0x100 then "\\x" ++ Text.hex 2 c.val
  else if c.val < 0x10000 then "\\u" ++ Text.hex 4 c.val
  else "\\U" ++ Text.hex 8 c.val

def quotedWithin (mark : Char) (c : CodePoint) : Text :=
  if c = mark ∨ c = '\\' then ['\\', c]
  else if c = '\t' then "\\t"
  else if c = '\n' then "\\n"
  else if c = '\r' then "\\r"
  else if c.isPrintable then [c]
  else c.numbered

end CodePoint

def Text.quoted (t : Text) : Text :=
  let mark := quoteMark (t.any (· == CodePoint.ofChar '\'')) (t.any (· == CodePoint.ofChar '"'))
  CodePoint.ofChar mark :: t.flatMap (CodePoint.quotedWithin mark) ++ [CodePoint.ofChar mark]

namespace Bytes

/-- A byte inside quotes: printable ASCII stands for itself, the rest is numbered. -/
def quotedByte (mark : Char) (b : UInt8) : Text :=
  let c := CodePoint.ofNat b.toNat
  if c = mark ∨ c = '\\' then ['\\', c]
  else if c = '\t' then "\\t"
  else if c = '\n' then "\\n"
  else if c = '\r' then "\\r"
  else if 0x20 ≤ b && b < 0x7F then [c]
  else c.numbered

/-- Bytes between quotes, after the letter `b`. -/
def quoted (bs : Bytes) : Text :=
  let mark := quoteMark (bs.contains 0x27) (bs.contains 0x22)
  CodePoint.ofChar 'b' :: CodePoint.ofChar mark :: bs.flatMap (quotedByte mark) ++ [CodePoint.ofChar mark]

end Bytes

example : Text.quoted "it's" = Text.ofString "\"it's\"" := by decide
example : Text.quoted "a\\\n\x7f" = Text.ofString "'a\\\\\\n\\x7f'" := by decide
example : Bytes.quoted [0xDE, 0x27, 0x22, 0x0A] = Text.ofString "b'\\xde\\'\"\\n'" := by decide

end RemoteSigning
