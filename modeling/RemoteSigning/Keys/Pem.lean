import RemoteSigning.Encoding.Base64
import RemoteSigning.Text.Blank
import RemoteSigning.Text.Utf8

/-!
# Labelled blocks in key files

A key file has blocks between a line that opens and a line that closes them, both with a label. What stands outside the
blocks does not count; a block may begin with headers, up to an empty line.

- `Pem.blocks?` finds all blocks; one that is not closed by its own label, or is no base64, spoils the file;
- `Pem.search?` looks for a mark the plain way: where a mark that was begun does not go on, it looks for its beginning
  again behind the byte that did not fit.
-/

namespace RemoteSigning.Pem

/-- A block, with its headers by name. -/
structure Block where
  label : Text
  headers : List (Text × Text)
  content : Bytes
  deriving DecidableEq, Repr

def mark (s : String) : Bytes := s.toUTF8.toList

def opening : Bytes := mark "-----BEGIN "

def closing : Bytes := mark "-----END "

/-- What ends a label. -/
def dashes : Bytes := mark "-----"

/-- What stands before a mark, and what follows it; `left` is what the mark still lacks, `before` what has been read, last
byte first. -/
def searchFrom? (whole left before : Bytes) : Bytes → Option (Bytes × Bytes)
  | [] => none
  | b :: rest =>
    match left with
    | m :: more =>
      if b = m then
        if more.isEmpty then some (((b :: before).drop whole.length).reverse, rest)
        else searchFrom? whole more (b :: before) rest
      else searchFrom? whole whole (b :: before) rest
    | [] => none

/-- What stands before a mark, and what follows it. -/
def search? (whole : Bytes) (bs : Bytes) : Option (Bytes × Bytes) := searchFrom? whole whole [] bs

/-- The blanks that may stand behind the dashes of a label. -/
def isGap (b : UInt8) : Bool := b = 0x20 || b = 0x09 || b = 0x0A || b = 0x0D

/-- The headers and the body of a block, between which there is an empty line. -/
def splitHeaders (bs : Bytes) : Bytes × Bytes :=
  ((search? (mark "\n\n") bs).or (search? (mark "\r\n\r\n") bs)).getD ([], bs)

/-- The text without white space at its end. -/
def trimEnd (t : Text) : Text := Text.dropWhileEnd CodePoint.isWhiteSpace t

/-- The lines of a text; one that ends the text leaves no empty line behind. -/
def linesOf (t : Text) : List Text :=
  let parts := t.splitOn '\n'
  let parts := if parts.getLast? = some [] then parts.dropLast else parts
  parts.map trimEnd

/-- A header: a name, a colon, and a value. -/
def header? (line : Text) : Option (Text × Text) :=
  (Text.cutAt? ":" line).map fun (name, value) =>
    (Text.trim CodePoint.isWhiteSpace name, Text.trim CodePoint.isWhiteSpace value)

/-- The bytes of a text in base64, in the one way in which they can be written. -/
def body? (t : Text) : Option Bytes :=
  let joined := (linesOf t).flatten
  (Base64.decode .strict joined).toOption.filter fun bs => Base64.encode bs = joined

def block? (label inside end_ : Bytes) : Option Block := do
  let text (bs : Bytes) : Option Text := (Utf8.decode bs).toOption
  let label ← text label
  let ending ← text end_
  if label.isEmpty || ending ≠ label then none
  let (headers, body) := splitHeaders inside
  let content ← body? (← text body)
  let headers ← (linesOf (← text headers)).mapM header?
  return ⟨label, headers, content⟩

/-- The parts of the first block: its label, what is inside, and the label that closes it; and the rest. -/
def parts? (bs : Bytes) : Option ((Bytes × Bytes × Bytes) × Bytes) := do
  let (_, bs) ← search? opening bs
  let (label, bs) ← search? dashes bs
  let (inside, bs) ← search? closing (bs.dropWhile isGap)
  let (end_, bs) ← search? dashes bs
  return ((label, inside, end_), bs.dropWhile isGap)

/-- The blocks of a file; `fuel` bounds their number. What is begun and not closed is no block. -/
def blocksUpTo : Nat → Bytes → Option (List Block)
  | 0, _ => some []
  | fuel + 1, bs =>
    match parts? bs with
    | none => some []
    | some ((label, inside, end_), rest) => do
      let b ← block? label inside end_
      return b :: (← blocksUpTo fuel rest)

def blocks? (bs : Bytes) : Option (List Block) := blocksUpTo bs.length bs

/-- A dash too many hides the mark that begins at the second one. -/
example : search? (mark "--A") (mark "x--Ay") = some (mark "x", mark "y") := by decide +kernel
example : search? (mark "--A") (mark "---Ay") = none := by decide +kernel

end RemoteSigning.Pem
