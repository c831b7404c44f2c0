import RemoteSigning.Encoding.Punycode
import RemoteSigning.HostName.Context
import RemoteSigning.HostName.Direction
import RemoteSigning.HostName.Permitted
import RemoteSigning.Text.Lowercase

/-!
# Host names that are not ASCII

A host name is made of labels with dots between them. A label that is not ASCII is written in ASCII behind a mark. All
labels of such a name have to be well formed, also the ones that are ASCII or written already.

- `HostName.isLabel` are the rules for a label;
- `HostName.encode?` is the name in ASCII, in lower case.
-/

namespace RemoteSigning.HostName

/-- What marks a label that is written in ASCII. -/
def labelMark : Text := "xn--"

/-- Hyphens stand neither at an end nor as third and fourth. -/
def hyphensFit (label : Text) : Bool :=
  let hyphen : CodePoint := '-'
  (label.drop 2).take 2 ≠ [hyphen, hyphen] && label.head? ≠ some hyphen && label.getLast? ≠ some hyphen

/-- All code points may stand where they are; `before` is what was passed, the last one first. -/
def isPermittedFrom (before : Text) : Text → Bool
  | [] => true
  | c :: rest => (c.isPermitted || fitsContext before c rest) && isPermittedFrom (c :: before) rest

def isLabel (label : Text) : Bool :=
  ! label.isEmpty && hyphensFit label && ! label.head?.any CodePoint.isMark && isPermittedFrom [] label &&
    label.isDirected && label.composed = label

/-- A label in ASCII is well formed if what it was written from is. -/
def isAsciiLabel (label : Text) : Bool :=
  if labelMark.isPrefixOf label then
    let written := label.drop labelMark.length
    ! written.isEmpty && written.getLast? ≠ some '-' && (Punycode.decode? written).any isLabel
  else isLabel label

/-- A label in ASCII; it has 63 code points at most. -/
def encodeLabel? (label : Text) : Option Text :=
  let written := if label.isAscii then label else labelMark ++ Punycode.encode label
  let valid := if label.isAscii then isAsciiLabel label else isLabel label
  if valid && written.length ≤ 63 then some written else none

/-- The code points that stand for the dot between labels. -/
def isDot (c : CodePoint) : Bool := [0x2E, 0x3002, 0xFF0E, 0xFF61].contains c.val

/-- The name in ASCII. It may end with a dot; without that it has 253 code points at most. -/
def encode? (name : Text) : Option Text := do
  let dot : CodePoint := '.'
  let labels := Text.splitOn dot (name.lowercase.map fun c => if isDot c then dot else c)
  let endsWithDot := labels.getLast? = some []
  let written ← (if endsWithDot then labels.dropLast else labels).mapM encodeLabel?
  let whole := List.intercalate [dot] written
  if whole.isEmpty || 253 < whole.length then none
  else some (if endsWithDot then whole ++ [dot] else whole)

end RemoteSigning.HostName
