import RemoteSigning.Text.CodePoint

/-!
# Sets of code points

Properties of code points are given as sets, and these as ranges, in the hexadecimal numbers by which code points are
known: `5f` is one code point, `61-7a` all from one to another, and `100-12e/2` every second one.

- `CodePointSet.ofLines` reads a set from lines of ranges with blanks between them;
- `CodePointSet.contains` is membership.
-/

namespace RemoteSigning

/-- The number that hexadecimal digits stand for. -/
def Text.hexNumber? (t : Text) : Option Nat :=
  if t.isEmpty then none else t.foldlM (fun n c => c.hexValue?.map (16 * n + ·)) 0

/-- Code points at equal distances. -/
structure CodePointRange where
  first : Nat
  last : Nat
  step : Nat
  deriving DecidableEq, Repr

namespace CodePointRange

def contains (r : CodePointRange) (n : Nat) : Bool := r.first ≤ n && n ≤ r.last && (n - r.first) % r.step = 0

def ofText? (t : Text) : Option CodePointRange := do
  let (ends, step) ← match t.splitOn '/' with
    | [ends] => some (ends, 1)
    | [ends, step] => step.hexNumber?.map (ends, ·)
    | _ => none
  match ends.splitOn '-' with
  | [one] => one.hexNumber?.map fun n => ⟨n, n, step⟩
  | [first, last] => return ⟨← first.hexNumber?, ← last.hexNumber?, step⟩
  | _ => none

example : ofText? "100-12e/2" = some ⟨0x100, 0x12E, 2⟩ := by decide +kernel

end CodePointRange

structure CodePointSet where
  ranges : List CodePointRange
  deriving DecidableEq, Repr

namespace CodePointSet

def ofLines (lines : List String) : CodePointSet :=
  ⟨(lines.flatMap fun line => (Text.ofString line).splitOn ' ').filterMap CodePointRange.ofText?⟩

def contains (s : CodePointSet) (c : CodePoint) : Bool := s.ranges.any (·.contains c.val)

/-- The value of the first set that a code point is in. -/
def lookup? {α : Type} (table : List (α × CodePointSet)) (c : CodePoint) : Option α :=
  (table.find? fun (_, s) => s.contains c).map (·.1)

example : ofLines ["30-39 61-65/2", "7a"] = ⟨[⟨0x30, 0x39, 1⟩, ⟨0x61, 0x65, 2⟩, ⟨0x7A, 0x7A, 1⟩]⟩ := by decide +kernel

end CodePointSet

end RemoteSigning
