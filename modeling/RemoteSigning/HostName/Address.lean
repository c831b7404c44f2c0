import RemoteSigning.Text.CodePoint

/-!
# Addresses in the place of host names

A host may be given by its number. The number is written in four decimal parts, or in eight hexadecimal ones of which a
row that is zero can be left out.

- `Address.isOld` and `Address.isNew` accept the two forms.
-/

namespace RemoteSigning.Address

/-- A decimal part of an address: a number below 256 without a leading zero. -/
def isOctet (t : Text) : Bool :=
  t.all CodePoint.isAsciiDigit && ! t.isEmpty && t.length ≤ 3 && (t.length = 1 || t.head? != some '0') &&
    (t.foldl (fun n c => 10 * n + (c.val - 0x30)) 0) < 256

/-- Four parts of digits, which cannot be meant to be a name. -/
def isOldStyle (t : Text) : Bool :=
  let parts := t.splitOn '.'
  parts.length = 4 && parts.all fun p => ! p.isEmpty && p.all CodePoint.isAsciiDigit

/-- An address in four decimal parts. -/
def isOld (t : Text) : Bool :=
  let parts := t.splitOn '.'
  parts.length = 4 && parts.all isOctet

/-- A hexadecimal part of an address: at most four digits. -/
def isGroup (t : Text) : Bool := ! t.isEmpty && t.length ≤ 4 && t.all fun c => c.hexValue?.isSome

/-- An address at the end of another one counts as two parts. -/
def withoutOld? (parts : List Text) : Option (List Text) :=
  match parts.getLast? with
  | none => none
  | some last =>
    if last.contains "." then (if isOld last then some (parts.dropLast ++ [Text.ofString "0", Text.ofString "0"]) else none)
    else some parts

/-- The parts on one side of the row that is left out; the side may be empty, which leaves one empty part. -/
def isSide (parts : List Text) : Bool := parts = [[]] || parts.all isGroup

/-- The parts of an address with colons between them: eight, or fewer with one empty part in their midst that stands for
the others. -/
def areGroups (parts : List Text) : Bool :=
  let inner := (parts.drop 1).dropLast
  match inner.findIdx? List.isEmpty with
  | none => parts.length = 8 && parts.all isGroup
  | some i =>
    let left := parts.take (i + 1)
    let right := parts.drop (i + 2)
    let written := (parts.filter (! List.isEmpty ·)).length
    isSide left && isSide right && written < 8

/-- An address in hexadecimal parts. A zone may follow it, after a percent sign. -/
def isNew (t : Text) : Bool :=
  let percent : CodePoint := '%'
  let (number, zone) := t.span (· ≠ percent)
  let zoneFits := match zone with
    | [] => true
    | _ :: name => ! name.isEmpty && ! name.elem percent
  let parts := Text.splitOn ':' number
  zoneFits && 3 ≤ parts.length && (withoutOld? parts).any fun parts => parts.length ≤ 9 && areGroups parts

example : ["::", "::1", "1:2:3:4:5:6:7::", "::ffff:1.2.3.4", "fe80::1%eth0"].all (isNew ·) = true := by decide +kernel

example : ["", "1:2", ":::", "1::2::3", "1:2:3:4:5:6:7:8::", "12345::"].any (isNew ·) = false := by decide +kernel

end RemoteSigning.Address
