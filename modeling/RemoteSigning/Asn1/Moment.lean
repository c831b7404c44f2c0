import RemoteSigning.Asn1.Der

/-!
# Moments

A moment is a day of the calendar and a time of that day, to the second and without an offset. It is written with a year
of two digits, which then lies between 1950 and 2049, or of four.

- `Element.moment?` reads either form.
-/

namespace RemoteSigning.Der

/-- A day and a time. -/
structure Moment where
  year : Nat
  month : Nat
  day : Nat
  hour : Nat
  minute : Nat
  second : Nat
  deriving DecidableEq, Repr

namespace Moment

/-- Years with a day more in February. -/
def isLeap (year : Nat) : Bool := year % 4 == 0 && (year % 100 != 0 || year % 400 == 0)

def daysIn (year month : Nat) : Nat :=
  if month = 2 then (if isLeap year then 29 else 28)
  else if [4, 6, 9, 11].contains month then 30
  else 31

/-- The day is in the calendar, and the time is one of a day. -/
def isReal (m : Moment) : Bool :=
  1 ≤ m.month && m.month ≤ 12 && 1 ≤ m.day && m.day ≤ daysIn m.year m.month && m.hour ≤ 23 && m.minute ≤ 59 &&
    m.second ≤ 59

/-- A number that orders moments. -/
def key (m : Moment) : Nat :=
  ((((m.year * 100 + m.month) * 100 + m.day) * 100 + m.hour) * 100 + m.minute) * 100 + m.second

/-- The number of decimal digits. -/
def digits? (bs : Bytes) : Option Nat :=
  if bs.all fun b => 0x30 ≤ b && b ≤ 0x39 then some (bs.foldl (fun n b => n * 10 + (b.toNat - 0x30)) 0) else none

/-- A moment with a year of so many digits, written up to a `Z`. -/
def read? (yearDigits : Nat) (yearOf : Nat → Nat) (bs : Bytes) : Option Moment := do
  let field (i : Nat) : Option Nat := digits? ((bs.drop (yearDigits + 2 * i)).take 2)
  if bs.length ≠ yearDigits + 11 || bs.getLast? ≠ some 0x5A then none
  let m : Moment :=
    ⟨yearOf (← digits? (bs.take yearDigits)), ← field 0, ← field 1, ← field 2, ← field 3, ← field 4⟩
  if m.isReal then some m else none

/-- The year that two digits stand for. -/
def fullYear (n : Nat) : Nat := if n < 50 then 2000 + n else 1900 + n

end Moment

/-- A moment with a year of four digits. -/
def Element.generalizedTime? (e : Element) : Option Moment := (e.expect? generalizedTimeTag).bind (Moment.read? 4 id)

/-- A moment in either form. -/
def Element.moment? (e : Element) : Option Moment :=
  match e.expect? utcTimeTag with
  | some bs => Moment.read? 2 Moment.fullYear bs
  | none => e.generalizedTime?

end RemoteSigning.Der
