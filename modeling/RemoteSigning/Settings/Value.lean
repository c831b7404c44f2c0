import RemoteSigning.Fault
import RemoteSigning.Json.Reader
import RemoteSigning.Text.Blank
import RemoteSigning.Text.Case

/-!
# Values of settings

A setting may be given as a text, in which case it is read leniently, or as a value that already has a kind. What cannot
be read is refused with a problem that names the kind of value that was expected.

- `Text.toNumber?`, `Text.toInteger?`, `Text.toTruth?` read texts; `Text.plainForm?` is how an integer may be written freely;
- `Json.asNumber`, `asInteger`, `asTruth`, `asText` accept values.
-/

namespace RemoteSigning

namespace Text

/-- Digits may be separated by single underscores, which stand neither first nor last. -/
def withoutUnderscores? (t : Text) : Option Text :=
  let mark := CodePoint.ofChar '_'
  if t.head? = some mark || t.getLast? = some mark || t.contains "__" then none else some (t.filter (· ≠ mark))

/-- A sign, and what follows it; no sign stands for a plus. -/
def sign (t : Text) : Bool × Text :=
  match t with
  | c :: rest => if c = '-' then (true, rest) else if c = '+' then (false, rest) else (false, t)
  | [] => (false, [])

/-- The digits before and after a point, at least one of them, and what follows. -/
def decimal? (t : Text) : Option (Text × Text × Text) :=
  let (whole, rest) := Json.digitRun t
  let (fraction, rest) := match rest with
    | c :: more => if c = '.' then Json.digitRun more else ([], rest)
    | [] => ([], [])
  if whole.isEmpty && fraction.isEmpty then none else some (whole, fraction, rest)

/-- A number without its sign: a word, or decimal digits with an exponent that may be absent. -/
def magnitude? (negative : Bool) (t : Text) : Option Binary64 :=
  let word := t.asciiLower
  if word = Text.ofString "inf" || word = Text.ofString "infinity" then some (.infinite negative)
  else if word = Text.ofString "nan" then some .nan
  else match decimal? t with
    | none => none
    | some (whole, fraction, rest) =>
      let number (exponent : Int) : Binary64 :=
        .ofDecimal negative (Json.digitsValue (whole ++ fraction)) (exponent - fraction.length)
      match rest with
      | [] => some (number 0)
      | rest =>
        match Json.exponent? rest with
        | some (e, []) => some (number e)
        | _ => none

/-- A number, with an optional sign. -/
def signedMagnitude? (t : Text) : Option Binary64 :=
  let (negative, rest) := t.sign
  magnitude? negative rest

/-- The number that a text stands for, with white space around it. Among underscores there is no room for white space. -/
def toNumber? (t : Text) : Option Binary64 :=
  match signedMagnitude? (t.trim CodePoint.isWhiteSpace) with
  | some x => some x
  | none => (withoutUnderscores? t).bind signedMagnitude?

inductive IntegerFault where
  | notInteger
  /-- There are more digits than are read. -/
  | tooLong
  deriving DecidableEq, Repr

/-- The integer of a text in plain form: a minus that may be absent, and digits that begin with zero only if there are no
others. Sign and digits are 4300 at most. -/
def plainInteger? (t : Text) : Except IntegerFault Int :=
  let digits := if t.head? = some (CodePoint.ofChar '-') then t.drop 1 else t
  let negative := digits.length < t.length
  if digits.isEmpty || ! digits.all CodePoint.isAsciiDigit ||
      (digits.head? = some (CodePoint.ofChar '0') && 1 < digits.length) then .error .notInteger
  else if 4300 < t.length then .error .tooLong
  else .ok (if negative then -(Json.digitsValue digits : Int) else Json.digitsValue digits)

/-- What follows zeros at the head of a text, and underscores among them: a digit, a minus, or the last zero before a
point; all zeros are one. -/
def afterZeros? (last : CodePoint) : Text → Option Text
  | [] => some [last]
  | c :: rest =>
    if c = '0' || c = '_' then afterZeros? c rest
    else if c.isAsciiDigit || c = '-' then some (c :: rest)
    else if c = '.' then some (last :: c :: rest)
    else none

/-- The text without needless zeros at its head. -/
def dropZeros? : Text → Option Text
  | [] => none
  | c :: rest =>
    if c = '0' then afterZeros? c rest
    else if c.isAsciiDigit || c = '-' then some (c :: rest)
    else none

/-- The text without a point and the zeros after it, at least one of them, at its end. -/
def dropZeroFraction (t : Text) : Text :=
  match t.span (· ≠ CodePoint.ofChar '.') with
  | (whole, _ :: zeros) => if zeros.isEmpty || zeros.any (· ≠ CodePoint.ofChar '0') then t else whole
  | (_, []) => t

/-- The plain form of an integer that is written freely: with white space around it, a plus, needless zeros, underscores,
or a fraction of zeros. -/
def plainForm? (t : Text) : Option Text :=
  let t := t.trim CodePoint.isWhiteSpace
  let unsigned : Option Text :=
    match t with
    | c :: rest => if c = '+' then (if rest.head? = some (CodePoint.ofChar '-') then none else some rest) else some t
    | [] => none
  match unsigned.bind dropZeros? with
  | none => none
  | some t =>
    let t := dropZeroFraction t
    some ((withoutUnderscores? t).getD t)

def toInteger? (t : Text) : Except IntegerFault Int :=
  match plainInteger? t with
  | .error .notInteger =>
    match plainForm? t with
    | some u => plainInteger? u
    | none => .error .notInteger
  | r => r

def truthWords : List (Text × Bool) :=
  [("1", true), ("true", true), ("t", true), ("yes", true), ("y", true), ("on", true),
   ("0", false), ("false", false), ("f", false), ("no", false), ("n", false), ("off", false)]

def toTruth? (t : Text) : Option Bool := (truthWords.find? (·.1 = t.asciiLower)).map (·.2)

end Text

namespace Json

/-- A text that is to be read has to have a UTF-8 form. -/
def readText (t : Text) (read? : Text → Option α) (problem : FieldProblem) : Except FieldProblem α :=
  if ! t.isScalar then .error .stringUnicode
  else match read? t with
    | some a => .ok a
    | none => .error problem

def integerProblem : Text.IntegerFault → FieldProblem
  | .notInteger => .intParsing
  | .tooLong => .intParsingSize

/-- The integer fits 64 bits. -/
def isWord (n : Int) : Bool := -(1 <<< 63 : Nat) ≤ n && n < (1 <<< 63 : Nat)

def asNumber : Json → Except FieldProblem Binary64
  | .text t => readText t Text.toNumber? .floatParsing
  | .float x => .ok x
  | .bool b => .ok (.ofInt (if b then 1 else 0))
  | .int n =>
    match Binary64.ofInt n with
    | .infinite _ => .error .floatType
    | x => .ok x
  | _ => .error .floatType

/-- A number greater than zero. -/
def asPositive (v : Json) : Except FieldProblem Binary64 :=
  match v.asNumber with
  | .ok x => if x.isPositive then .ok x else .error .greaterThan
  | .error p => .error p

/-- The integer that a number is, strictly between the bounds of 64 bits. -/
def integerOf (x : Binary64) : Except FieldProblem Int :=
  match x with
  | .finite .. =>
    match x.toInt? with
    | some n => if isWord n && n ≠ -(1 <<< 63 : Nat) then .ok n else .error .intParsingSize
    | none => .error .intFromFloat
  | _ => .error .finiteNumber

def asInteger : Json → Except FieldProblem Int
  | .text t => if ! t.isScalar then .error .stringUnicode else t.toInteger?.mapError integerProblem
  | .int n => .ok n
  | .bool b => .ok (if b then 1 else 0)
  | .float x => integerOf x
  | _ => .error .intType

def truthOf (n : Int) : Except FieldProblem Bool :=
  if n = 0 then .ok false else if n = 1 then .ok true else .error .boolParsing

def asTruth : Json → Except FieldProblem Bool
  | .bool b => .ok b
  | .text t => readText t Text.toTruth? .boolParsing
  | .int n => if isWord n then truthOf n else .error .boolType
  | .float x =>
    match integerOf x with
    | .ok n => truthOf n
    | .error _ => .error .boolType
  | _ => .error .boolType

def asText : Json → Except FieldProblem Text
  | .text t => .ok t
  | _ => .error .stringType

def orNull (read : Json → Except FieldProblem α) : Json → Except FieldProblem (Option α)
  | .null => .ok none
  | v => (read v).map some

end Json

example : Text.toNumber? " +5. " = some (.ofInt 5) ∧ Text.toNumber? ".5e1" = some (.ofInt 5) ∧
    Text.toNumber? "5s" = none ∧ Text.toNumber? "." = none := by decide +kernel
example : Text.plainForm? " +00_012 " = some (Text.ofString "12") ∧ Text.plainForm? "1.0" = some (Text.ofString "1") ∧
    Text.plainForm? "0-1" = some (Text.ofString "-1") ∧ Text.plainForm? "+-1" = none := by decide +kernel

end RemoteSigning
