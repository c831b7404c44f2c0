import RemoteSigning.Json.Value
import RemoteSigning.Text.Newline

/-!
# Reading JSON

The reader goes from left to right and stops at the first fault. Beyond the standard it takes `NaN`, `Infinity` and
`-Infinity`, and lone surrogates in escapes. Integers have a limit on their digits. Nesting has a limit on its depth,
which is assumed to be the same for all answers.

- `Json.read` reads a text that is one value, with blanks around it;
- `Fault.message` words a fault, with line, column and offset of its place.
-/

namespace RemoteSigning.Json

inductive Fault where
  /-- Something else was expected, or cannot stand, at an offset. -/
  | malformed (what : String) (line column offset : Nat)
  /-- An integer has more digits than are read. -/
  | tooManyDigits (limit digits : Nat)
  /-- Arrays or objects are nested more deeply than is read. -/
  | tooDeep (container : String)
  deriving DecidableEq, Repr

def Fault.message : Fault → Text
  | .malformed what line column offset =>
    what ++ ": line " ++ Text.ofNat line ++ " column " ++ Text.ofNat column ++ " (char " ++ Text.ofNat offset ++ ")"
  | .tooManyDigits limit digits =>
    "Exceeds the limit (" ++ Text.ofNat limit ++ " digits) for integer string conversion: value has " ++
      Text.ofNat digits ++ " digits; use sys.set_int_max_str_digits() to increase the limit"
  | .tooDeep container =>
    "maximum recursion depth exceeded while decoding a JSON " ++ Text.ofString container ++ " from a unicode string"

/-- What is read at most. -/
structure Limits where
  /-- Digits of an integer. -/
  digits : Nat
  /-- Levels of nesting. -/
  depth : Nat

/-- The limits for answers of a service. The depth is an assumption: nesting is followed as far as the stack allows, and
how much of it is left depends on where the reader is called from. -/
def Limits.default : Limits := ⟨4300, 900⟩

/-- A fault before its place is worked out: how many code points of the input were left. -/
inductive Stop where
  | at (what : String) (left : Nat)
  | tooManyDigits (digits : Nat)
  | tooDeep (container : String)

def isBlank (c : CodePoint) : Bool := c.val = 0x20 || c.val = 0x09 || c.val = 0x0A || c.val = 0x0D

/-- The text without the blanks at its head. -/
def skipBlanks (s : Text) : Text := s.dropWhile isBlank

/-- The character for the letter after a backslash. -/
def unescape? (c : CodePoint) : Option CodePoint :=
  if c = '"' || c = '\\' || c = '/' then some c
  else if c = 'b' then some 8
  else if c = 'f' then some 12
  else if c = 'n' then some 10
  else if c = 'r' then some 13
  else if c = 't' then some 9
  else none

/-- The number of four hexadecimal digits at the head of a text. -/
def hex4? : Text → Option (Nat × Text)
  | a :: b :: c :: d :: rest => do
    let a ← a.hexValue?
    let b ← b.hexValue?
    let c ← c.hexValue?
    let d ← d.hexValue?
    return (a * 4096 + b * 256 + c * 16 + d, rest)
  | _ => none

/-- The code unit of four hexadecimal digits at the head of a text. Something has to follow the digits. -/
def unit? (s : Text) : Option (CodePoint × Text) :=
  match hex4? s with
  | some (n, c :: rest) => some (CodePoint.ofNat n, c :: rest)
  | _ => none

/-- The low surrogate that is escaped at the head of a text. A text too short for an escape has none; a longer one that
begins like an escape has to be one. -/
def lowSurrogate? (s : Text) : Except Stop (Option (CodePoint × Text)) :=
  match s with
  | b :: u :: h₁ :: h₂ :: h₃ :: h₄ :: next :: rest =>
    if b = CodePoint.ofChar '\\' && u = CodePoint.ofChar 'u' then
      match unit? (h₁ :: h₂ :: h₃ :: h₄ :: next :: rest) with
      | some (d, rest') => .ok (if d.isLowSurrogate then some (d, rest') else none)
      | none => .error (.at "Invalid \\uXXXX escape" (rest.length + 6))
    else .ok none
  | _ => .ok none

/-- The code point after `\u`: two escaped halves of a surrogate pair are one code point. -/
def escapedPoint (s : Text) : Except Stop (CodePoint × Text) :=
  match unit? s with
  | none => .error (.at "Invalid \\uXXXX escape" (s.length + 1))
  | some (c, rest) =>
    if c.isHighSurrogate then do
      match ← lowSurrogate? rest with
      | some (d, rest') =>
        return (CodePoint.ofNat (0x10000 + (c.val - 0xD800) * 0x400 + (d.val - 0xDC00)), rest')
      | none => return (c, rest)
    else .ok (c, rest)

/-- The rest of a string. `opening` is the input from its opening quote on, `acc` what was read of it, last first. Each
round consumes something, so the length of the input is `fuel` enough. -/
def string (opening : Text) : Nat → Text → Text → Except Stop (Text × Text)
  | 0, _, _ => .error (.at "Unterminated string starting at" opening.length)
  | _ + 1, _, [] => .error (.at "Unterminated string starting at" opening.length)
  | fuel + 1, acc, c :: rest =>
    if c = '"' then .ok (acc.reverse, rest)
    else if c = '\\' then
      match rest with
      | [] => .error (.at "Unterminated string starting at" opening.length)
      | e :: more =>
        if e = 'u' then
          match escapedPoint more with
          | .ok (p, rest') => string opening fuel (p :: acc) rest'
          | .error e => .error e
        else match unescape? e with
          | some p => string opening fuel (p :: acc) more
          | none => .error (.at "Invalid \\escape" (more.length + 2))
    else if c.val < 0x20 then .error (.at "Invalid control character at" (rest.length + 1))
    else string opening fuel (c :: acc) rest

/-- The digits at the head of a text, and the rest. -/
def digitRun (s : Text) : Text × Text := s.span CodePoint.isAsciiDigit

def digitsValue (t : Text) : Nat := t.foldl (fun n c => n * 10 + (c.val - 0x30)) 0

/-- The fraction at the head of a text: a point and at least one digit. -/
def fraction? : Text → Option (Text × Text)
  | c :: rest =>
    if c = '.' then
      match digitRun rest with
      | ([], _) => none
      | r => some r
    else none
  | [] => none

/-- The exponent at the head of a text: a letter, a sign that may be absent, and at least one digit. -/
def exponent? : Text → Option (Int × Text)
  | c :: rest =>
    if c = 'e' || c = 'E' then
      let (negative, digits) := match rest with
        | s :: more => if s = '-' then (true, more) else if s = '+' then (false, more) else (false, rest)
        | [] => (false, rest)
      match digitRun digits with
      | ([], _) => none
      | (ds, rest') => some (if negative then -(digitsValue ds : Int) else digitsValue ds, rest')
    else none
  | [] => none

/-- A number after its sign; `whole` is the input from the sign on. -/
def number (limit : Nat) (whole : Text) (negative : Bool) (s : Text) : Except Stop (Json × Text) :=
  match s with
  | [] => .error (.at "Expecting value" whole.length)
  | c :: rest =>
    if ! c.isAsciiDigit then .error (.at "Expecting value" whole.length)
    else
      let (digits, rest) := if c = '0' then ([c], rest) else digitRun s
      let float (fractional : Text) (exponent : Int) : Json :=
        .float (Binary64.ofDecimal negative (digitsValue (digits ++ fractional)) (exponent - fractional.length))
      match fraction? rest with
      | some (fractional, rest) =>
        match exponent? rest with
        | some (exponent, rest) => .ok (float fractional exponent, rest)
        | none => .ok (float fractional 0, rest)
      | none =>
        match exponent? rest with
        | some (exponent, rest) => .ok (float [] exponent, rest)
        | none =>
          if digits.length > limit then .error (.tooManyDigits digits.length)
          else .ok (.int (if negative then -(digitsValue digits : Int) else digitsValue digits), rest)

/-- The rest of a text after a word, if it begins with it. -/
def afterWord? (word : Text) (s : Text) : Option Text := if word.isPrefixOf s then some (s.drop word.length) else none

/-- The values that are written as words. -/
def words : List (Text × Json) :=
  [("null", .null), ("true", .bool true), ("false", .bool false), ("NaN", .float .nan),
   ("Infinity", .float (.infinite false)), ("-Infinity", .float (.infinite true))]

/-- A value that is a word or a number. -/
def scalar (limit : Nat) (s : Text) : Except Stop (Json × Text) :=
  match words.findSome? fun (w, v) => (afterWord? w s).map (v, ·) with
  | some r => .ok r
  | none =>
    match s with
    | c :: rest => if c = '-' then number limit s true rest else number limit s false s
    | [] => .error (.at "Expecting value" 0)

/-- The items of an array from the first one on, each read by `value`, up to the closing bracket. -/
def items (value : Text → Except Stop (Json × Text)) : Nat → List Json → Text → Except Stop (List Json × Text)
  | 0, _, s => .error (.at "Expecting ',' delimiter" s.length)
  | fuel + 1, acc, s => do
    let (v, rest) ← value s
    match skipBlanks rest with
    | c :: more =>
      if c = ']' then return ((v :: acc).reverse, more)
      if c = ',' then items value fuel (v :: acc) (skipBlanks more)
      else throw (.at "Expecting ',' delimiter" (more.length + 1))
    | [] => throw (.at "Expecting ',' delimiter" 0)

/-- The members of an object from the first one on, each value read by `value`, up to the closing brace. -/
def members (value : Text → Except Stop (Json × Text)) :
    Nat → List (Text × Json) → Text → Except Stop (List (Text × Json) × Text)
  | 0, _, s => .error (.at "Expecting ',' delimiter" s.length)
  | _ + 1, _, [] => .error (.at "Expecting property name enclosed in double quotes" 0)
  | fuel + 1, acc, q :: s => do
    if q ≠ '"' then throw (.at "Expecting property name enclosed in double quotes" (s.length + 1))
    let (name, rest) ← string (q :: s) fuel [] s
    match skipBlanks rest with
    | c :: more =>
      if c ≠ ':' then throw (.at "Expecting ':' delimiter" (more.length + 1))
      let (v, rest) ← value (skipBlanks more)
      match skipBlanks rest with
      | c :: more =>
        if c = '\x7d' then return (put acc name v, more)
        if c = ',' then members value fuel (put acc name v) (skipBlanks more)
        else throw (.at "Expecting ',' delimiter" (more.length + 1))
      | [] => throw (.at "Expecting ',' delimiter" 0)
    | [] => throw (.at "Expecting ':' delimiter" 0)

/-- A value; the second argument counts the levels of nesting that are left. -/
def value (limit fuel : Nat) : Nat → Text → Except Stop (Json × Text)
  | _, [] => .error (.at "Expecting value" 0)
  | depth, c :: rest =>
    if c = '"' then (string (c :: rest) fuel [] rest).map fun (t, r) => (.text t, r)
    else if c = '[' then
      match depth with
      | 0 => .error (.tooDeep "array")
      | depth + 1 =>
        match skipBlanks rest with
        | d :: more =>
          if d = ']' then .ok (.array [], more)
          else (items (value limit fuel depth) fuel [] (d :: more)).map fun (l, r) => (.array l, r)
        | [] => (items (value limit fuel depth) fuel [] []).map fun (l, r) => (.array l, r)
    else if c = '\x7b' then
      match depth with
      | 0 => .error (.tooDeep "object")
      | depth + 1 =>
        match skipBlanks rest with
        | d :: more =>
          if d = '\x7d' then .ok (.object [], more)
          else (members (value limit fuel depth) fuel [] (d :: more)).map fun (l, r) => (.object l, r)
        | [] => (members (value limit fuel depth) fuel [] []).map fun (l, r) => (.object l, r)
    else scalar limit (c :: rest)

/-- The place of a fault in the whole input. -/
def Stop.toFault (limits : Limits) (input : Text) : Stop → Fault
  | .at what left =>
    let offset := input.length - left
    let (line, column) := Text.position (input.take offset)
    .malformed what line column offset
  | .tooManyDigits n => .tooManyDigits limits.digits n
  | .tooDeep container => .tooDeep container

/-- Reads a text that is one value. -/
def read (limits : Limits) (input : Text) : Except Fault Json :=
  match value limits.digits (input.length + 1) limits.depth (skipBlanks input) with
  | .error e => .error (e.toFault limits input)
  | .ok (v, rest) =>
    match skipBlanks rest with
    | [] => .ok v
    | r => .error ((Stop.at "Extra data" r.length).toFault limits input)

end RemoteSigning.Json
