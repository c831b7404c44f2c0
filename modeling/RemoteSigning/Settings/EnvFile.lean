import RemoteSigning.Text.Blank
import RemoteSigning.Text.Newline
import RemoteSigning.Text.Utf8

/-!
# Environment files

An environment file has one binding per line: a name, `=` and a value, which may stand in quotes. A line that is no
binding is passed over. Values may refer to the environment and to bindings that stand above.

- `EnvFile.text` reads the bytes of a file; a mark of the byte order at its head does not count;
- `EnvFile.bindings` reads the bindings of a text, names without a value included;
- `EnvFile.expand` puts values in the place of references; `expand_of_no_dollar`: a value without `$` stays as it is;
- `EnvFile.values` is both.
-/

namespace RemoteSigning.EnvFile

/-- A name, and its value if it has one. -/
abbrev Binding := Text × Option Text

def text (bytes : Bytes) : Except DecodeFault Text :=
  match bytes with
  | 0xEF :: 0xBB :: 0xBF :: rest => Utf8.decode rest
  | _ => Utf8.decode bytes

/-! ## Lines -/

/-- The text without the blanks at its head that end no line. -/
def skipInline (s : Text) : Text := s.dropWhile CodePoint.isInlineBlank

def afterLine (s : Text) : Text := (s.dropWhile (! CodePoint.isLineEnd ·)).drop 1

/-- What follows the word `export` and the blanks after it, if the text begins with them. -/
def afterExport (s : Text) : Text :=
  let word := Text.ofString "export"
  if word.isPrefixOf s && ((s.drop word.length).head?.map CodePoint.isInlineBlank).getD false then
    skipInline (s.drop word.length)
  else s

/-! Each reader yields what was read and the rest, or only the place where it could not go on. -/

/-- A code point of a name without quotes. -/
def isNamePoint (c : CodePoint) : Bool := c ≠ '=' && c ≠ CodePoint.ofChar '#' && ! c.isBlank

/-- The name at the head of a text; a comment has none. -/
def name (s : Text) : Except Text (Option Text × Text) :=
  match s with
  | [] => .error s
  | c :: rest =>
    if c = '#' then .ok (none, s)
    else if c = '\'' then
      match rest.span (· ≠ CodePoint.ofChar '\'') with
      | (n :: ns, _ :: rest) => .ok (some (n :: ns), rest)
      | _ => .error s
    else match s.span isNamePoint with
      | ([], _) => .error s
      | (n, rest) => .ok (some n, rest)

/-- What stands between quotes, after the opening mark: the content up to the first mark that has no backslash before it,
and the rest. A backslash goes with what follows it. -/
def betweenMarks? (mark : CodePoint) : Text → Option (Text × Text)
  | [] => none
  | c :: rest =>
    if c = mark then some ([], rest)
    else if c = '\\' then
      match rest with
      | d :: more => (betweenMarks? mark more).map fun (t, r) => (c :: d :: t, r)
      | [] => none
    else (betweenMarks? mark rest).map fun (t, r) => (c :: t, r)

/-- What a letter after a backslash stands for, in double quotes. -/
def escapes : List (Char × Nat) :=
  [('\\', 92), ('\'', 39), ('"', 34), ('a', 7), ('b', 8), ('f', 12), ('n', 10), ('r', 13), ('t', 9), ('v', 11)]

/-- The escapes that are understood between two marks. -/
def escapesWithin (mark : CodePoint) : List (Char × Nat) := if mark = '"' then escapes else escapes.take 2

/-- A content with its escapes resolved; other backslashes stand for themselves. -/
def unescape (known : List (Char × Nat)) : Text → Text
  | [] => []
  | [c] => [c]
  | c :: d :: rest =>
    if c = '\\' then
      match known.find? fun e => CodePoint.ofChar e.1 = d with
      | some e => CodePoint.ofNat e.2 :: unescape known rest
      | none => c :: unescape known (d :: rest)
    else c :: unescape known (d :: rest)

/-- A value without quotes, up to a `#` after a blank, and without blanks at its end. -/
def withoutComment : Bool → Text → Text
  | _, [] => []
  | afterBlank, c :: rest => if afterBlank && c = '#' then [] else c :: withoutComment c.isBlank rest

/-- The value at the head of a text; `afterBlank` tells whether a blank stands before it. -/
def value (afterBlank : Bool) (s : Text) : Except Text (Text × Text) :=
  match s with
  | [] => .ok ([], s)
  | c :: rest =>
    if c = '\'' || c = '"' then
      match betweenMarks? c rest with
      | some (t, rest) => .ok (unescape (escapesWithin c) t, rest)
      | none => .error s
    else
      let (line, rest) := s.span (! CodePoint.isLineEnd ·)
      .ok (Text.dropWhileEnd CodePoint.isBlank (withoutComment afterBlank line), rest)

/-- The end of a line, perhaps after a comment. -/
def lineEnd (s : Text) : Except Text (Unit × Text) :=
  let t := skipInline s
  let t := if t.head? = some (CodePoint.ofChar '#') then t.dropWhile (! CodePoint.isLineEnd ·) else t
  match t with
  | [] => .ok ((), [])
  | c :: rest => if c.isLineEnd then .ok ((), rest) else .error t

/-- The binding at the head of a text, `none` for a comment. -/
def binding (s : Text) : Except Text (Option Binding × Text) := do
  let (n, rest) ← name (afterExport s)
  let rest := skipInline rest
  let (v, rest) ← match rest with
    | c :: more =>
      if c = '=' then
        (value ((more.head?.map CodePoint.isInlineBlank).getD false) (skipInline more)).map fun (v, rest) => (some v, rest)
      else pure (none, rest)
    | [] => pure (none, rest)
  let ((), rest) ← lineEnd rest
  return (n.map (·, v), rest)

/-- The bindings of at most `fuel` lines. -/
def bindingsUpTo : Nat → Text → List Binding
  | 0, _ => []
  | fuel + 1, s =>
    match s.dropWhile CodePoint.isBlank with
    | [] => []
    | s =>
      match binding s with
      | .ok (b, rest) => b.toList ++ bindingsUpTo fuel rest
      | .error rest => bindingsUpTo fuel (afterLine rest)

/-- The bindings of a text, in order. Every line has a code point at least. -/
def bindings (s : Text) : List Binding := bindingsUpTo (s.length + 1) (Text.unifyNewlines s)

/-! ## References -/

/-- A reference after `$` and the opening brace: the name, the default if there is one, and the rest. -/
def reference? (s : Text) : Option (Text × Option Text × Text) :=
  let (name, rest) := s.span fun (c : CodePoint) => c ≠ '\x7d' && c ≠ CodePoint.ofChar ':'
  match rest with
  | c :: more =>
    if c = '\x7d' then some (name, none, more)
    else match more with
      | d :: more =>
        if d = '-' then
          match more.span (· ≠ CodePoint.ofChar '\x7d') with
          | (default, _ :: rest) => some (name, some default, rest)
          | (_, []) => none
        else none
      | [] => none
  | [] => none

/-- A text with what its references stand for, in at most `fuel` code points and references. -/
def expandUpTo (lookup : Text → Option Text) : Nat → Text → Text
  | 0, s => s
  | _ + 1, [] => []
  | fuel + 1, c :: rest =>
    match rest with
    | d :: more =>
      if c = '$' && d = CodePoint.ofChar '\x7b' then
        match reference? more with
        | some (name, default, rest) => (lookup name).getD (default.getD []) ++ expandUpTo lookup fuel rest
        | none => c :: expandUpTo lookup fuel (d :: more)
      else c :: expandUpTo lookup fuel (d :: more)
    | [] => [c]

/-- A text with what its references stand for. -/
def expand (lookup : Text → Option Text) (s : Text) : Text := expandUpTo lookup s.length s

theorem expand_of_no_dollar (lookup : Text → Option Text) {s : Text} (h : CodePoint.ofChar '$' ∉ s) :
    expand lookup s = s := by
  unfold expand
  generalize s.length = n
  induction n generalizing s with
  | zero => rfl
  | succ n ih =>
    match s, h with
    | [], _ => rfl
    | [_], _ => rfl
    | c :: d :: more, h =>
      simp only [List.mem_cons, not_or] at h
      have hc : c ≠ '$' := Ne.symm h.1
      have hrest : CodePoint.ofChar '$' ∉ d :: more := by simp [h.2.1, h.2.2]
      simp [expandUpTo, hc, ih hrest]

/-- The bindings with one more: a name that is there gets the new value in its old place. -/
def put (found : List Binding) (b : Binding) : List Binding :=
  match found with
  | [] => [b]
  | a :: rest => if a.1 = b.1 then b :: rest else a :: put rest b

/-- The bindings with their references resolved, each by those above it and, if there are none, by the environment. A name
without a value stands for nothing. -/
def resolve (environment : List (Text × Text)) (found : List Binding) : List Binding → List Binding
  | [] => found
  | (name, v) :: rest =>
    let lookup (n : Text) : Option Text :=
      match found.find? (·.1 = n) with
      | some (_, v) => some (v.getD [])
      | none => (environment.find? (·.1 = n)).map (·.2)
    resolve environment (put found (name, v.map (expand lookup))) rest

/-- The bindings of a file with their references resolved. -/
def values (environment : List (Text × Text)) (file : Text) : List Binding := resolve environment [] (bindings file)

/-- A comment needs a blank before it, and quotes keep everything. -/
example : bindings "A=b#c # d\n# e\nexport F='g # h'\n\"\nI\n" =
    [(Text.ofString "A", some (Text.ofString "b#c")), (Text.ofString "F", some (Text.ofString "g # h")),
     (Text.ofString "\"", none), (Text.ofString "I", none)] := by decide +kernel

/-- A comment may stand in the place of a value, and a backslash keeps a mark from closing. -/
example : bindings "A= # b\nC=#d\nE='f\\'\nG=\"h\\\\\"\n" =
    [(Text.ofString "A", some []), (Text.ofString "C", some (Text.ofString "#d")),
     (Text.ofString "G", some (Text.ofString "h\\"))] := by decide +kernel

/-- References see what stands above them, before the environment. -/
example : values [("X", "x"), ("Y", "y")] "X=1\nZ=$\x7bX\x7d$\x7bY\x7d$\x7bW:-w\x7d$\x7b" =
    [(Text.ofString "X", some (Text.ofString "1")), (Text.ofString "Z", some (Text.ofString "1yw$\x7b"))] := by
  decide +kernel

end RemoteSigning.EnvFile
