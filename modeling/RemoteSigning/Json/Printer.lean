import RemoteSigning.Json.Value

/-!
# Writing JSON

Two layouts are in use. Requests are written without any blanks, and every code point but quotes, backslashes and
control characters stands for itself. A settings report is indented, and only printable ASCII stands for itself.

- `Layout.request`, `Layout.report` are the two layouts; `Layout.line` is the first with the escapes of the second;
- `escape_of_not_special`: what is neither a quote, a backslash nor a control character is not escaped in a request.
-/

namespace RemoteSigning.Json

/-- How values are laid out. -/
structure Layout where
  /-- Blanks per level, or everything on one line without blanks. -/
  indent : Option Nat
  /-- Whether all but printable ASCII is escaped. -/
  asciiOnly : Bool

/-- One line, only the necessary escapes. -/
def Layout.request : Layout := ⟨none, false⟩

/-- Two blanks per level, ASCII only. -/
def Layout.report : Layout := ⟨some 2, true⟩

/-- One line, ASCII only. -/
def Layout.line : Layout := ⟨none, true⟩

/-- A code unit of 16 bits by its number. -/
def unitEscape (n : Nat) : Text := "\\u" ++ Text.hex 4 n

/-- A code point by its number, beyond the first plane by those of its two surrogates. -/
def numberEscape (c : CodePoint) : Text :=
  if c.val < 0x10000 then unitEscape c.val
  else unitEscape (0xD800 + (c.val - 0x10000) / 0x400) ++ unitEscape (0xDC00 + (c.val - 0x10000) % 0x400)

/-- A code point within a string. -/
def escape (asciiOnly : Bool) (c : CodePoint) : Text :=
  if c = '"' then "\\\""
  else if c = '\\' then "\\\\"
  else if c = '\n' then "\\n"
  else if c = '\r' then "\\r"
  else if c = '\t' then "\\t"
  else if c.val = 8 then "\\b"
  else if c.val = 12 then "\\f"
  else if c.val < 0x20 then unitEscape c.val
  else if asciiOnly && c.val ≥ 0x7F then numberEscape c
  else [c]

theorem escape_of_not_special {c : CodePoint} (hq : c ≠ '"') (hb : c ≠ '\\') (hc : 0x20 ≤ c.val) :
    escape false c = [c] := by
  have h : ∀ k : CodePoint, k.val < 0x20 → c ≠ k := fun k hk h => by subst h; omega
  unfold escape
  rw [if_neg hq, if_neg hb, if_neg (h _ (by decide)), if_neg (h _ (by decide)), if_neg (h _ (by decide)),
    if_neg (by omega), if_neg (by omega), if_neg (by omega)]
  simp

/-- A text as a JSON string. -/
def quote (asciiOnly : Bool) (t : Text) : Text := "\"" ++ t.flatMap (escape asciiOnly) ++ "\""

/-- A number with a fraction or an exponent; the words for what JSON cannot write are those of other readers. -/
def floatText (x : Binary64) : Text :=
  match x with
  | .nan => "NaN"
  | .infinite negative => if negative then "-Infinity" else "Infinity"
  | x => x.text

/-- A line feed and the blanks of a level, if the layout is indented. -/
def Layout.newline (l : Layout) (level : Nat) : Text :=
  match l.indent with
  | none => []
  | some n => CodePoint.ofChar '\n' :: List.replicate (n * level) (CodePoint.ofChar ' ')

/-- Members or items between brackets, one per line if the layout is indented. -/
def Layout.bracket (l : Layout) (level : Nat) (opening closing : Char) (parts : List Text) : Text :=
  if parts.isEmpty then [CodePoint.ofChar opening, CodePoint.ofChar closing]
  else
    CodePoint.ofChar opening ::
      List.intercalate [CodePoint.ofChar ','] (parts.map (l.newline (level + 1) ++ ·)) ++
      l.newline level ++ [CodePoint.ofChar closing]

mutual

/-- A value at a level of nesting. -/
def write (l : Layout) (level : Nat) : Json → Text
  | .null => "null"
  | .bool b => if b then "true" else "false"
  | .int n => Text.ofInt n
  | .float x => floatText x
  | .text t => quote l.asciiOnly t
  | .array items => l.bracket level '[' ']' (writeItems l (level + 1) items)
  | .object members => l.bracket level '\x7b' '\x7d' (writeMembers l (level + 1) members)

def writeItems (l : Layout) (level : Nat) : List Json → List Text
  | [] => []
  | v :: rest => write l level v :: writeItems l level rest

/-- The members of an object; an indented layout has a blank after the colon. -/
def writeMembers (l : Layout) (level : Nat) : List (Text × Json) → List Text
  | [] => []
  | (name, v) :: rest =>
    (quote l.asciiOnly name ++ (if l.indent.isSome then ": " else ":") ++ write l level v) ::
      writeMembers l level rest

end

def render (l : Layout) (v : Json) : Text := write l 0 v

/-- A report escapes what a request leaves as it is. -/
example : render .request (.object [("a", .text [0xF5, 10]), ("b", .array [])]) =
    "\x7b\"a\":\"" ++ [(0xF5 : CodePoint)] ++ "\\n\",\"b\":[]\x7d" := by cbv
example : render .report (.object [("a", .text [0x1F600, 0x7F])]) =
    Text.ofString "\x7b\n  \"a\": \"\\ud83d\\ude00\\u007f\"\n\x7d" := by decide +kernel

end RemoteSigning.Json
