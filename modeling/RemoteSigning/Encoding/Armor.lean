import RemoteSigning.Encoding.Base64
import RemoteSigning.Text.Blank
import RemoteSigning.Text.Coding

/-!
# Certificates in armour

A certificate is sent as text: a line that opens it, its bytes in lines of 64 characters of base64, and a line that
closes it.

- `encode` writes the armour, `decode` takes it off;
- `length_lines_le`: no line of the body has more than 64 characters.
-/

namespace RemoteSigning.Armor

/-- The line that opens a certificate. -/
def opening : Text := "-----BEGIN CERTIFICATE-----"

/-- The line that closes a certificate. -/
def closing : Text := "-----END CERTIFICATE-----"

/-- A text in lines of at most 64 characters; `fuel` bounds their number. -/
def linesUpTo : Nat → Text → List Text
  | 0, _ => []
  | _, [] => []
  | fuel + 1, c :: t => (c :: t).take 64 :: linesUpTo fuel ((c :: t).drop 64)

/-- A text in lines of 64 characters, the last one shorter or full. -/
def lines (t : Text) : List Text := linesUpTo t.length t

theorem length_lines_le {t l : Text} (h : l ∈ lines t) : l.length ≤ 64 := by
  unfold lines at h
  generalize t.length = n at h
  induction n generalizing t with
  | zero => simp [linesUpTo] at h
  | succ n ih =>
    cases t with
    | nil => simp [linesUpTo] at h
    | cons c t =>
      simp only [linesUpTo, List.mem_cons] at h
      rcases h with rfl | h
      · simp only [List.length_take]; omega
      · exact ih h

def encode (der : Bytes) : Text :=
  List.intercalate [CodePoint.ofChar '\n'] (opening :: lines (Base64.encode der) ++ [closing]) ++ "\n"

/-- What is wrong with an armour. -/
inductive Fault where
  /-- The text does not begin with the opening line. -/
  | noOpening
  /-- The text does not end with the closing line. -/
  | noClosing
  /-- The body is not ASCII. -/
  | notAscii (fault : EncodeFault)
  /-- The body is not base64. -/
  | notBase64 (fault : Base64.Fault)
  deriving DecidableEq, Repr

def Fault.message : Fault → Text
  | .noOpening => "Invalid PEM encoding; must start with " ++ opening
  | .noClosing => "Invalid PEM encoding; must end with " ++ closing
  | .notAscii e => e.message
  | .notBase64 e => e.message

/-- The bytes in an armour. Blanks may follow it, and the body is read leniently. -/
def decode (t : Text) : Except Fault Bytes :=
  if ! opening.isPrefixOf t then .error .noOpening
  else
    let s := t.strip
    if ! closing.isSuffixOf s then .error .noClosing
    else
      let body := (s.drop opening.length).take (s.length - opening.length - closing.length)
      match Text.firstFault? "ascii" "ordinal not in range(128)" (! CodePoint.isAscii ·) body with
      | some e => .error (.notAscii e)
      | none => (Base64.decode .lenient body).mapError .notBase64

end RemoteSigning.Armor
