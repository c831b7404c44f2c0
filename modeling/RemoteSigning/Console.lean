import RemoteSigning.Fault
import RemoteSigning.Outcome

/-!
# The console

On the console the user reads one line per outcome, good news on one stream and bad news on the other, and enters the
PIN after a prompt.

- `Console.report` writes an outcome;
- `PinEntry.answer` is what an entry means: no PIN if nothing was entered.
-/

namespace RemoteSigning

/-- What was written so far, and the last outcome. -/
structure Console where
  out : Text := []
  err : Text := []
  success : Option Bool := none
  deriving DecidableEq, Repr

def asLine (t : Text) : Text := t ++ [CodePoint.ofChar '\n']

namespace Console

def report (c : Console) (r : Report) : Console :=
  if r.success then { c with out := c.out ++ asLine r.message, success := some true }
  else { c with err := c.err ++ asLine r.message, success := some false }

def complain (c : Console) (t : Text) : Console := { c with err := c.err ++ asLine t }

end Console

/-! ## The PIN -/

/-- The prompt for the PIN, in the language of a code. -/
def pinPrompt (language : Text) : Text := if language = Text.ofString "et" then "PIN2: " else "Signing PIN (PIN2): "

/-- What the user did at the prompt. -/
inductive PinEntry where
  | line (t : Text)
  | endOfInput
  | fault (fault : Fault)
  deriving DecidableEq, Repr

/-- What an entry means. -/
def PinEntry.answer : PinEntry → Except Fault (Option Text)
  | .line [] | .endOfInput => .ok none
  | .line t => .ok (some t)
  | .fault f => .error f

end RemoteSigning
