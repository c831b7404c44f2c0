import RemoteSigning.Text.Case
import RemoteSigning.Text.CodePoint

/-!
# Modes of access to the token

A mode names a backend, or asks for the first one that is configured. Users write it as a word in any case.

- `BackendMode.ofText?` reads the word;
- `Configured.resolve` is the backend that a mode stands for; `resolve_auto`: a card module comes before a key file.
-/

namespace RemoteSigning

/-- How the token is reached. -/
inductive BackendMode where
  /-- The first configured backend. -/
  | auto
  /-- A smart card through a card module. -/
  | pkcs11
  /-- A key file in memory. -/
  | software
  deriving DecidableEq, Repr, Inhabited

namespace BackendMode

def word : BackendMode → String
  | .auto => "auto"
  | .pkcs11 => "pkcs11"
  | .software => "software"

/-- The mode as a member of its enumeration, as it stands in the log. -/
def member : BackendMode → String
  | .auto => "BackendMode.AUTO"
  | .pkcs11 => "BackendMode.PKCS11"
  | .software => "BackendMode.SOFTWARE"

def all : List BackendMode := [.auto, .pkcs11, .software]

/-- The mode with a word, in any case. -/
def ofText? (t : Text) : Option BackendMode := all.find? fun m => Text.ofString m.word = t.lower

theorem ofText?_word (m : BackendMode) : ofText? m.word = some m := by cases m <;> decide

end BackendMode

/-- A mode as it is asked for: a word that may mean nothing, or a mode. -/
inductive ModeChoice where
  | text (t : Text)
  | mode (m : BackendMode)
  deriving DecidableEq, Repr

namespace ModeChoice

def mode? : ModeChoice → Option BackendMode
  | .text t => BackendMode.ofText? t
  | .mode m => some m

def shown : ModeChoice → Text
  | .text t => t
  | .mode m => m.member

def word : ModeChoice → Text
  | .text t => t
  | .mode m => m.word

end ModeChoice

/-- Which backends are configured. -/
structure Configured where
  pkcs11 : Bool
  software : Bool
  deriving DecidableEq, Repr

def Configured.resolve (c : Configured) : BackendMode → Option BackendMode
  | .pkcs11 => some .pkcs11
  | .software => some .software
  | .auto => if c.pkcs11 then some .pkcs11 else if c.software then some .software else none

theorem Configured.resolve_auto (c : Configured) :
    c.resolve .auto = if c.pkcs11 then some .pkcs11 else if c.software then some .software else none := rfl

theorem Configured.resolve_ne_auto (c : Configured) (m : BackendMode) : c.resolve m ≠ some .auto := by
  obtain ⟨p, s⟩ := c
  cases m <;> cases p <;> cases s <;> decide

end RemoteSigning
