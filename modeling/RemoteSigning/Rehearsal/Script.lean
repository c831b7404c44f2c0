import RemoteSigning.Session.System
import RemoteSigning.Settings.Basic
import RemoteSigning.Token.Backend

/-!
# Scripts for collaborators

In a rehearsal the token, the service and the user follow scripts. A script is a list of behaviours: the first call of a
role meets the first one, and so on; the last one is repeated. A behaviour may cancel the session that calls, keep the
call pending, and it says what the call ends with.

- `Script.turn`: which behaviour a call meets.
-/

namespace RemoteSigning.Rehearsal

/-- What a call that is kept pending does when it is asked to stop. -/
inductive OnCancel where
  /-- It stops. -/
  | passes
  /-- It goes on as if nothing had happened. -/
  | ignores
  /-- It ends as if the user had declined. -/
  | declines
  /-- It ends with a fault. -/
  | fails
  deriving DecidableEq, Repr, Inhabited

/-- What a scripted call ends with if it succeeds. -/
inductive Line where
  /-- A backend, or none. -/
  | backend (available : Bool)
  | certificate (certificate : Certificate)
  /-- A signature, over the hash that was given or over another one. -/
  | signature (value : Bytes) (otherHash : Option HashToSign)
  | http (answer : HttpAnswer)
  /-- What the user entered, if anything. -/
  | pin (entered : Option Text)
  /-- Whether a backend can be used. -/
  | usable (yes : Bool)
  deriving DecidableEq, Repr

/-- What happens in a call. -/
structure Behaviour where
  /-- The session that calls is cancelled from within. -/
  cancels : Bool := false
  /-- The user interrupts the program; the call is kept pending. -/
  sigint : Bool := false
  /-- The call is kept pending. -/
  holds : Bool := false
  onCancel : OnCancel := .passes
  result : Except Fault Line
  deriving Repr

/-- The behaviours of a role, in the order of the calls. -/
abbrev Script := List Behaviour

/-- The behaviour that the call with a number meets. -/
def Script.turn (s : Script) (n : Nat) : Behaviour :=
  match s[n]? <|> s.getLast? with
  | some b => b
  | none => { result := .error (.runtime "nothing is scripted") }

/-- Who follows a script. -/
inductive Role where
  /-- The token, when a backend is selected. -/
  | select
  /-- The token, when a certificate is fetched. -/
  | fetch
  /-- The token, when a hash is signed. -/
  | sign
  /-- The service, at a path. -/
  | service (path : Text)
  /-- The user, when asked for the PIN. -/
  | user
  /-- A backend, when it is checked. -/
  | health (backend : Handle)
  /-- A backend, when its certificate is fetched. -/
  | backendFetch (backend : Handle)
  /-- A backend, when it signs. -/
  | backendSign (backend : Handle)
  deriving DecidableEq, Repr

/-- A token that follows scripts. -/
structure TokenScript where
  select : Script
  fetch : Script
  sign : Script
  deriving Repr

/-- A backend that can be put into an adapter, and the scripts of one that is foreign. -/
structure BackendPlan where
  /-- What making the backend comes to. -/
  build : Except Fault Backend
  /-- Without a script the backend can be used. -/
  health : Option Script := none
  fetch : Script := []
  sign : Script := []
  deriving Repr

/-- What a service says at a path that it does not know. -/
def notFound : Behaviour :=
  { result := .ok (.http ⟨404, Utf8.encodeAll "\x7b\"message\":\"not found\"\x7d"⟩) }

/-- Everybody that takes part in a rehearsal. -/
structure Cast where
  settings : Settings
  /-- The backend to select; without one, that of the settings. -/
  mode : Option ModeChoice := none
  /-- The document of the presenter, if there is one. -/
  presenter : Option Text := none
  /-- The address of the service, and the answers by path. -/
  address : Text
  service : List (Text × Script) := []
  /-- The answers at all other paths. -/
  elsewhere : Script := [notFound]
  /-- A token that follows scripts; without one, there is an adapter. -/
  token : Option TokenScript := none
  /-- The user; without one, the reader asks for the PIN. -/
  user : Option Script := none
  backends : List (Text × BackendPlan) := []
  cardModule : CardModule

namespace Cast

def choice (c : Cast) : ModeChoice :=
  match c.mode with
  | some (.text []) | none => .text c.settings.tokenBackend
  | some m => m

def coordinator (c : Cast) : Coordinator := ⟨c.choice, c.settings.language, c.presenter.isSome⟩

def plan? (c : Cast) (name : Text) : Option BackendPlan := (c.backends.find? (·.1 = name)).map (·.2)

end Cast

end RemoteSigning.Rehearsal
