import RemoteSigning.Token.Card
import RemoteSigning.Token.Software

/-!
# Backends

A backend reads the signer's certificate and signs hashes: a card behind a card module, a key in memory, or a foreign
one, of which only the name and the mode are known. Here a card is used the way a session needs it: whatever fails at
the module becomes a refusal with a reason, and what happened is recorded. A task that is cancelled there is no failure:
it stays cancelled, and nothing is recorded.

- `CardModule.fetch`, `CardModule.sign`, `CardModule.check` are the three tasks of a card;
- `CardConfig.beginSign` says what comes before the card is asked to sign: a refusal, or the question for the PIN;
- `CardModule.signAsking` is the whole of a signature, with the user's answer to that question;
- `fetch_declines`, `sign_declines`: a card that is not cancelled ends with a value or a refusal, and with nothing
  else.
-/

namespace RemoteSigning

/-- What came of a task: what was done at the card module, what was recorded, and the result. -/
structure Performed (α : Type) where
  events : List CardEvent := []
  records : List TokenRecord := []
  result : Except Fault α

namespace CardModule

variable (m : CardModule) (c : CardConfig) (loaded : Bool)

def fetch : Performed Certificate :=
  match m.readCertificate c loaded with
  | (events, .ok certificate) => ⟨events, [.certificateRead certificate], .ok certificate⟩
  | (events, .error .cancelled) => ⟨events, [], .error .cancelled⟩
  | (events, .error f) =>
    ⟨events, [.readDeclined (f.toDecline.reason?.getD .tokenError) f.toDecline.message], .error f.toDecline⟩

def sign (certificate : Certificate) (h : HashToSign) (login : Login) : Performed Bytes :=
  match m.signHash c loaded certificate h login with
  | (events, .ok signature) => ⟨events, [], .ok signature⟩
  | (events, .error .cancelled) => ⟨events, [], .error .cancelled⟩
  | (events, .error f) =>
    ⟨events, [.signDeclined (f.toDecline.reason?.getD .tokenError) f.toDecline.message], .error f.toDecline⟩

/-- Sees whether the module can be loaded. -/
def check : Performed Bool :=
  match m.load c loaded with
  | (events, .ok ()) => ⟨events, [], .ok true⟩
  | (events, .error .cancelled) => ⟨events, [], .error .cancelled⟩
  | (events, .error f) => ⟨events, [.moduleUnavailable f], .ok false⟩

theorem fetch_declines (f : Fault) (h : (m.fetch c loaded).result = .error f) (live : f ≠ .cancelled) :
    f.reason?.isSome = true := by
  unfold fetch at h
  split at h
  · cases h
  · simp only [Except.error.injEq] at h
    exact absurd h.symm live
  · simp only [Except.error.injEq] at h
    exact h ▸ Fault.reason?_toDecline _

theorem sign_declines (certificate : Certificate) (hash : HashToSign) (login : Login) (f : Fault)
    (h : (m.sign c loaded certificate hash login).result = .error f) (live : f ≠ .cancelled) :
    f.reason?.isSome = true := by
  unfold sign at h
  split at h
  · cases h
  · simp only [Except.error.injEq] at h
    exact absurd h.symm live
  · simp only [Except.error.injEq] at h
    exact h ▸ Fault.reason?_toDecline _

end CardModule

/-! ## The PIN -/

/-- What comes before a card is asked to sign. -/
inductive SignStart where
  /-- The card is not asked at all. -/
  | refused (fault : Fault)
  /-- The user is asked for the PIN. -/
  | ask
  /-- The reader asks for it. -/
  | protectedPath
  deriving DecidableEq, Repr

/-- A certificate without a reference to its key was not read from a card. -/
def CardConfig.beginSign (c : CardConfig) (certificate : Certificate) : SignStart :=
  if certificate.keyRef.isNone then
    .refused (.decline .noCertificate "Certificate was not read from this token")
  else if c.prompts then .ask else .protectedPath

/-- The way to log in with the user's answer; no answer is a refusal. -/
def Login.ofAnswer (answer : Option Text) : Except Fault Login :=
  match answer with
  | .none => .error (.decline .cancelled "PIN entry cancelled")
  | .some entered => .ok (.pin entered)

/-- Signs with the user's answer, or the fault that the question ended with. -/
def CardModule.signAnswered (m : CardModule) (c : CardConfig) (loaded : Bool) (certificate : Certificate)
    (h : HashToSign) (answer : Except Fault (Option Text)) : Performed Bytes :=
  match answer.bind Login.ofAnswer with
  | .error f => ⟨[], [], .error f⟩
  | .ok login => m.sign c loaded certificate h login

/-- Signs, asking the user for the PIN if need be: whether there was a question, and what came of it all. -/
def CardModule.signAsking (m : CardModule) (c : CardConfig) (loaded : Bool) (certificate : Certificate)
    (h : HashToSign) (answer : Except Fault (Option Text)) : Bool × Performed Bytes :=
  match c.beginSign certificate with
  | .refused f => (false, ⟨[], [], .error f⟩)
  | .ask => (true, m.signAnswered c loaded certificate h answer)
  | .protectedPath => (false, m.sign c loaded certificate h .protectedPath)

theorem CardModule.signAsking_of_no_reference (m : CardModule) (c : CardConfig) (loaded : Bool) {d : Certificate}
    (h : HashToSign) (answer : Except Fault (Option Text)) (hd : d.keyRef = none) :
    m.signAsking c loaded d h answer =
      (false, ⟨[], [], .error (.decline .noCertificate "Certificate was not read from this token")⟩) := by
  simp [signAsking, CardConfig.beginSign, hd]

/-! ## All kinds of backends -/

inductive Backend where
  /-- A card behind the card module; `loaded` says that the module is loaded. -/
  | card (config : CardConfig) (loaded : Bool)
  /-- A key in memory, under the mode that it goes by. -/
  | software (token : SoftwareToken) (mode : BackendMode)
  /-- Any other backend, by the name of its kind and its own. -/
  | foreign (kind name : Text) (mode : BackendMode)
  deriving DecidableEq, Repr

namespace Backend

def mode : Backend → BackendMode
  | .card .. => .pkcs11
  | .software _ m => m
  | .foreign _ _ m => m

def kind : Backend → Text
  | .card .. => "PKCS11Token"
  | .software .. => "SoftwareToken"
  | .foreign kind _ _ => kind

/-- A backend as it stands in the log and in messages. -/
def shown (b : Backend) : Text := b.kind ++ "(mode=" ++ Text.ofString b.mode.word ++ ")"

/-- The backend after something was done at its module. -/
def after (m : CardModule) (events : List CardEvent) : Backend → Backend
  | .card config loaded => .card config (m.loadedAfter loaded events)
  | b => b

end Backend

end RemoteSigning
