import RemoteSigning.Json.Reader
import RemoteSigning.Service.Contract
import RemoteSigning.Service.Url
import RemoteSigning.Text.Blank
import RemoteSigning.Text.Detect

/-!
# Calls to the service

A call is one request. Its end is classified once: either the answer is understood in full, or it is a fault that says
what is wrong with it, or the request never went out.

- `readOutcome` classifies what came back;
- `Reply` is an answer that was understood;
- `Outgoing.prepare`: where a request goes and what it says; `Url.accept`: which answers are looked into;
- `Outgoing.conclude` is a whole call, given how its request ends; `conclude_eq_ok_iff`: only an answer that is one of
  success ends it with a reply.
-/

namespace RemoteSigning

structure HttpAnswer where
  status : Nat
  body : Bytes
  deriving DecidableEq, Repr

/-- The status says that the request was served. -/
def HttpAnswer.isSuccess (a : HttpAnswer) : Bool := 200 ≤ a.status && a.status ≤ 299

/-- An answer that was understood. -/
inductive Reply where
  /-- The hash to sign. -/
  | hash (hash : HashToSign)
  /-- The outcome. -/
  | completion (completion : Completion)
  deriving DecidableEq, Repr

/-- The fault for a body that is no JSON. A body that is nested too deeply is no fault of the service. -/
def ServiceFault.ofJson (e : Endpoint) (f : Json.Fault) : Fault :=
  match f with
  | .tooDeep _ => .other "RecursionError" (some f.message)
  | _ => .service (.notJson e f.message)

/-- The JSON value of a body. -/
def readBody (e : Endpoint) (body : Bytes) : Except Fault Json :=
  match decodeDetected body with
  | .error f => .error (.service (.notJson e f.message))
  | .ok t => (Json.read .default t).mapError (ServiceFault.ofJson e)

/-- The members of an answer, as the exchange requires them. -/
def readMembers (e : Endpoint) (members : List (Text × Json)) : Except Fault Reply :=
  match e with
  | .phase1 =>
    match Phase1Answer.read members with
    | .error fs => .error (.service (.malformed e fs))
    | .ok a =>
      match HashToSign.read a.hash a.algorithm with
      | .error f => .error (.service (.refusedHash e f))
      | .ok h => .ok (.hash h)
  | .phase2 | .mobileId =>
    match Completion.read members with
    | .error fs => .error (.service (.malformed e fs))
    | .ok c => .ok (.completion c)

/-- What an answer over HTTP means in an exchange. -/
def readHttpAnswer (e : Endpoint) (a : HttpAnswer) : Except Fault Reply :=
  if ! a.isSuccess then .error (.service (.refused e a.status))
  else match readBody e a.body with
    | .error f => .error f
    | .ok (.object members) => readMembers e members
    | .ok v => .error (.service (.notObject e v.kindName))

/-- What the end of a request means: faults of the network are faults of the service, other faults stay what they are. -/
def readOutcome (e : Endpoint) : Except Fault HttpAnswer → Except Fault Reply
  | .ok a => readHttpAnswer e a
  | .error (.network _ m) => .error (.service (.noAnswer e (m.getD [])))
  | .error f => .error f

/-- A status that is no success is never understood. -/
theorem readHttpAnswer_of_not_success {e : Endpoint} {a : HttpAnswer} (h : a.isSuccess = false) :
    readHttpAnswer e a = .error (.service (.refused e a.status)) := by simp [readHttpAnswer, h]

/-- The address without the slashes at its end. -/
def baseUrl (address : Text) : Text := Text.dropWhileEnd (· = CodePoint.ofChar '/') address

def requestUrl (address : Text) (e : Endpoint) : Except UrlFault Url :=
  (Url.read (baseUrl address)).bind fun base => base.below (Text.ofString e.path)

/-- The fault of a request that has no place to go to. -/
def UrlFault.toFault : UrlFault → Fault
  | .unencodable e => .unencodable e
  | f => .other "InvalidURL" (some f.message)

/-- Where a request goes and what it says. The members are looked at before the address is, and the text as a whole
after that. -/
def Outgoing.prepare (o : Outgoing) (address : Text) : Except Fault (Url × Text) := do
  o.checkMembers
  let url ← (requestUrl address o.endpoint).mapError UrlFault.toFault
  let body ← o.body
  url.checkPlace.mapError UrlFault.toFault
  return (url, body)

/-- What comes of two steps, when something comes of them. -/
theorem exists_of_bind_eq_ok {x : Except ε α} {f : α → Except ε β} {b : β} (h : (x >>= f) = .ok b) :
    ∃ a, x = .ok a ∧ f a = .ok b := by
  cases x with
  | error e => cases h
  | ok a => exact ⟨a, rfl, h⟩

/-- What goes out is the text of the request. -/
theorem Outgoing.eq_text_of_prepare {o : Outgoing} {address : Text} {url : Url} {body : Text}
    (h : o.prepare address = .ok (url, body)) : body = o.text := by
  obtain ⟨-, -, h⟩ := exists_of_bind_eq_ok h
  obtain ⟨url', -, h⟩ := exists_of_bind_eq_ok h
  obtain ⟨body', hb, h⟩ := exists_of_bind_eq_ok h
  obtain ⟨-, -, h⟩ := exists_of_bind_eq_ok h
  obtain ⟨-, rfl⟩ := Prod.mk.inj (Except.ok.inj h)
  obtain ⟨-, -, hb⟩ := exists_of_bind_eq_ok hb
  split at hb
  · exact (Except.ok.inj hb).symm
  · cases hb

/-- An answer is looked into if the kind of its URL can be told. -/
def Url.accept (u : Url) (a : HttpAnswer) : Except Fault HttpAnswer :=
  if u.hasKind then .ok a else .error (Fault.value ("unknown url type: " ++ u.text.quoted))

/-- What the end of a request to a URL means in an exchange. -/
def Endpoint.conclude (e : Endpoint) (u : Url) (outcome : Except Fault HttpAnswer) : Except Fault Reply :=
  readOutcome e (outcome.bind u.accept)

/-- What a call ends with, if its request, supposing that it goes out, ends in this way. -/
def Outgoing.conclude (o : Outgoing) (address : Text) (outcome : Except Fault HttpAnswer) : Except Fault Reply :=
  (o.prepare address).bind fun (url, _) => o.endpoint.conclude url outcome

/-- Faults of the network stay faults. -/
theorem readOutcome_error_ne_ok (e : Endpoint) (f : Fault) (r : Reply) : readOutcome e (.error f) ≠ .ok r := by
  cases f <;> simp [readOutcome]

/-- A call ends with a reply if its request went out and brought an answer that could be read. -/
theorem Outgoing.conclude_eq_ok_iff {o : Outgoing} {address : Text} {outcome : Except Fault HttpAnswer} {r : Reply} :
    o.conclude address outcome = .ok r ↔
      ∃ url body a, o.prepare address = .ok (url, body) ∧ outcome = .ok a ∧ url.hasKind = true ∧
        readHttpAnswer o.endpoint a = .ok r := by
  unfold conclude Endpoint.conclude
  cases hp : o.prepare address with
  | error f => simp [Except.bind]
  | ok sent =>
    obtain ⟨url, body⟩ := sent
    cases outcome with
    | error f => simp [Except.bind, readOutcome_error_ne_ok]
    | ok a =>
      by_cases hk : url.hasKind = true
      · simp [Except.bind, Url.accept, hk, readOutcome]
      · simp [Except.bind, Url.accept, hk, readOutcome, Fault.value]

/-- An answer that was understood has a status of success, and its body is an object. -/
theorem object_of_readHttpAnswer {e : Endpoint} {a : HttpAnswer} {r : Reply} (h : readHttpAnswer e a = .ok r) :
    a.isSuccess = true ∧ ∃ members, readBody e a.body = .ok (.object members) ∧ readMembers e members = .ok r := by
  unfold readHttpAnswer at h
  split at h
  · cases h
  next hs =>
    refine ⟨by simpa using hs, ?_⟩
    split at h
    · cases h
    next members hb => exact ⟨members, hb, h⟩
    · cases h

example : (requestUrl "https://Signing.test:443/x//" .phase1).toOption.map Url.text =
    some (Text.ofString "https://signing.test/x/p1") := by decide +kernel

end RemoteSigning
