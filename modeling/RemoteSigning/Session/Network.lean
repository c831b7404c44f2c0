import RemoteSigning.Session.System

/-!
# Sessions on the network

Here sessions speak to the service through its client: a call for a request puts it on the network, unless it cannot be
sent, and ends with what the client makes of the end of the request. The token is whoever answers the other calls.

- `Network.step` is what one incident does, `Network.run` what a list of them does; both are steps of the system in
  which the end of a request has become the end of a call (`Incident.reading?`);
- `Turn` is what passes between a session and those that it calls; `turnsOf` are the turns of one session.
-/

namespace RemoteSigning

/-! ## Calls and their ends -/

namespace Call

def request? : Call → Option Outgoing
  | .submit o => some o
  | _ => none

def fits : Call → Value → Bool
  | .select _, .backend _ => true
  | .fetch .., .certificate _ => true
  | .submit (.phase1 ..), .reply (.hash _) => true
  | .submit (.phase2 _), .reply (.completion _) => true
  | .submit (.mobileId ..), .reply (.completion _) => true
  | .sign .., .signature _ => true
  | _, _ => false

/-- What a call can end with: any fault, and the values that it can have. -/
def accepts (c : Call) : Except Fault Value → Bool
  | .ok v => c.fits v
  | .error _ => true

end Call

def Session.waitsFor? (s : Session) : Option Call := s.run.map fun t => t.pending.call s

/-! ## Turns -/

/-- What passes between a session and those that it calls. -/
inductive Turn where
  /-- The session makes a call. -/
  | asked (call : Call)
  /-- A request goes out for the pending call. -/
  | posted (exchange : Endpoint) (url : Url) (body : Text)
  /-- That request has ended. -/
  | received (outcome : Except Fault HttpAnswer)
  /-- The pending call has ended. -/
  | answered (result : Except Fault Value)

/-- What is to be seen of a call when it is made. -/
def Call.opening (address : Text) (c : Call) : List Turn :=
  .asked c :: match c.request? with
    | none => []
    | some o =>
      match o.prepare address with
      | .ok (url, body) => [.posted o.endpoint url body]
      | .error _ => []

/-- What is to be seen of the end of a request; of one that never went out, nothing. -/
def Outgoing.echo (o : Outgoing) (address : Text) (outcome : Except Fault HttpAnswer) : List Turn :=
  match o.prepare address with
  | .ok _ => [.received outcome]
  | .error _ => []

/-- What the end of a request makes of the call for it. -/
def Outgoing.result (o : Outgoing) (address : Text) (outcome : Except Fault HttpAnswer) : Except Fault Value :=
  (o.conclude address outcome).map .reply

/-! ## Incidents -/

/-- Something that happens to a session on the network. -/
inductive Incident where
  /-- Whatever happens off the network; a call that ends here is one to the token. -/
  | plain (happening : Happening)
  /-- The request of the pending call has ended. -/
  | http (outcome : Except Fault HttpAnswer)

/-- What an incident is to a session that waits for a call: what is seen to come in, and what happens to the session. A
token answers its own calls only, and with values that they can have; no answer comes to a call that is not pending. -/
def Incident.reading? (address : Text) (waiting : Option Call) : Incident → Option (List Turn × Happening)
  | .plain (.finish result) =>
    match waiting with
    | none => none
    | some c => if c.request?.isNone && c.accepts result then some ([.answered result], .finish result) else none
  | .plain h => some ([], h)
  | .http outcome =>
    match waiting.bind Call.request? with
    | none => none
    | some o =>
      let result := o.result address outcome
      some (o.echo address outcome ++ [.answered result], .finish result)

/-! ## Systems on the network -/

def Output.call? : Output → Option Call
  | .call c => some c
  | _ => none

/-- A system whose service has an address. -/
structure Network where
  address : Text
  system : System

namespace Network

/-- The network without any sessions. -/
def init (address : Text) (c : Coordinator) : Network := ⟨address, .init c⟩

def session? (n : Network) (id : Text) : Option Session := n.system.session? id

/-- What an incident at the session with a name does, and the turns of the session. -/
def step (n : Network) (id : Text) (i : Incident) : Network × List Turn :=
  match i.reading? n.address ((n.session? id).bind Session.waitsFor?) with
  | none => (n, [])
  | some (heard, h) =>
    let (system, outputs) := n.system.step id h
    (⟨n.address, system⟩, heard ++ (outputs.filterMap Output.call?).flatMap (Call.opening n.address))

/-- What a list of incidents does, in order; every turn with the name of its session. -/
def run (n : Network) : List (Text × Incident) → Network × List (Text × Turn)
  | [] => (n, [])
  | (id, i) :: rest =>
    let (n', turns) := n.step id i
    let (n'', turns') := n'.run rest
    (n'', turns.map (id, ·) ++ turns')

end Network

def turnsOf (id : Text) (l : List (Text × Turn)) : List Turn := (l.filter (·.1 = id)).map (·.2)

def Turn.call? : Turn → Option Call
  | .asked c => some c
  | _ => none

/-! ## Small facts -/

theorem turnsOf_append (id : Text) (l m : List (Text × Turn)) : turnsOf id (l ++ m) = turnsOf id l ++ turnsOf id m := by
  simp [turnsOf]

theorem turnsOf_map_self (id : Text) (ts : List Turn) : turnsOf id (ts.map (id, ·)) = ts := by
  simp [turnsOf, List.filter_map, Function.comp_def]

theorem turnsOf_map_of_ne {id other : Text} (h : id ≠ other) (ts : List Turn) :
    turnsOf other (ts.map (id, ·)) = [] := by
  simp [turnsOf, List.filter_map, Function.comp_def, h]

theorem Call.eq_submit_of_request? {c : Call} {o : Outgoing} (h : c.request? = some o) : c = .submit o := by
  cases c with
  | submit o' => rw [Option.some.inj h]
  | _ => cases h

theorem Turn.eq_asked_of_call? {t : Turn} {c : Call} (h : t.call? = some c) : t = .asked c := by
  cases t with
  | asked c' => rw [Option.some.inj h]
  | _ => cases h

/-- A request that can be sent goes out with its call. -/
theorem Call.opening_submit {address : Text} {o : Outgoing} {url : Url} {body : Text}
    (h : o.prepare address = .ok (url, body)) :
    (Call.submit o).opening address = [.asked (.submit o), .posted o.endpoint url body] := by
  simp [opening, request?, h]

theorem Outgoing.echo_of_prepared {address : Text} {o : Outgoing} {url : Url} {body : Text}
    (h : o.prepare address = .ok (url, body)) (outcome : Except Fault HttpAnswer) :
    o.echo address outcome = [.received outcome] := by
  simp [echo, h]

/-- What the client ends a call with is something that the call can end with. -/
theorem Call.accepts_result (address : Text) (o : Outgoing) (outcome : Except Fault HttpAnswer) :
    (Call.submit o).accepts (o.result address outcome) = true := by
  unfold Outgoing.result
  cases h : o.conclude address outcome with
  | error f => rfl
  | ok r =>
    obtain ⟨url, body, a, -, -, -, hr⟩ := Outgoing.conclude_eq_ok_iff.mp h
    obtain ⟨-, members, -, hm⟩ := object_of_readHttpAnswer hr
    cases o <;> simp only [Outgoing.endpoint, readMembers] at hm
    all_goals
      split at hm
      · cases hm
      · first
        | cases hm; rfl
        | split at hm <;> cases hm
          rfl

end RemoteSigning
