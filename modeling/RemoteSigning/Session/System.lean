import RemoteSigning.Outcome
import RemoteSigning.Session.Machine

/-!
# Sessions side by side

Any number of sessions share one token and one service. Whatever order things happen in, each happening concerns one
session, which is named; the others stay as they are.

- `System.step` is what one happening does, `System.run` what a list of them does;
- `session?_step_of_ne`: a session that is not named is not touched;
- `Output` is what the system does to the outside; the presenter is told the outcome of the runs that the coordinator
  started, and only if it returned.
-/

namespace RemoteSigning

/-- What all sessions of a coordinator have in common. -/
structure Coordinator where
  /-- The backend to select. -/
  mode : ModeChoice
  /-- The language for the token and for reports. -/
  language : Text
  /-- Somebody wants to know the outcomes. -/
  presents : Bool
  deriving DecidableEq, Repr

/-- Something that happens to a session. -/
inductive Happening where
  /-- The coordinator opens a session. -/
  | open (request : Request)
  /-- A session is made without the coordinator. -/
  | make (request : Request) (mode : ModeChoice) (language : Text)
  /-- The session is run; the coordinator reports the outcome if it is the one who runs it. -/
  | start (reported : Bool) (cancels : Nat)
  /-- The pending call has ended. -/
  | finish (result : Except Fault Value)
  /-- The user abandons the session; `own` says that the run itself asks. -/
  | cancel (own : Bool)
  /-- The run is cancelled from outside. -/
  | interrupt
  deriving Repr

/-- What a system does. -/
inductive Output where
  /-- The coordinator has opened a session. -/
  | opened (mobileId : Bool) (length : Nat)
  /-- The session makes a call. -/
  | call (call : Call)
  /-- The pending call is asked to stop. -/
  | interrupt
  /-- The session records something. -/
  | record (record : SessionRecord)
  /-- The presenter is told the outcome. -/
  | report (report : Report)
  /-- A run has ended, in a state or with a fault; so many requests to cancel it are left. -/
  | ended (outcome : Except Fault State) (cancels : Nat)
  /-- The answer to a request to cancel. -/
  | answered (abandoned : Bool)
  deriving Repr

/-- A session, and whether the outcome of its run is reported. -/
structure Member where
  session : Session
  reported : Bool
  deriving Repr

/-- A coordinator with its sessions, by name. -/
structure System where
  coordinator : Coordinator
  members : List Member
  deriving Repr

namespace System

/-- The system without any sessions. -/
def init (c : Coordinator) : System := ⟨c, []⟩

def member? (s : System) (id : Text) : Option Member := s.members.find? (·.session.id = id)

def session? (s : System) (id : Text) : Option Session := (s.member? id).map (·.session)

/-- Puts a member in the place of the one with its name, or at the end. -/
def putMember (m : Member) : List Member → List Member
  | [] => [m]
  | n :: rest => if n.session.id = m.session.id then m :: rest else n :: putMember m rest

def put (s : System) (m : Member) : System := { s with members := putMember m s.members }

/-- What the end of a run means outside: a report if there is one to give, and the end. -/
def endOutputs (c : Coordinator) (reported : Bool) (state : State) (cancels : Nat) : List Output :=
  let news := if reported && c.presents then (report? c.language state).toList.map Output.report else []
  news ++ [.ended (.ok state) cancels]

/-- What an action of a session means outside. -/
def outputs (c : Coordinator) (reported : Bool) : Action → List Output
  | .call call => [.call call]
  | .interrupt => [.interrupt]
  | .record r => [.record r]
  | .returned state cancels => endOutputs c reported state cancels
  | .raised f cancels => [.ended (.error f) cancels]

/-- What something that happens to the session with a name does. What happens to no session does nothing, and an open
session is not opened again. -/
def step (s : System) (id : Text) (h : Happening) : System × List Output :=
  match s.member? id, h with
  | none, .open request =>
    (s.put ⟨⟨id, request, s.coordinator.mode, s.coordinator.language, .idle, [.idle], false, false, none⟩, false⟩,
      [.opened request.usesMobileId request.document.length])
  | none, .make request mode language =>
    (s.put ⟨⟨id, request, mode, language, .idle, [.idle], false, false, none⟩, false⟩, [])
  | some m, .start reported cancels =>
    let (session, actions) := m.session.start cancels
    let reported := if m.session.started then m.reported else reported
    (s.put ⟨session, reported⟩, actions.flatMap (outputs s.coordinator reported))
  | some m, .finish result =>
    let (session, actions) := m.session.resume result
    (s.put ⟨session, m.reported⟩, actions.flatMap (outputs s.coordinator m.reported))
  | some m, .cancel own =>
    let (session, abandoned, actions) := m.session.cancel own
    (s.put ⟨session, m.reported⟩, actions.flatMap (outputs s.coordinator m.reported) ++ [.answered abandoned])
  | some m, .interrupt =>
    let (session, actions) := m.session.interrupt
    (s.put ⟨session, m.reported⟩, actions.flatMap (outputs s.coordinator m.reported))
  | _, _ => (s, [])

/-- What a list of happenings does, in order; every output with the name of its session. -/
def run (s : System) : List (Text × Happening) → System × List (Text × Output)
  | [] => (s, [])
  | (id, h) :: rest =>
    let (s', out) := s.step id h
    let (s'', out') := s'.run rest
    (s'', out.map (id, ·) ++ out')

/-! ## Names -/

theorem find?_putMember (m : Member) (l : List Member) (id : Text) :
    (putMember m l).find? (·.session.id = id) =
      if m.session.id = id then some m else l.find? (·.session.id = id) := by
  induction l with
  | nil => by_cases h : m.session.id = id <;> simp [putMember, h]
  | cons n l ih =>
    by_cases hn : n.session.id = m.session.id
    · by_cases h : m.session.id = id
      · simp [putMember, hn, h]
      · simp [putMember, hn, h]
    · rw [putMember, if_neg hn]
      by_cases h : n.session.id = id
      · have : m.session.id ≠ id := fun hc => hn (h.trans hc.symm)
        simp [h, this]
      · simp only [List.find?_cons, h, decide_false, ih]

theorem member?_put (s : System) (m : Member) (id : Text) :
    (s.put m).member? id = if m.session.id = id then some m else s.member? id :=
  find?_putMember m s.members id

theorem id_of_member? {s : System} {id : Text} {m : Member} (h : s.member? id = some m) : m.session.id = id := by
  simpa using List.find?_some h

end System

namespace Session

theorem id_start (s : Session) (n : Nat) : (s.start n).1.id = s.id := by
  unfold start
  split
  · rfl
  · dsimp only
    split
    · rfl
    · split <;> rfl

theorem id_take (s : Session) (p : Pending) (v : Value) (n : Nat) : (s.take p v n).1.id = s.id := by
  unfold take
  split
  · split
    · rfl
    · split <;> rfl
  · split <;> rfl
  · split
    · rfl
    · unfold takeHash
      split
      · rfl
      · split <;> rfl
  · split
    · rfl
    · unfold takeSignature
      split <;> rfl
  · unfold complete
    split <;> rfl
  · unfold complete
    split <;> rfl
  · rfl

theorem id_resume (s : Session) (r : Except Fault Value) : (s.resume r).1.id = s.id := by
  unfold resume
  split
  · rfl
  · split
    · split <;> rfl
    · rfl
    · exact id_take s _ _ _

theorem id_cancel (s : Session) (own : Bool) : (s.cancel own).1.id = s.id := by
  unfold cancel
  split
  · rfl
  · split
    · rfl
    · split
      · split <;> rfl
      · rfl

theorem id_interrupt (s : Session) : s.interrupt.1.id = s.id := by
  unfold interrupt
  split <;> rfl

end Session

namespace System

/-- What happens to one session leaves the others as they are. -/
theorem session?_step_of_ne (s : System) {id other : Text} (h : id ≠ other) (e : Happening) :
    ((s.step id e).1).session? other = s.session? other := by
  unfold step session?
  split
  · simp [member?_put, h]
  · simp [member?_put, h]
  next m _ _ hm =>
    simp [member?_put, Session.id_start, id_of_member? hm, h]
  next m _ hm =>
    simp [member?_put, Session.id_resume, id_of_member? hm, h]
  next m _ hm =>
    simp [member?_put, Session.id_cancel, id_of_member? hm, h]
  next m hm =>
    simp [member?_put, Session.id_interrupt, id_of_member? hm, h]
  · rfl

end System

end RemoteSigning
