import RemoteSigning.Request
import RemoteSigning.Session.Call
import RemoteSigning.Session.Record
import RemoteSigning.X509.Fault

/-!
# A signing session, step by step

A session runs once. Its run makes one call after another, to the token and to the service, and waits for each. Between
two calls it does what can be done at once: it is a function of the session and of what the pending call ended with.
A session may be asked to stop at any time.

- `Session.start` begins the run, `Session.resume` continues it when the pending call ends;
- `Session.cancel` is the request to stop by its user, `Session.interrupt` that by whoever owns the run;
- `resume_of_idle`, `start_of_started`: what is not waiting cannot be continued, and what has run does not run again.

The three functions say what the session becomes, and in order what it does: calls, records, and the end of the run.
-/

namespace RemoteSigning

/-- The call that a run waits for, with what the rest of the run needs. -/
inductive Pending where
  | select
  | fetch (backend : Handle)
  | phase1 (backend : Handle) (certificate : Certificate)
  | sign (backend : Handle) (certificate : Certificate) (hash : HashToSign)
  | phase2 (signature : Signature)
  | mobileId (person : MobileId)
  deriving DecidableEq, Repr

/-- A run that has not ended. -/
structure Run where
  /-- The call it waits for. -/
  pending : Pending
  /-- The requests to cancel the run that are not used up. -/
  cancels : Nat
  deriving DecidableEq, Repr

/-- A signing session. -/
structure Session where
  /-- Its name in the log. -/
  id : Text
  request : Request
  mode : ModeChoice
  language : Text
  state : State := .idle
  /-- All states so far, the present one last. -/
  history : List State := [.idle]
  started : Bool := false
  cancelRequested : Bool := false
  /-- The run, if it is under way. -/
  run : Option Run := none
  deriving DecidableEq, Repr

/-- What a session does. -/
inductive Action where
  /-- Makes a call and waits for it. -/
  | call (call : Call)
  /-- Asks the pending call to stop. -/
  | interrupt
  /-- Records something. -/
  | record (record : SessionRecord)
  /-- The run ends in a state; so many requests to cancel it are left. -/
  | returned (state : State) (cancels : Nat)
  /-- The run ends with a fault. -/
  | raised (fault : Fault) (cancels : Nat)
  deriving DecidableEq, Repr

namespace Pending

def call (s : Session) : Pending → Call
  | .select => .select s.mode
  | .fetch b => .fetch b s.language
  | .phase1 _ c => .submit (.phase1 s.request.document (some c))
  | .sign b c h => .sign b c h s.language
  | .phase2 sig => .submit (.phase2 sig)
  | .mobileId p => .submit (.mobileId p.personalCode p.phoneNumber s.request.document)

/-- The state in which the call is made. -/
def state : Pending → State
  | .select => .backendSelecting
  | .fetch _ => .certificateFetching
  | .phase1 _ c => .phase1Submitting c
  | .sign _ c h => .signing c h
  | .phase2 sig => .phase2Submitting sig
  | .mobileId _ => .mobileIdSubmitting

/-- The category and the cause of the failure if the call ends with a fault. -/
def failure (p : Pending) (f : Fault) : FailureReason × Cause :=
  let onToken (reason : FailureReason) : FailureReason × Cause :=
    match f with
    | .declined .. => (reason, .expected f)
    | _ => (reason, .unexpected f)
  let onFirstExchange : FailureReason × Cause :=
    match f with
    | .service e => (if e.isProtocol then .phase1Protocol else .phase1Transport, .expected f)
    | _ => (.phase1Transport, .unexpected f)
  match p with
  | .select => (.backendUnavailable, .unexpected f)
  | .fetch _ => onToken .certificateUnavailable
  | .phase1 .. | .mobileId _ => onFirstExchange
  | .sign .. => onToken .signatureDeclined
  | .phase2 _ =>
    match f with
    | .service _ => (.phase2Transport, .expected f)
    | _ => (.phase2Transport, .unexpected f)

end Pending

namespace Session

def done (s : Session) : Bool := s.state.isTerminal

/-- The requests to cancel the run that are not used up. -/
def cancels (s : Session) : Nat := (s.run.map Run.cancels).getD 0

/-- A change of state. -/
def enter (s : Session) (next : State) : Session := { s with state := next, history := s.history ++ [next] }

/-- The session goes on to the next call. -/
def proceed (s : Session) (p : Pending) (cancels : Nat) : Session × List Action :=
  ({ s.enter p.state with run := some ⟨p, cancels⟩ }, [.record (.transition s.state p.state), .call (p.call s)])

/-- The session ends in a state, which a record announces. -/
def finish (s : Session) (announcement : SessionRecord) (final : State) (cancels : Nat) : Session × List Action :=
  ({ s.enter final with run := none },
    [.record announcement, .record (.transition s.state final), .returned final cancels])

def fail (s : Session) (reason : FailureReason) (cause : Cause) (cancels : Nat) : Session × List Action :=
  s.finish (.failing reason cause) (.failed reason none) cancels

/-- The session ends with the word of the service: success, or a rejection with its message. -/
def complete (s : Session) (mobileId : Bool) (c : Completion) (cancels : Nat) : Session × List Action :=
  if c.succeeded then s.finish (.succeeding mobileId) (.succeeded mobileId c.signedFile) cancels
  else s.finish (.failing .serverRejected (.detail c.error)) (.failed .serverRejected (some c.error)) cancels

/-- The run ends with a fault and leaves the session in its state. -/
def escape (s : Session) (f : Fault) (cancels : Nat) : Session × List Action :=
  ({ s with run := none }, [.raised f cancels])

/-- Begins the run; `cancels` requests to cancel whatever runs it are not used up. -/
def start (s : Session) (cancels : Nat) : Session × List Action :=
  if s.started then
    (s, [.raised (.runtime ("Session " ++ s.id ++ " has already run; start a new session")) cancels])
  else
    let s := { s with started := true }
    if s.cancelRequested then s.fail .userCancelled .none cancels
    else match s.request.signer with
      | .localToken => s.proceed .select cancels
      | .mobileId p => s.proceed (.mobileId p) cancels

/-- A hash has arrived: it is signed, unless its algorithm requires another key. -/
def takeHash (s : Session) (backend : Handle) (c : Certificate) (h : HashToSign) (cancels : Nat) :
    Session × List Action :=
  match c.keyType with
  | .error e => s.escape e.toFault cancels
  | .ok found =>
    if h.algorithm.admits found then s.proceed (.sign backend c h) cancels
    else
      let fault := Fault.service (.otherKey .phase1 h.algorithm (found.getD .rsa))
      s.fail .phase1Protocol (.expected fault) cancels

/-- A signature has arrived: it is sent, unless it was made over another hash. -/
def takeSignature (s : Session) (h : HashToSign) (sig : Signature) (cancels : Nat) : Session × List Action :=
  if sig.hash = h then s.proceed (.phase2 sig) cancels
  else
    let (s, actions) := s.fail .signatureDeclined .none cancels
    (s, .record .foreignHash :: actions)

/-- Continues the run with the value of the pending call. A value that the call cannot have changes nothing. -/
def take (s : Session) (p : Pending) (v : Value) (cancels : Nat) : Session × List Action :=
  match p, v with
  | .select, .backend handle =>
    if s.cancelRequested then s.fail .userCancelled .none cancels
    else match handle with
      | none => s.fail .backendUnavailable .none cancels
      | some b => s.proceed (.fetch b) cancels
  | .fetch b, .certificate c =>
    if s.cancelRequested then s.fail .userCancelled .none cancels
    else
      let (s, actions) := s.proceed (.phase1 b c) cancels
      (s, .record (.usingCertificate c) :: actions)
  | .phase1 b c, .reply (.hash h) =>
    if s.cancelRequested then s.fail .userCancelled .none cancels else s.takeHash b c h cancels
  | .sign _ _ h, .signature sig =>
    if s.cancelRequested then s.fail .userCancelled .none cancels else s.takeSignature h sig cancels
  | .phase2 _, .reply (.completion c) => s.complete false c cancels
  | .mobileId _, .reply (.completion c) => s.complete true c cancels
  | _, _ => (s, [])

/-- Continues the run with what the pending call ended with. A cancellation that the user asked for is used up here. -/
def resume (s : Session) (result : Except Fault Value) : Session × List Action :=
  match s.run with
  | none => (s, [])
  | some t =>
    match result with
    | .error .cancelled =>
      if s.cancelRequested then s.fail .userCancelled .none (t.cancels - 1) else s.escape .cancelled t.cancels
    | .error f =>
      let (reason, cause) := t.pending.failure f
      s.fail reason cause t.cancels
    | .ok v => s.take t.pending v t.cancels

/-- The user abandons the session; `own` says that the run itself asks. The answer is whether there was something to
abandon. -/
def cancel (s : Session) (own : Bool) : Session × Bool × List Action :=
  if s.done then (s, false, [])
  else if s.cancelRequested then (s, true, [])
  else
    let record := Action.record (.cancelRequested s.state)
    match s.run with
    | some t =>
      if own then ({ s with cancelRequested := true }, true, [record])
      else
        ({ s with cancelRequested := true, run := some { t with cancels := t.cancels + 1 } }, true,
          [record, .interrupt])
    | none => ({ s with cancelRequested := true }, true, [record])

/-- The run is cancelled from outside, if it is under way. -/
def interrupt (s : Session) : Session × List Action :=
  match s.run with
  | some t => ({ s with run := some { t with cancels := t.cancels + 1 } }, [.interrupt])
  | none => (s, [])

theorem resume_of_idle {s : Session} (h : s.run = none) (r : Except Fault Value) : s.resume r = (s, []) := by
  simp [resume, h]

theorem start_of_started {s : Session} (h : s.started = true) (n : Nat) : (s.start n).1 = s := by simp [start, h]

end Session

end RemoteSigning
