import Mathlib.Data.List.Chain
import RemoteSigning.Proofs.Session.Reachable

/-!
# The states of a session follow one another in order

`State.Follows` is the diagram of the states: which state may come right after which, and which data it then carries.
The states that a session has been in are a path through the diagram which starts at `idle` and ends at the present
state. The invariant that carries this (`Session.Ordered`) also ties the state to the call that the run waits for.

- `Session.ordered_of_moves`: every move keeps the invariant;
- `Session.ordered_of_reachable`: every reachable session has it;
- `System.history_isPath`: the history of any session, whatever has happened in its system.
-/

namespace RemoteSigning

/-! ## The diagram -/

namespace State

/-- The failures without a message that may come right after a state. -/
def failures : State → List FailureReason
  | .idle => [.userCancelled]
  | .backendSelecting => [.backendUnavailable, .userCancelled]
  | .certificateFetching => [.certificateUnavailable, .userCancelled]
  | .phase1Submitting _ | .mobileIdSubmitting => [.phase1Transport, .phase1Protocol, .userCancelled]
  | .signing .. => [.signatureDeclined, .userCancelled]
  | .phase2Submitting _ => [.phase2Transport, .userCancelled]
  | .succeeded .. | .failed .. => []

/-- A state that may come right after another in a session for a signer. -/
inductive Follows (signer : Signer) : State → State → Prop
  | select : signer = .localToken → Follows signer .idle .backendSelecting
  | mobileId {p : MobileId} : signer = .mobileId p → Follows signer .idle .mobileIdSubmitting
  | fetch : Follows signer .backendSelecting .certificateFetching
  | phase1 {c : Certificate} : Follows signer .certificateFetching (.phase1Submitting c)
  | sign {c : Certificate} {h : HashToSign} : Follows signer (.phase1Submitting c) (.signing c h)
  | phase2 {c : Certificate} {sig : Signature} : Follows signer (.signing c sig.hash) (.phase2Submitting sig)
  | succeeds {sig : Signature} {file : Option Text} : Follows signer (.phase2Submitting sig) (.succeeded false file)
  | succeedsByPhone {file : Option Text} : Follows signer .mobileIdSubmitting (.succeeded true file)
  | rejected {sig : Signature} {e : Text} :
      e ≠ [] → Follows signer (.phase2Submitting sig) (.failed .serverRejected (some e))
  | rejectedByPhone {e : Text} : e ≠ [] → Follows signer .mobileIdSubmitting (.failed .serverRejected (some e))
  | fails {s : State} {r : FailureReason} : r ∈ s.failures → Follows signer s (.failed r none)

/-- The state belongs to a run with the local token. -/
def isOfToken : State → Bool
  | .backendSelecting | .certificateFetching | .phase1Submitting _ | .signing .. | .phase2Submitting _ => true
  | .idle | .mobileIdSubmitting | .succeeded .. | .failed .. => false

end State

namespace Pending

/-- Every call may be given up. -/
theorem userCancelled_mem_failures (p : Pending) : .userCancelled ∈ p.state.failures := by
  cases p <;> simp [state, State.failures]

/-- The category of a fault is one that the state allows. -/
theorem failure_mem_failures (p : Pending) (f : Fault) : (p.failure f).1 ∈ p.state.failures := by
  cases p with
  | select => simp [failure, state, State.failures]
  | fetch => cases f <;> simp [failure, state, State.failures]
  | sign => cases f <;> simp [failure, state, State.failures]
  | phase2 => cases f <;> simp [failure, state, State.failures]
  | phase1 =>
    cases f with
    | service e => cases he : e.isProtocol <;> simp [failure, state, State.failures, he]
    | _ => simp [failure, state, State.failures]
  | mobileId =>
    cases f with
    | service e => cases he : e.isProtocol <;> simp [failure, state, State.failures, he]
    | _ => simp [failure, state, State.failures]

theorem follows_first (signer : Signer) : State.Follows signer .idle (first signer).state := by
  cases signer with
  | localToken => exact .select rfl
  | mobileId p => exact .mobileId rfl

/-- The next call is made in a state that may come right after the present one. -/
theorem Leads.follows {p p' : Pending} {v : Value} (h : p.Leads v p') (signer : Signer) :
    State.Follows signer p.state p'.state := by
  cases h with
  | fetch => exact .fetch
  | phase1 => exact .phase1
  | sign => exact .sign
  | phase2 hs => subst hs; exact .phase2

/-- A run ends in a state that may come right after the present one. -/
theorem Settles.follows {abandoned : Bool} {p : Pending} {r : Except Fault Value} {final : State}
    (h : p.Settles abandoned r final) (signer : Signer) : State.Follows signer p.state final := by
  cases h with
  | stopped => exact .fails p.userCancelled_mem_failures
  | tooLate => exact .fails p.userCancelled_mem_failures
  | fault => exact .fails (p.failure_mem_failures _)
  | noBackend => exact .fails (by simp [state, State.failures])
  | otherKey => exact .fails (by simp [state, State.failures])
  | foreignHash => exact .fails (by simp [state, State.failures])
  | @signed sig c =>
    by_cases he : c.error = []
    · rw [c.state_of_error_eq_nil he]; exact .succeeds
    · rw [c.state_of_error_ne_nil he]; exact .rejected he
  | @signedByPhone p c =>
    by_cases he : c.error = []
    · rw [c.state_of_error_eq_nil he]; exact .succeedsByPhone
    · rw [c.state_of_error_ne_nil he]; exact .rejectedByPhone he

end Pending

/-! ## The invariant -/

namespace Session

/-- The history of a session is a path through the diagram, and the state is that of the call that is waited for. -/
structure Ordered (s : Session) : Prop where
  head : s.history.head? = some .idle
  last : s.history.getLast? = some s.state
  chain : s.history.IsChain (State.Follows s.request.signer)
  /-- A session that has not run is idle. -/
  idle : s.started = false → s.state = .idle
  /-- The state is that of the pending call. -/
  waiting : ∀ p ∈ s.pending?, s.started = true ∧ s.state = p.state

theorem Ordered.fresh (id : Text) (request : Request) (mode : ModeChoice) (language : Text) :
    (fresh id request mode language).Ordered where
  head := rfl
  last := rfl
  chain := .singleton _
  idle _ := rfl
  waiting _ hp := nomatch hp

/-- A session that enters a state which may come right after its own has a history in order. -/
theorem Ordered.enter {s : Session} (hs : s.Ordered) {next : State} (h : State.Follows s.request.signer s.state next) :
    (s.enter next).history.head? = some .idle ∧ (s.enter next).history.getLast? = some next ∧
      (s.enter next).history.IsChain (State.Follows s.request.signer) := by
  refine ⟨?_, ?_, ?_⟩
  · simp [Session.enter, hs.head]
  · simp [Session.enter]
  · refine hs.chain.append (.singleton next) ?_
    rw [hs.last]
    intro x hx y hy
    cases hx
    cases hy
    exact h

/-- The session goes on to a call. -/
theorem Ordered.calling {s : Session} (hs : s.Ordered) (hstarted : s.started = true) {p : Pending}
    (h : State.Follows s.request.signer s.state p.state) (n : Nat) : (s.calling p n).Ordered := by
  obtain ⟨head, last, chain⟩ := hs.enter h
  refine ⟨head, last, chain, fun hn => ?_, fun p' hp => ?_⟩
  · exact absurd (hstarted.symm.trans hn) (by decide)
  · obtain rfl := Option.some.inj hp
    exact ⟨hstarted, rfl⟩

/-- The run ends in a state. -/
theorem Ordered.ended {s : Session} (hs : s.Ordered) (hstarted : s.started = true) {final : State}
    (h : State.Follows s.request.signer s.state final) : (s.ended final).Ordered := by
  obtain ⟨head, last, chain⟩ := hs.enter h
  refine ⟨head, last, chain, fun hn => ?_, fun p' hp => nomatch hp⟩
  exact absurd (hstarted.symm.trans hn) (by decide)

theorem Ordered.begun {s : Session} (hs : s.Ordered) : s.begun.Ordered :=
  ⟨hs.head, hs.last, hs.chain, nofun, fun p hp => ⟨rfl, (hs.waiting p hp).2⟩⟩

theorem Ordered.left {s : Session} (hs : s.Ordered) : s.left.Ordered :=
  ⟨hs.head, hs.last, hs.chain, hs.idle, nofun⟩

theorem Ordered.keeps {s s' : Session} (hs : s.Ordered) (h : s.Keeps s') : s'.Ordered := by
  obtain ⟨hrequest, -, -, hstate, hhistory, hstarted, hpending⟩ := h
  refine ⟨?_, ?_, ?_, ?_, ?_⟩
  · rw [hhistory]; exact hs.head
  · rw [hhistory, hstate]; exact hs.last
  · rw [hhistory, hrequest]; exact hs.chain
  · rw [hstarted, hstate]; exact hs.idle
  · rw [hpending, hstarted, hstate]; exact hs.waiting

/-- Every move keeps the invariant. -/
theorem ordered_of_moves {s s' : Session} {heard : Option (Except Fault Value)} {calls : List Call}
    {outcomes : List (Except Fault State)} (hs : s.Ordered) (h : s.Moves heard s' calls outcomes) : s'.Ordered := by
  cases h with
  | rests hk => exact hs.keeps hk
  | refuses => exact hs
  | begins hstarted =>
    refine hs.begun.calling rfl ?_ _
    rw [show s.begun.state = .idle from hs.idle hstarted]
    exact Pending.follows_first _
  | givesUp hstarted =>
    refine hs.begun.ended rfl ?_
    rw [show s.begun.state = .idle from hs.idle hstarted]
    exact .fails (by simp [State.failures])
  | goesOn hp _ hl =>
    obtain ⟨hstarted, hstate⟩ := hs.waiting _ hp
    exact hs.calling hstarted (hstate ▸ hl.follows _) _
  | ends hp he =>
    obtain ⟨hstarted, hstate⟩ := hs.waiting _ hp
    exact hs.ended hstarted (hstate ▸ he.follows _)
  | escapes => exact hs.left

/-- Every reachable session has the invariant. -/
theorem ordered_of_reachable {s : Session} (h : s.Reachable) : s.Ordered := by
  induction h with
  | fresh => exact .fresh ..
  | step e _ ih => exact ordered_of_moves ih (moves_step _ e)

/-- A session with Mobile-ID has nothing to do with the token. -/
theorem Ordered.not_isOfToken {s : Session} (hs : s.Ordered) {p : MobileId} (hp : s.request.signer = .mobileId p) :
    ∀ x ∈ s.history, x.isOfToken = false := by
  refine hs.chain.induction (·.isOfToken = false) s.history (fun x y hxy hx => ?_) fun hne => ?_
  · cases hxy with
    | select ht => cases ht.symm.trans hp
    | fetch | phase1 | sign | phase2 => cases hx
    | mobileId | succeeds | succeedsByPhone | rejected | rejectedByPhone | fails => rfl
  · have hhead := (List.head?_eq_some_head hne).symm.trans hs.head
    rw [Option.some.inj hhead]
    rfl

end Session

/-! ## Histories -/

namespace System

/-- **The history of a session is a path through the diagram** from `idle` to its present state, whatever its calls end
with and in whatever order things happen to the sessions of its system. -/
theorem history_isPath {c : Coordinator} {hs : List (Text × Happening)} {id : Text} {s : Session}
    (h : ((init c).run hs).1.session? id = some s) :
    s.history.head? = some .idle ∧ s.history.getLast? = some s.state ∧
      s.history.IsChain (State.Follows s.request.signer) := by
  have hs := Session.ordered_of_reachable (reachable_of_session? h)
  exact ⟨hs.head, hs.last, hs.chain⟩

/-- Two sessions side by side, of which the first is abandoned while its certificate is on the way to the service. -/
def abandonedRun : List (Text × Happening) :=
  [("a", .open sampleRequest), ("b", .open sampleRequest),
    ("a", .start false 0), ("b", .start false 0), ("a", .finish (.ok (.backend (some 7)))),
    ("b", .finish (.ok (.backend none))), ("a", .finish (.ok (.certificate ⟨[48], none⟩))), ("a", .cancel false),
    ("a", .finish (.error .cancelled))]

theorem history_isPath_abandoned :
    ∃ s, ((init ⟨.mode .auto, "en", false⟩).run abandonedRun).1.session? "a" = some s ∧
      s.history = [.idle, .backendSelecting, .certificateFetching, .phase1Submitting ⟨[48], none⟩,
        .failed .userCancelled none] ∧
      s.history.IsChain (State.Follows s.request.signer) := by
  have h : ((init ⟨.mode .auto, "en", false⟩).run abandonedRun).1.session? "a" =
      some ⟨"a", sampleRequest, .mode .auto, "en", .failed .userCancelled none,
        [.idle, .backendSelecting, .certificateFetching, .phase1Submitting ⟨[48], none⟩, .failed .userCancelled none],
        true, true, none⟩ := rfl
  exact ⟨_, h, rfl, (history_isPath h).2.2⟩

end System

end RemoteSigning
