import RemoteSigning.Proofs.Session.Course
import RemoteSigning.Session.Network

/-!
# Everything that one happening does to a session

What happens to a session moves it in one of seven ways (`Session.Moves`): it rests, refuses a second run, begins its
run, ends before the first call, goes on to the next call, ends in a final state, or is left where it is by a fault that
escapes.

- `Session.Keeps`: requests to cancel apart, nothing has changed;
- `Session.moves_step`: every step is a move, with the calls that are made and the ends of runs.
-/

namespace RemoteSigning

/-! ## What is to be seen of actions -/

def Action.call? : Action → Option Call
  | .call c => some c
  | _ => none

/-- The end of a run that an action is. -/
def Action.outcome? : Action → Option (Except Fault State)
  | .returned state _ => some (.ok state)
  | .raised f _ => some (.error f)
  | _ => none

/-! ## Moves -/

namespace Session

/-- A session that has just been opened. -/
def fresh (id : Text) (request : Request) (mode : ModeChoice) (language : Text) : Session :=
  ⟨id, request, mode, language, .idle, [.idle], false, false, none⟩

/-- What something that happens to an open session makes of it, and what the session does. -/
def step (s : Session) : Happening → Session × List Action
  | .open _ | .make .. => (s, [])
  | .start _ n => s.start n
  | .finish r => s.resume r
  | .cancel own => ((s.cancel own).1, (s.cancel own).2.2)
  | .interrupt => s.interrupt

/-- What the run waits for. -/
def pending? (s : Session) : Option Pending := s.run.map Run.pending

/-- What a happening brings to the pending call, if it can end with that. -/
def hears? (s : Session) : Happening → Option (Except Fault Value)
  | .finish r => if s.waitsFor?.any (·.accepts r) then some r else none
  | _ => none

/-- The session when its run has begun. -/
def begun (s : Session) : Session := { s with started := true }

/-- The session when it has gone on to a call. -/
def calling (s : Session) (p : Pending) (cancels : Nat) : Session := { s.enter p.state with run := some ⟨p, cancels⟩ }

/-- The session when its run has ended in a state. -/
def ended (s : Session) (final : State) : Session := { s.enter final with run := none }

/-- The session when its run has ended with a fault. -/
def left (s : Session) : Session := { s with run := none }

/-- Requests to cancel apart, the second session is the first. -/
structure Keeps (s s' : Session) : Prop where
  request : s'.request = s.request
  mode : s'.mode = s.mode
  language : s'.language = s.language
  state : s'.state = s.state
  history : s'.history = s.history
  started : s'.started = s.started
  pending : s'.pending? = s.pending?

/-- **The moves of a session**: what it hears from its pending call, what becomes of it, the calls that it makes and the
ends of runs. -/
inductive Moves (s : Session) :
    Option (Except Fault Value) → Session → List Call → List (Except Fault State) → Prop
  | rests {s' : Session} : s.Keeps s' → Moves s none s' [] []
  | refuses {f : Fault} : s.started = true → Moves s none s [] [.error f]
  | begins {n : Nat} : s.started = false → s.cancelRequested = false →
      Moves s none (s.begun.calling (.first s.request.signer) n) [(Pending.first s.request.signer).call s] []
  | givesUp : s.started = false → s.cancelRequested = true →
      Moves s none (s.begun.ended (.failed .userCancelled none)) [] [.ok (.failed .userCancelled none)]
  | goesOn {p p' : Pending} {v : Value} {n : Nat} : s.pending? = some p → s.cancelRequested = false → p.Leads v p' →
      Moves s (some (.ok v)) (s.calling p' n) [p'.call s] []
  | ends {p : Pending} {r : Except Fault Value} {final : State} : s.pending? = some p →
      p.Settles s.cancelRequested r final → Moves s (some r) (s.ended final) [] [.ok final]
  | escapes {p : Pending} {r : Except Fault Value} {f : Fault} : s.pending? = some p →
      p.Escapes s.cancelRequested r f → Moves s (some r) s.left [] [.error f]

theorem Keeps.refl (s : Session) : s.Keeps s := ⟨rfl, rfl, rfl, rfl, rfl, rfl, rfl⟩

theorem hears?_finish {s : Session} {t : Run} (h : s.run = some t) (r : Except Fault Value) :
    s.hears? (.finish r) = if (t.pending.call s).accepts r then some r else none := by
  simp [hears?, waitsFor?, h]

/-! ## Every step is a move -/

/-- A value that a pending call can have is the one that its run expects. -/
theorem expects_of_fits {s : Session} : ∀ {p : Pending} {v : Value}, (p.call s).fits v = true → p.Expects v
  | .select, .backend handle, _ => .backend handle
  | .fetch _, .certificate c, _ => .certificate c
  | .phase1 .., .reply (.hash h), _ => .hash h
  | .sign .., .signature sig, _ => .signature sig
  | .phase2 _, .reply (.completion c), _ => .completion c
  | .mobileId _, .reply (.completion c), _ => .completionByPhone c

/-- A value that the pending call cannot have changes nothing. -/
theorem take_of_not_fits {s : Session} {p : Pending} {v : Value} (h : (p.call s).fits v ≠ true) (n : Nat) :
    s.take p v n = (s, []) := by
  unfold take
  split <;> first | rfl | exact absurd rfl h

theorem resume_of_not_accepts {s : Session} {t : Run} (h : s.run = some t) {r : Except Fault Value}
    (ha : (t.pending.call s).accepts r ≠ true) : s.resume r = (s, []) := by
  cases r with
  | error f => exact absurd rfl ha
  | ok v => simpa [resume, h] using take_of_not_fits ha t.cancels

/-- What is to be seen of a step: the session after it, its calls and the ends of runs. -/
abbrev SeenAs (s : Session) (heard : Option (Except Fault Value)) (r : Session × List Action) : Prop :=
  s.Moves heard r.1 (r.2.filterMap Action.call?) (r.2.filterMap Action.outcome?)

theorem moves_complete {s : Session} {p : Pending} {r : Except Fault Value} {mobileId : Bool} {c : Completion}
    (hp : s.pending? = some p) (h : p.Settles s.cancelRequested r (c.state mobileId)) (n : Nat) :
    s.SeenAs (some r) (s.complete mobileId c n) := by
  unfold Completion.state at h
  unfold complete
  split at h
  next hc => rw [if_pos hc]; exact .ends hp h
  next hc => rw [if_neg hc]; exact .ends hp h

theorem moves_takeHash {s : Session} {b : Handle} {c : Certificate} (hp : s.pending? = some (.phase1 b c))
    (hs : s.cancelRequested = false) (h : HashToSign) (n : Nat) :
    s.SeenAs (some (.ok (.reply (.hash h)))) (s.takeHash b c h n) := by
  unfold takeHash
  split
  next hk => exact .escapes hp (.key hs hk)
  next hk =>
    split
    next ha => exact .goesOn hp hs (.sign hk ha)
    next ha =>
      rw [Bool.not_eq_true] at ha
      exact .ends hp (.otherKey hs hk ha)

theorem moves_takeSignature {s : Session} {b : Handle} {c : Certificate} {h : HashToSign}
    (hp : s.pending? = some (.sign b c h)) (hs : s.cancelRequested = false) (sig : Signature) (n : Nat) :
    s.SeenAs (some (.ok (.signature sig))) (s.takeSignature h sig n) := by
  unfold takeSignature
  split
  next he => exact .goesOn hp hs (.phase2 he)
  next he => exact .ends hp (.foreignHash hs he)

/-- The run stops instead of going on if the user has asked for it while the pending call was under way. -/
theorem moves_unlessAbandoned {s : Session} {p : Pending} {v : Value} {r : Session × List Action}
    (hp : s.pending? = some p) (hl : p.isLast = false) (n : Nat)
    (h : s.cancelRequested = false → s.SeenAs (some (.ok v)) r) :
    s.SeenAs (some (.ok v)) (if s.cancelRequested then s.fail .userCancelled .none n else r) := by
  split
  next hs => exact .ends hp (.tooLate hs hl)
  next hs =>
    rw [Bool.not_eq_true] at hs
    exact h hs

/-- The run continues with a value that its pending call can have. -/
theorem moves_take {s : Session} {p : Pending} {v : Value} (hp : s.pending? = some p) (h : p.Expects v) (n : Nat) :
    s.SeenAs (some (.ok v)) (s.take p v n) := by
  cases h with
  | backend handle =>
    refine moves_unlessAbandoned hp rfl n fun hs => ?_
    cases handle with
    | none => exact .ends hp (.noBackend hs)
    | some b => exact .goesOn hp hs .fetch
  | certificate c => exact moves_unlessAbandoned hp rfl n fun hs => .goesOn hp hs .phase1
  | hash h => exact moves_unlessAbandoned hp rfl n fun hs => moves_takeHash hp hs h n
  | signature sig => exact moves_unlessAbandoned hp rfl n fun hs => moves_takeSignature hp hs sig n
  | completion c => exact moves_complete hp .signed n
  | completionByPhone c => exact moves_complete hp .signedByPhone n

/-- The run continues with the end of its pending call. -/
theorem moves_resume {s : Session} {t : Run} (h : s.run = some t) {r : Except Fault Value}
    (ha : (t.pending.call s).accepts r = true) : s.SeenAs (some r) (s.resume r) := by
  have hp : s.pending? = some t.pending := by simp [pending?, h]
  unfold resume
  rw [h]
  dsimp only
  split
  · split
    next hs => exact .ends hp (.stopped hs)
    next hs =>
      rw [Bool.not_eq_true] at hs
      exact .escapes hp (.cancelled hs)
  next f hf => exact .ends hp (.fault fun e => hf (e ▸ rfl))
  · exact moves_take hp (expects_of_fits ha) t.cancels

theorem moves_start (s : Session) (n : Nat) : s.SeenAs none (s.start n) := by
  unfold start
  split
  next h => exact .refuses h
  next h =>
    rw [Bool.not_eq_true] at h
    dsimp only
    split
    next hs => exact .givesUp h hs
    next hs =>
      rw [Bool.not_eq_true] at hs
      have := Moves.begins (n := n) h hs
      cases hr : s.request.signer with
      | localToken => rw [hr] at this; exact this
      | mobileId p => rw [hr] at this; exact this

/-- A request to cancel changes nothing else. -/
theorem keeps_cancel (s : Session) (own : Bool) : s.Keeps (s.cancel own).1 := by
  unfold cancel
  split
  · exact .refl s
  · split
    · exact .refl s
    · split
      next t h =>
        split
        · exact ⟨rfl, rfl, rfl, rfl, rfl, rfl, rfl⟩
        · exact ⟨rfl, rfl, rfl, rfl, rfl, rfl, by simp [pending?, h]⟩
      · exact ⟨rfl, rfl, rfl, rfl, rfl, rfl, rfl⟩

/-- A request to cancel makes no call and ends no run. -/
theorem seen_cancel (s : Session) (own : Bool) :
    (s.cancel own).2.2.filterMap Action.call? = [] ∧ (s.cancel own).2.2.filterMap Action.outcome? = [] := by
  unfold cancel
  split
  · exact ⟨rfl, rfl⟩
  · split
    · exact ⟨rfl, rfl⟩
    · split
      · split <;> exact ⟨rfl, rfl⟩
      · exact ⟨rfl, rfl⟩

theorem moves_cancel (s : Session) (own : Bool) : s.SeenAs none ((s.cancel own).1, (s.cancel own).2.2) := by
  obtain ⟨hcalls, houtcomes⟩ := s.seen_cancel own
  rw [SeenAs, hcalls, houtcomes]
  exact .rests (s.keeps_cancel own)

theorem moves_interrupt (s : Session) : s.SeenAs none s.interrupt := by
  unfold interrupt
  split
  next t h => exact .rests ⟨rfl, rfl, rfl, rfl, rfl, rfl, by simp [pending?, h]⟩
  · exact .rests (.refl s)

/-- **Every step of a session is one of its moves.** -/
theorem moves_step (s : Session) (h : Happening) : s.SeenAs (s.hears? h) (s.step h) := by
  cases h with
  | «open» _ => exact .rests (.refl s)
  | make => exact .rests (.refl s)
  | start _ n => exact moves_start s n
  | finish r =>
    show s.SeenAs _ (s.resume r)
    cases hr : s.run with
    | none =>
      rw [resume_of_idle hr, hears?, waitsFor?, hr]
      exact .rests (.refl s)
    | some t =>
      rw [hears?_finish hr]
      split
      next ha => exact moves_resume hr ha
      next ha =>
        rw [resume_of_not_accepts hr ha]
        exact .rests (.refl s)
  | cancel own => exact moves_cancel s own
  | interrupt => exact moves_interrupt s

end Session

end RemoteSigning
