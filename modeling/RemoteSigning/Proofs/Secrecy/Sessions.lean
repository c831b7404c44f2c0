import Mathlib.Data.List.Forall2
import RemoteSigning.Session.System

/-!
# Two systems that differ in their signatures

Two systems of sessions go through the same happenings, except that the values of the signatures that come in need not
be the same. They stay alike: they differ in the values of signatures only, and so do the requests that carry these.
Whatever is recorded, reported or returned is the same.

- `Likeness`: which signatures pass for one another;
- `State.Alike`, `Session.Alike`, `System.Alike`: what differs in the values of signatures only;
- `start_alike`, `resume_alike`, `cancel_alike`, `interrupt_alike`: what a session does to its state and to the outside;
- `step_alike`: what happens to one session of a system.
-/

namespace RemoteSigning

/-- Which signatures pass for one another. One that is empty passes for no other. -/
structure Likeness where
  alike : Bytes → Bytes → Prop
  refl (v : Bytes) : alike v v
  nil_iff {v w : Bytes} : alike v w → (v = [] ↔ w = [])

namespace Likeness

/-- No signature passes for another one. -/
def equal : Likeness := ⟨Eq, fun _ => rfl, fun h => by rw [h]⟩

/-- Signatures that are not empty pass for one another. -/
def nonEmpty : Likeness where
  alike v w := v = w ∨ v ≠ [] ∧ w ≠ []
  refl _ := .inl rfl
  nil_iff := by
    rintro v w (rfl | ⟨hv, hw⟩)
    · exact Iff.rfl
    · exact ⟨fun h => absurd h hv, fun h => absurd h hw⟩

end Likeness

/-- Two calls end alike: with the same fault, or with values that are alike. -/
inductive EndAlike {α : Type} (R : α → α → Prop) : Except Fault α → Except Fault α → Prop
  | ok {a b : α} : R a b → EndAlike R (.ok a) (.ok b)
  | error (f : Fault) : EndAlike R (.error f) (.error f)

theorem EndAlike.of_eq {α : Type} {R : α → α → Prop} (hR : ∀ a, R a a) (r : Except Fault α) : EndAlike R r r := by
  cases r with
  | ok a => exact .ok (hR a)
  | error f => exact .error f

theorem EndAlike.map {α β : Type} {R : α → α → Prop} {S : β → β → Prop} {f : α → β} (hf : ∀ a b, R a b → S (f a) (f b))
    {r r' : Except Fault α} (h : EndAlike R r r') : EndAlike S (r.map f) (r'.map f) := by
  cases h with
  | ok h => exact .ok (hf _ _ h)
  | error f => exact .error f

theorem forall₂_of_eq {α : Type} {R : α → α → Prop} (hR : ∀ a, R a a) (l : List α) : List.Forall₂ R l l :=
  List.forall₂_same.mpr fun a _ => hR a

/-! ## What is alike -/

/-- Two signatures over the same hash. -/
structure Signature.Alike (L : Likeness) (s s' : Signature) : Prop where
  value : L.alike s.value s'.value
  hash : s.hash = s'.hash

/-- Two states that differ in the value of a signature only. -/
inductive State.Alike (L : Likeness) : State → State → Prop
  | same (s : State) : Alike L s s
  | phase2 {s s' : Signature} : s.Alike L s' → Alike L (.phase2Submitting s) (.phase2Submitting s')

inductive Pending.Alike (L : Likeness) : Pending → Pending → Prop
  | same (p : Pending) : Alike L p p
  | phase2 {s s' : Signature} : s.Alike L s' → Alike L (.phase2 s) (.phase2 s')

structure Run.Alike (L : Likeness) (r r' : Run) : Prop where
  pending : r.pending.Alike L r'.pending
  cancels : r.cancels = r'.cancels

/-- Two requests that differ in the value of a signature only. -/
inductive Outgoing.Alike (L : Likeness) : Outgoing → Outgoing → Prop
  | same (o : Outgoing) : Alike L o o
  | phase2 {s s' : Signature} : s.Alike L s' → Alike L (.phase2 s) (.phase2 s')

inductive Call.Alike (L : Likeness) : Call → Call → Prop
  | same (c : Call) : Alike L c c
  | submit {o o' : Outgoing} : o.Alike L o' → Alike L (.submit o) (.submit o')

/-- Two values that differ in the value of a signature only. -/
inductive Value.Alike (L : Likeness) : Value → Value → Prop
  | same (v : Value) : Alike L v v
  | signature {s s' : Signature} : s.Alike L s' → Alike L (.signature s) (.signature s')

/-- Two records of the same wording. -/
def SessionRecord.Alike (r r' : SessionRecord) : Prop := ∀ id, r.line id = r'.line id

/-- Two sessions that differ in the values of signatures only. -/
structure Session.Alike (L : Likeness) (s s' : Session) : Prop where
  id : s.id = s'.id
  request : s.request = s'.request
  mode : s.mode = s'.mode
  language : s.language = s'.language
  state : s.state.Alike L s'.state
  history : List.Forall₂ (State.Alike L) s.history s'.history
  started : s.started = s'.started
  cancelRequested : s.cancelRequested = s'.cancelRequested
  run : Option.Rel (Run.Alike L) s.run s'.run

inductive Action.Alike (L : Likeness) : Action → Action → Prop
  | same (a : Action) : Alike L a a
  | call {c c' : Call} : c.Alike L c' → Alike L (.call c) (.call c')
  | record {r r' : SessionRecord} : r.Alike r' → Alike L (.record r) (.record r')

/-- What two sessions become and do. -/
def Session.MovesAlike (L : Likeness) (r r' : Session × List Action) : Prop :=
  r.1.Alike L r'.1 ∧ List.Forall₂ (Action.Alike L) r.2 r'.2

variable {L : Likeness}

theorem State.Alike.name {s s' : State} (h : s.Alike L s') : s.name = s'.name := by
  cases h <;> rfl

theorem State.Alike.isTerminal {s s' : State} (h : s.Alike L s') : s.isTerminal = s'.isTerminal := by
  cases h <;> rfl

/-- Ends of sessions are the same. -/
theorem State.Alike.eq_of_isTerminal {s s' : State} (h : s.Alike L s') (ht : s.isTerminal = true) : s = s' := by
  cases h with
  | same => rfl
  | phase2 => cases ht

theorem transition_alike {a a' b b' : State} (ha : a.Alike L a') (hb : b.Alike L b') :
    (SessionRecord.transition a b).Alike (.transition a' b') := fun id => by
  simp only [SessionRecord.line, SessionRecord.level, SessionRecord.message, ha.name, hb.name]

theorem cancelRequested_alike {a a' : State} (ha : a.Alike L a') :
    (SessionRecord.cancelRequested a).Alike (.cancelRequested a') := fun id => by
  simp only [SessionRecord.line, SessionRecord.level, SessionRecord.message, ha.name]

namespace Pending.Alike

variable {p p' : Pending}

theorem state (h : p.Alike L p') : p.state.Alike L p'.state := by
  cases h with
  | same => exact .same _
  | phase2 h => exact .phase2 h

theorem call {s s' : Session} (hs : s.Alike L s') (h : p.Alike L p') : (p.call s).Alike L (p'.call s') := by
  cases h with
  | same =>
    unfold Pending.call
    rw [hs.mode, hs.language, hs.request]
    exact .same _
  | phase2 h => exact .submit (.phase2 h)

/-- How a session fails does not depend on the signature that it has sent. -/
theorem failure (h : p.Alike L p') (f : Fault) : p.failure f = p'.failure f := by
  cases h <;> rfl

end Pending.Alike

/-! ## What sessions do -/

namespace Session

variable {s s' : Session}

theorem Alike.enter (h : s.Alike L s') {a a' : State} (ha : a.Alike L a') : (s.enter a).Alike L (s'.enter a') :=
  { h with
    state := ha
    history := List.rel_append h.history (.cons ha .nil) }

theorem proceed_alike (h : s.Alike L s') {p p' : Pending} (hp : p.Alike L p') (n : Nat) :
    MovesAlike L (s.proceed p n) (s'.proceed p' n) :=
  ⟨{ h.enter hp.state with run := .some ⟨hp, rfl⟩ },
    .cons (.record (transition_alike h.state hp.state)) (.cons (.call (hp.call h)) .nil)⟩

theorem finish_alike (h : s.Alike L s') (announcement : SessionRecord) (final : State) (n : Nat) :
    MovesAlike L (s.finish announcement final n) (s'.finish announcement final n) :=
  ⟨{ h.enter (.same final) with run := .none },
    .cons (.same _) (.cons (.record (transition_alike h.state (.same final))) (.cons (.same _) .nil))⟩

theorem fail_alike (h : s.Alike L s') (reason : FailureReason) (cause : Cause) (n : Nat) :
    MovesAlike L (s.fail reason cause n) (s'.fail reason cause n) := finish_alike h _ _ n

theorem complete_alike (h : s.Alike L s') (mobileId : Bool) (c : Completion) (n : Nat) :
    MovesAlike L (s.complete mobileId c n) (s'.complete mobileId c n) := by
  unfold complete
  split
  · exact finish_alike h _ _ n
  · exact finish_alike h _ _ n

theorem escape_alike (h : s.Alike L s') (f : Fault) (n : Nat) : MovesAlike L (s.escape f n) (s'.escape f n) :=
  ⟨{ h with run := .none }, .cons (.same _) .nil⟩

/-- A record more in front of what two sessions do. -/
theorem MovesAlike.record {r r' : Session × List Action} (h : MovesAlike L r r') (record : SessionRecord) :
    MovesAlike L (r.1, .record record :: r.2) (r'.1, .record record :: r'.2) := ⟨h.1, .cons (.same _) h.2⟩

/-- Two sessions are begun. -/
theorem start_alike (h : s.Alike L s') (n : Nat) : MovesAlike L (s.start n) (s'.start n) := by
  unfold start
  rw [h.started]
  split
  · rw [h.id]
    exact ⟨h, .cons (.same _) .nil⟩
  · have h' : Alike L { s with started := true } { s' with started := true } := { h with started := rfl }
    have hcancel : (s.cancelRequested = true) = (s'.cancelRequested = true) := by rw [h.cancelRequested]
    have hsigner : s.request.signer = s'.request.signer := by rw [h.request]
    simp only [hcancel, hsigner]
    split
    · exact fail_alike h' _ _ n
    · split
      · exact proceed_alike h' (.same _) n
      · exact proceed_alike h' (.same _) n

theorem takeHash_alike (h : s.Alike L s') (b : Handle) (c : Certificate) (x : HashToSign) (n : Nat) :
    MovesAlike L (s.takeHash b c x n) (s'.takeHash b c x n) := by
  unfold takeHash
  split
  · exact escape_alike h _ n
  · split
    · exact proceed_alike h (.same _) n
    · exact fail_alike h _ _ n

theorem takeSignature_alike (h : s.Alike L s') (x : HashToSign) {v v' : Signature} (hv : v.Alike L v') (n : Nat) :
    MovesAlike L (s.takeSignature x v n) (s'.takeSignature x v' n) := by
  unfold takeSignature
  rw [hv.hash]
  split
  · exact proceed_alike h (.phase2 hv) n
  · exact (fail_alike h .signatureDeclined .none n).record .foreignHash

/-- Two sessions that were asked to stop fail; others go on. -/
theorem unlessAbandoned_alike (h : s.Alike L s') (n : Nat) {r r' : Session × List Action} (hr : MovesAlike L r r') :
    MovesAlike L (if s.cancelRequested then s.fail .userCancelled .none n else r)
      (if s'.cancelRequested then s'.fail .userCancelled .none n else r') := by
  rw [h.cancelRequested]
  split
  · exact fail_alike h _ _ n
  · exact hr

/-- Two sessions take values that are alike. -/
theorem take_alike (h : s.Alike L s') {p p' : Pending} (hp : p.Alike L p') {v v' : Value} (hv : v.Alike L v')
    (n : Nat) : MovesAlike L (s.take p v n) (s'.take p' v' n) := by
  cases hp with
  | phase2 hsig =>
    cases hv with
    | signature => exact ⟨h, .nil⟩
    | same v =>
      match v with
      | .reply (.completion c) => exact complete_alike h false c n
      | .reply (.hash x) => exact ⟨h, .nil⟩
      | .backend _ | .certificate _ | .signature _ => exact ⟨h, .nil⟩
  | same p =>
    cases hv with
    | signature hsig =>
      match p with
      | .sign b c x => exact unlessAbandoned_alike h n (takeSignature_alike h x hsig n)
      | .select | .fetch _ | .phase1 .. | .phase2 _ | .mobileId _ => exact ⟨h, .nil⟩
    | same v =>
      match p, v with
      | .select, .backend none => exact unlessAbandoned_alike h n (fail_alike h _ _ n)
      | .select, .backend (some b) => exact unlessAbandoned_alike h n (proceed_alike h (.same _) n)
      | .fetch b, .certificate c =>
        exact unlessAbandoned_alike h n ((proceed_alike h (.same (.phase1 b c)) n).record (.usingCertificate c))
      | .phase1 b c, .reply (.hash x) => exact unlessAbandoned_alike h n (takeHash_alike h b c x n)
      | .sign _ _ x, .signature v =>
        exact unlessAbandoned_alike h n (takeSignature_alike h x ⟨L.refl _, rfl⟩ n)
      | .phase2 _, .reply (.completion c) => exact complete_alike h false c n
      | .mobileId _, .reply (.completion c) => exact complete_alike h true c n
      -- a value that does not fit what is pending leaves both sessions as they are
      | .select, .certificate _ | .select, .reply _ | .select, .signature _ => exact ⟨h, .nil⟩
      | .fetch _, .backend _ | .fetch _, .reply _ | .fetch _, .signature _ => exact ⟨h, .nil⟩
      | .phase1 .., .backend _ | .phase1 .., .certificate _ | .phase1 .., .signature _ => exact ⟨h, .nil⟩
      | .phase1 .., .reply (.completion _) => exact ⟨h, .nil⟩
      | .sign .., .backend _ | .sign .., .certificate _ | .sign .., .reply _ => exact ⟨h, .nil⟩
      | .phase2 _, .backend _ | .phase2 _, .certificate _ | .phase2 _, .signature _ => exact ⟨h, .nil⟩
      | .phase2 _, .reply (.hash _) => exact ⟨h, .nil⟩
      | .mobileId _, .backend _ | .mobileId _, .certificate _ | .mobileId _, .signature _ => exact ⟨h, .nil⟩
      | .mobileId _, .reply (.hash _) => exact ⟨h, .nil⟩

/-- Two sessions go on when their calls have ended alike. -/
theorem resume_alike (h : s.Alike L s') {r r' : Except Fault Value} (hr : EndAlike (Value.Alike L) r r') :
    MovesAlike L (s.resume r) (s'.resume r') := by
  unfold resume
  have hrun := h.run
  generalize s.run = t at hrun ⊢
  generalize s'.run = t' at hrun ⊢
  cases hrun with
  | none => exact ⟨h, .nil⟩
  | @some t t' ht =>
    dsimp only
    rw [ht.cancels]
    cases hr with
    | ok hv => exact take_alike h ht.pending hv t'.cancels
    | error f =>
      cases f with
      | cancelled =>
        dsimp only
        rw [h.cancelRequested]
        split
        · exact fail_alike h _ _ _
        · exact escape_alike h _ _
      | _ =>
        dsimp only
        rw [ht.pending.failure]
        exact fail_alike h _ _ _

/-- What two sessions become, answer and do. -/
def AnswersAlike (L : Likeness) (r r' : Session × Bool × List Action) : Prop :=
  r.1.Alike L r'.1 ∧ r.2.1 = r'.2.1 ∧ List.Forall₂ (Action.Alike L) r.2.2 r'.2.2

/-- Two sessions are abandoned. -/
theorem cancel_alike (h : s.Alike L s') (own : Bool) : AnswersAlike L (s.cancel own) (s'.cancel own) := by
  have hrecord : Action.Alike L (.record (.cancelRequested s.state)) (.record (.cancelRequested s'.state)) :=
    .record (cancelRequested_alike h.state)
  have hdone : s.done = s'.done := h.state.isTerminal
  have h' : Alike L { s with cancelRequested := true } { s' with cancelRequested := true } :=
    { h with cancelRequested := rfl }
  have hrun := h.run
  unfold cancel
  rw [hdone]
  split
  · exact ⟨h, rfl, .nil⟩
  have hcancel : (s.cancelRequested = true) = (s'.cancelRequested = true) := by rw [h.cancelRequested]
  simp only [hcancel]
  split
  · exact ⟨h, rfl, .nil⟩
  cases hr : s.run with
  | none =>
    cases hr' : s'.run with
    | none =>
      rw [hr, hr'] at h'
      exact ⟨h', rfl, .cons hrecord .nil⟩
    | some t' => rw [hr, hr'] at hrun; cases hrun
  | some t =>
    cases hr' : s'.run with
    | none => rw [hr, hr'] at hrun; cases hrun
    | some t' =>
      rw [hr, hr'] at hrun h'
      obtain ⟨ht⟩ := hrun
      cases own with
      | true => exact ⟨h', rfl, .cons hrecord .nil⟩
      | false =>
        exact ⟨{ h' with run := .some ⟨ht.pending, congrArg (· + 1) ht.cancels⟩ }, rfl,
          .cons hrecord (.cons (.same _) .nil)⟩

/-- Two runs are cancelled from outside. -/
theorem interrupt_alike (h : s.Alike L s') : MovesAlike L s.interrupt s'.interrupt := by
  unfold interrupt
  have hrun := h.run
  cases hr : s.run with
  | none =>
    cases hr' : s'.run with
    | none => exact ⟨h, .nil⟩
    | some t' => rw [hr, hr'] at hrun; cases hrun
  | some t =>
    cases hr' : s'.run with
    | none => rw [hr, hr'] at hrun; cases hrun
    | some t' =>
      rw [hr, hr'] at hrun
      obtain ⟨ht⟩ := hrun
      exact ⟨{ h with run := .some ⟨ht.pending, congrArg (· + 1) ht.cancels⟩ }, .cons (.same _) .nil⟩

end Session

/-! ## Systems -/

inductive Happening.Alike (L : Likeness) : Happening → Happening → Prop
  | same (h : Happening) : Alike L h h
  | finish {r r' : Except Fault Value} : EndAlike (Value.Alike L) r r' → Alike L (.finish r) (.finish r')

/-- Two outputs that differ in the value of a signature only. -/
inductive Output.Alike (L : Likeness) : Output → Output → Prop
  | same (o : Output) : Alike L o o
  | call {c c' : Call} : c.Alike L c' → Alike L (.call c) (.call c')
  | record {r r' : SessionRecord} : r.Alike r' → Alike L (.record r) (.record r')

structure Member.Alike (L : Likeness) (m m' : Member) : Prop where
  session : m.session.Alike L m'.session
  reported : m.reported = m'.reported

/-- Two systems that differ in the values of signatures only. -/
structure System.Alike (L : Likeness) (s s' : System) : Prop where
  coordinator : s.coordinator = s'.coordinator
  members : List.Forall₂ (Member.Alike L) s.members s'.members

/-- What two systems become and do. -/
def System.StepsAlike (L : Likeness) (r r' : System × List Output) : Prop :=
  r.1.Alike L r'.1 ∧ List.Forall₂ (Output.Alike L) r.2 r'.2

/-- What is found in two lists that are alike. -/
theorem find?_alike {α : Type} {R : α → α → Prop} {p q : α → Bool} (hpq : ∀ a b, R a b → p a = q b) {l l' : List α}
    (h : List.Forall₂ R l l') : Option.Rel R (l.find? p) (l'.find? q) := by
  induction h with
  | nil => exact .none
  | @cons a b l l' hab _ ih =>
    rw [List.find?_cons, List.find?_cons, hpq a b hab]
    cases q b with
    | true => exact .some hab
    | false => exact ih

theorem isSome_alike {α : Type} {R : α → α → Prop} {o o' : Option α} (h : Option.Rel R o o') :
    o.isSome = o'.isSome := by
  cases h <;> rfl

namespace System

variable {s s' : System}

theorem Alike.member? (h : s.Alike L s') (id : Text) : Option.Rel (Member.Alike L) (s.member? id) (s'.member? id) :=
  find?_alike (fun m m' hm => by rw [hm.session.id]) h.members

theorem putMember_alike {m m' : Member} (hm : m.Alike L m') {l l' : List Member}
    (h : List.Forall₂ (Member.Alike L) l l') : List.Forall₂ (Member.Alike L) (putMember m l) (putMember m' l') := by
  induction h with
  | nil => exact .cons hm .nil
  | cons hn hl ih =>
    rw [putMember, putMember, hn.session.id, hm.session.id]
    split
    · exact .cons hm hl
    · exact .cons hn ih

theorem Alike.put (h : s.Alike L s') {m m' : Member} (hm : m.Alike L m') : (s.put m).Alike L (s'.put m') :=
  ⟨h.coordinator, putMember_alike hm h.members⟩

/-- What actions that are alike mean outside. -/
theorem outputs_alike (c : Coordinator) (reported : Bool) {l l' : List Action}
    (h : List.Forall₂ (Action.Alike L) l l') :
    List.Forall₂ (Output.Alike L) (l.flatMap (outputs c reported)) (l'.flatMap (outputs c reported)) := by
  have hone : ∀ {a a' : Action}, a.Alike L a' →
      List.Forall₂ (Output.Alike L) (outputs c reported a) (outputs c reported a') := fun ha => by
    cases ha with
    | same => exact forall₂_of_eq .same _
    | call hc => exact .cons (.call hc) .nil
    | record hr => exact .cons (.record hr) .nil
  induction h with
  | nil => exact .nil
  | cons ha _ ih => exact List.rel_append (hone ha) ih

/-- A member whose session has done something. -/
theorem put_outputs_alike (h : s.Alike L s') {r r' : Session × List Action} (hr : Session.MovesAlike L r r')
    (reported : Bool) :
    StepsAlike L (s.put ⟨r.1, reported⟩, r.2.flatMap (outputs s.coordinator reported))
      (s'.put ⟨r'.1, reported⟩, r'.2.flatMap (outputs s'.coordinator reported)) :=
  ⟨h.put ⟨hr.1, rfl⟩, h.coordinator ▸ outputs_alike _ _ hr.2⟩

theorem fresh_alike (id : Text) (request : Request) (mode : ModeChoice) (language : Text) :
    Session.Alike L ⟨id, request, mode, language, .idle, [.idle], false, false, none⟩
      ⟨id, request, mode, language, .idle, [.idle], false, false, none⟩ :=
  ⟨rfl, rfl, rfl, rfl, .same _, .cons (.same _) .nil, rfl, rfl, .none⟩

/-- **What happens to one session** of two systems that are alike. -/
theorem step_alike (h : s.Alike L s') (id : Text) {e e' : Happening} (he : e.Alike L e') :
    StepsAlike L (s.step id e) (s'.step id e') := by
  have hm := h.member? id
  unfold step
  generalize s.member? id = m at hm ⊢
  generalize s'.member? id = m' at hm ⊢
  cases hm with
  | none =>
    cases he with
    | finish => exact ⟨h, .nil⟩
    | same e =>
      cases e with
      | «open» request =>
        rw [h.coordinator]
        exact ⟨h.put ⟨fresh_alike .., rfl⟩, .cons (.same _) .nil⟩
      | make request mode language => exact ⟨h.put ⟨fresh_alike .., rfl⟩, .nil⟩
      | start | finish | cancel | interrupt => exact ⟨h, .nil⟩
  | @some m m' hm =>
    have hs := hm.session
    cases he with
    | finish hr =>
      have hstep := put_outputs_alike h (Session.resume_alike hs hr) m.reported
      dsimp only
      rw [← hm.reported]
      exact hstep
    | same e =>
      cases e with
      | «open» | make => exact ⟨h, .nil⟩
      | start reported n =>
        have hstep := put_outputs_alike h (Session.start_alike hs n)
          (if m.session.started then m.reported else reported)
        dsimp only
        rw [← hs.started, ← hm.reported]
        exact hstep
      | finish r =>
        have hstep := put_outputs_alike h (Session.resume_alike hs (.of_eq .same r)) m.reported
        dsimp only
        rw [← hm.reported]
        exact hstep
      | cancel own =>
        obtain ⟨hsession, habandoned, hactions⟩ := Session.cancel_alike hs own
        dsimp only
        rw [← hm.reported, habandoned, ← h.coordinator]
        exact ⟨h.put ⟨hsession, rfl⟩, List.rel_append (outputs_alike _ _ hactions) (.cons (.same _) .nil)⟩
      | interrupt =>
        have hstep := put_outputs_alike h (Session.interrupt_alike hs) m.reported
        dsimp only
        rw [← hm.reported]
        exact hstep

end System

end RemoteSigning
