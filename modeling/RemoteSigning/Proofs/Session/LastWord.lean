import RemoteSigning.Proofs.Session.Abandonment
import RemoteSigning.Proofs.Session.Observed

/-!
# Who has the last word in a session that was given up

When the user gives a session up, the run ends with the call that is pending at the time, and what this call ends with
decides how (`Pending.lastWord`). If it lets the cancellation through, or ends with a value after which another call
would follow, the session fails because the user has given it up. But if it ends with any other fault, or if it is the
last call and ends with the word of the service, then the session ends as it would have ended otherwise.

- `Call.answer?` is what a call ends with, among all that happens to its session;
- `Session.ok_mem_ends_of_pending`, `Session.ok_mem_ends_of_unstarted`: how a run ends that was given up, by induction
  on what happens afterwards;
- `System.returned_iff_of_cancel`: how every run ends that was given up, and for which of them the user is the reason;
- `System.returned_of_declined`: a session that was given up while the token was to sign.
-/

namespace RemoteSigning

/-- The word of the service is no request of the user. -/
theorem Completion.state_ne_userCancelled (c : Completion) (mobileId : Bool) :
    c.state mobileId ≠ .failed .userCancelled none := by
  unfold state
  split <;> simp

/-! ## The end of the pending call -/

/-- What a call ends with: the first end that it can have. -/
def Call.answer? (c : Call) : List Happening → Option (Except Fault Value)
  | [] => none
  | .finish r :: es => if c.accepts r then some r else c.answer? es
  | _ :: es => c.answer? es

theorem Call.accepts_of_answer? {c : Call} {r : Except Fault Value} {es : List Happening}
    (h : c.answer? es = some r) : c.accepts r = true := by
  induction es with
  | nil => cases h
  | cons e es ih =>
    cases e with
    | finish r' =>
      rw [answer?] at h
      split at h
      next ha => exact Option.some.inj h ▸ ha
      next => exact ih h
    | _ => exact ih h

namespace Pending

/-- The state in which a run ends that was given up, for what its pending call ends with. -/
def lastWord : Pending → Except Fault Value → State
  | .phase2 _, .ok (.reply (.completion done)) => done.state false
  | .mobileId _, .ok (.reply (.completion done)) => done.state true
  | _, .ok _ => .failed .userCancelled none
  | p, .error f => .failed (if f = .cancelled then .userCancelled else (p.failure f).1) none

theorem lastWord_of_cancelled (p : Pending) : p.lastWord (.error .cancelled) = .failed .userCancelled none := by
  simp [lastWord]

theorem lastWord_of_fault (p : Pending) {f : Fault} (h : f ≠ .cancelled) :
    p.lastWord (.error f) = .failed (p.failure f).1 none := by
  simp [lastWord, h]

theorem lastWord_of_not_isLast {p : Pending} (h : p.isLast = false) (v : Value) :
    p.lastWord (.ok v) = .failed .userCancelled none := by
  unfold lastWord
  split
  · cases h
  · cases h
  · rfl
  next he => cases he

/-- A run that was given up ends with the last word. -/
theorem Settles.eq_lastWord {p : Pending} {r : Except Fault Value} {final : State} (h : p.Settles true r final) :
    final = p.lastWord r := by
  cases h with
  | stopped => exact p.lastWord_of_cancelled.symm
  | tooLate _ hl => exact (lastWord_of_not_isLast hl _).symm
  | fault hf => exact (p.lastWord_of_fault hf).symm
  | noBackend hn => cases hn
  | otherKey hn => cases hn
  | foreignHash hn => cases hn
  | signed => rfl
  | signedByPhone => rfl

/-- No fault of a call counts as a request of the user. -/
theorem failure_ne_userCancelled (p : Pending) (f : Fault) : (p.failure f).1 ≠ .userCancelled := by
  cases p with
  | select => simp [failure]
  | phase1 =>
    cases f with
    | service e => cases he : e.isProtocol <;> simp [failure, he]
    | _ => simp [failure]
  | mobileId =>
    cases f with
    | service e => cases he : e.isProtocol <;> simp [failure, he]
    | _ => simp [failure]
  | _ => cases f <;> simp [failure]

/-- The user is the reason for the end unless the pending call has the last word itself. -/
theorem lastWord_eq_userCancelled_iff {s : Session} {p : Pending} {r : Except Fault Value}
    (h : (p.call s).accepts r = true) :
    p.lastWord r = .failed .userCancelled none ↔ r = .error .cancelled ∨ p.isLast = false ∧ ∃ v, r = .ok v := by
  cases r with
  | error f =>
    by_cases hf : f = .cancelled
    · simp [hf, lastWord_of_cancelled]
    · simp [hf, lastWord_of_fault, failure_ne_userCancelled]
  | ok v =>
    cases hl : p.isLast with
    | false => simp [lastWord_of_not_isLast hl]
    | true =>
      have hv := Session.expects_of_fits h
      cases hv with
      | completion done => simp [lastWord, done.state_ne_userCancelled]
      | completionByPhone done => simp [lastWord, done.state_ne_userCancelled]
      | _ => cases hl

end Pending

/-! ## Runs that were given up -/

namespace Session

variable {s : Session} {p : Pending}

/-- A session whose run is over has nothing to return any more. -/
theorem ok_not_mem_ends_of_idle (hp : s.pending? = none) (hs : s.started = true) (es : List Happening)
    (final : State) : .ok final ∉ (s.follow es).2.filterMap Action.outcome? := by
  induction es generalizing s with
  | nil => exact List.not_mem_nil
  | cons e es ih =>
    have hm := s.moves_step e
    have hidle (p : Pending) : s.pending? ≠ some p := by simp [hp]
    unfold SeenAs at hm
    rw [follow, List.filterMap_append, List.mem_append, not_or]
    generalize (s.step e).1 = s', (s.step e).2.filterMap Action.call? = calls,
      (s.step e).2.filterMap Action.outcome? = outcomes, s.hears? e = heard at hm ⊢
    cases hm with
    | rests hk => exact ⟨List.not_mem_nil, ih (hk.pending.trans hp) (hk.started.trans hs)⟩
    | refuses => exact ⟨by simp, ih hp hs⟩
    | begins hn => exact absurd (hs.symm.trans hn) (by decide)
    | givesUp hn => exact absurd (hs.symm.trans hn) (by decide)
    | goesOn hq => exact absurd hq (hidle _)
    | ends hq => exact absurd hq (hidle _)
    | escapes hq => exact absurd hq (hidle _)

/-- What a pending call ends with is the first thing that its session hears. -/
theorem answer?_cons (hp : s.pending? = some p) (e : Happening) (es : List Happening) :
    (p.call s).answer? (e :: es) = (s.hears? e).or ((p.call s).answer? es) := by
  cases e with
  | finish r =>
    rw [hears?, waitsFor?_of_pending? hp, Call.answer?]
    simp only [Option.any_some]
    split <;> rfl
  | _ => rfl

/-- How a run ends that was given up while a call was pending: with the last word, when the call ends. -/
theorem ok_mem_ends_of_pending (hp : s.pending? = some p) (hs : s.started = true) (hc : s.cancelRequested = true)
    (es : List Happening) (final : State) :
    .ok final ∈ (s.follow es).2.filterMap Action.outcome? ↔
      ∃ r, (p.call s).answer? es = some r ∧ final = p.lastWord r := by
  -- The induction is on what happens: the call stays pending until the session hears its end.
  induction es generalizing s with
  | nil => simp [follow, Call.answer?]
  | cons e es ih =>
    have hm := s.moves_step e
    unfold SeenAs at hm
    have hc' := cancelRequested_step hc e
    rw [follow, List.filterMap_append, List.mem_append, answer?_cons hp]
    generalize (s.step e).1 = s', (s.step e).2.filterMap Action.call? = calls,
      (s.step e).2.filterMap Action.outcome? = outcomes, s.hears? e = heard at hm hc' ⊢
    cases hm with
    | rests hk =>
      rw [Option.none_or, ← p.call_congr hk.request hk.mode hk.language]
      simpa using ih (hk.pending.trans hp) (hk.started.trans hs) hc'
    | refuses => simpa using ih hp hs hc
    | begins hn => exact absurd (hs.symm.trans hn) (by decide)
    | givesUp hn => exact absurd (hs.symm.trans hn) (by decide)
    | goesOn _ hn => exact absurd (hc.symm.trans hn) (by decide)
    | @ends q r final' hq he =>
      obtain rfl := Option.some.inj (hp.symm.trans hq)
      rw [hc] at he
      have hidle := ok_not_mem_ends_of_idle (s := s.ended final') rfl hs es final
      rw [Option.some_or, List.mem_singleton]
      constructor
      · rintro (hf | hf)
        · exact ⟨r, rfl, (Except.ok.inj hf).trans he.eq_lastWord⟩
        · exact absurd hf hidle
      · rintro ⟨r', hr, hf⟩
        obtain rfl := Option.some.inj hr
        exact .inl (congrArg _ (hf.trans he.eq_lastWord.symm))
    | escapes _ he =>
      rw [hc] at he
      cases he with
      | cancelled hn => cases hn
      | key hn => cases hn

/-- How a run ends that was given up before it was started: as soon as it is started. -/
theorem ok_mem_ends_of_unstarted (hr : s.run = none) (hs : s.started = false) (hc : s.cancelRequested = true)
    (es : List Happening) (final : State) :
    .ok final ∈ (s.follow es).2.filterMap Action.outcome? ↔
      (∃ reported n, .start reported n ∈ es) ∧ final = .failed .userCancelled none := by
  induction es with
  | nil => simp [follow]
  | cons e es ih =>
    rw [follow, List.filterMap_append, List.mem_append]
    cases e with
    | start reported n =>
      have hstart : s.step (.start reported n) = s.begun.fail .userCancelled .none n := start_of_abandoned hs hc n
      have hends : (s.begun.fail .userCancelled .none n).2.filterMap Action.outcome? =
          [.ok (.failed .userCancelled none)] := rfl
      have hidle := ok_not_mem_ends_of_idle (s := s.begun.ended (.failed .userCancelled none)) rfl rfl es final
      rw [hstart, hends, List.mem_singleton]
      constructor
      · rintro (hf | hf)
        · exact ⟨⟨_, _, List.mem_cons_self⟩, Except.ok.inj hf⟩
        · exact absurd hf hidle
      · rintro ⟨-, hf⟩
        exact .inl (congrArg _ hf)
    | cancel own =>
      have hstep : s.step (.cancel own) = (s, []) := by rw [step, cancel_of_cancelRequested hc]
      rw [hstep]
      simpa using ih
    | finish r =>
      have hstep : s.step (.finish r) = (s, []) := resume_of_idle hr r
      rw [hstep]
      simpa using ih
    | interrupt =>
      have hstep : s.step .interrupt = (s, []) := by rw [step, interrupt, hr]
      rw [hstep]
      simpa using ih
    | _ => simpa [step] using ih

/-- How a run ends that was given up, at whatever time. -/
theorem ok_mem_ends_of_abandoned (ho : s.Ordered) (hc : s.cancelRequested = true) (es : List Happening)
    (final : State) :
    .ok final ∈ (s.follow es).2.filterMap Action.outcome? ↔
      (s.started = false ∧ (∃ reported n, .start reported n ∈ es) ∧ final = .failed .userCancelled none) ∨
        ∃ p r, s.pending? = some p ∧ (p.call s).answer? es = some r ∧ final = p.lastWord r := by
  cases hp : s.pending? with
  | some p =>
    obtain ⟨hs, -⟩ := ho.waiting p hp
    rw [ok_mem_ends_of_pending hp hs hc]
    simp [hs]
  | none =>
    cases hs : s.started with
    | true => simpa using ok_not_mem_ends_of_idle hp hs es final
    | false =>
      rw [ok_mem_ends_of_unstarted (Option.map_eq_none_iff.mp hp) hs hc]
      simp

end Session

/-! ## Sessions of a system -/

namespace System

/-- **Who has the last word.** A session is given up, and things go on to happen to it and to the others. If it has not
been started, its run fails at once because of the user. If a call is pending, its run ends when this call ends, with
the last word. So a run that returns names the user as the reason exactly if the pending call, if there is one, lets the
cancellation through, or is not the last call and ends with a value. -/
theorem returned_iff_of_cancel {c : Coordinator} {l : List (Text × Happening)} {id : Text} {s : Session} {own : Bool}
    (h : ((init c).run l).1.session? id = some s) (hanswer : (s.cancel own).2.1 = true)
    (l' : List (Text × Happening)) :
    let later := happeningsAt id l'
    let ends := endsOf id ((((init c).run l).1.step id (.cancel own)).1.run l').2
    (∀ final, .ok final ∈ ends ↔
      (s.started = false ∧ (∃ reported n, .start reported n ∈ later) ∧ final = .failed .userCancelled none) ∨
        ∃ p r, s.pending? = some p ∧ (p.call s).answer? later = some r ∧ final = p.lastWord r) ∧
    ∀ final, .ok final ∈ ends → (final = .failed .userCancelled none ↔
      ∀ p r, s.pending? = some p → (p.call s).answer? later = some r →
        r = .error .cancelled ∨ p.isLast = false ∧ ∃ v, r = .ok v) := by
  intro later ends
  have hdone : s.done = false := by simpa [Session.answer_cancel] using hanswer
  have hk := s.keeps_cancel own
  have hs₀ := Session.ordered_of_reachable (reachable_of_session? h)
  obtain ⟨-, hends⟩ := shows_ends.run (session?_step_of_session? h (.cancel own)) l'
  have hreturned (final : State) : .ok final ∈ ends ↔
      (s.started = false ∧ (∃ reported n, .start reported n ∈ later) ∧ final = .failed .userCancelled none) ∨
        ∃ p r, s.pending? = some p ∧ (p.call s).answer? later = some r ∧ final = p.lastWord r := by
    have hcall := Pending.call_congr hk.request hk.mode hk.language
    have := Session.ok_mem_ends_of_abandoned (hs₀.keeps hk) (Session.cancelRequested_cancel hdone own) later final
    rw [hk.started, hk.pending] at this
    simp only [hcall] at this
    rw [← this]
    exact iff_of_eq (congrArg (.ok final ∈ ·) hends)
  refine ⟨hreturned, fun final hfinal => ?_⟩
  rcases (hreturned final).mp hfinal with ⟨hs, -, rfl⟩ | ⟨p, r, hp, hr, rfl⟩
  · refine ⟨fun _ p r hp _ => ?_, fun _ => rfl⟩
    obtain ⟨hs', -⟩ := hs₀.waiting p hp
    exact absurd (hs'.symm.trans hs) (by decide)
  · rw [Pending.lastWord_eq_userCancelled_iff (Call.accepts_of_answer? hr)]
    refine ⟨fun hreason p' r' hp' hr' => ?_, fun hreason => hreason p r hp hr⟩
    obtain rfl := Option.some.inj (hp.symm.trans hp')
    obtain rfl := Option.some.inj (hr.symm.trans hr')
    exact hreason

/-- A session that waits for the signature of its token. -/
def signingRun : List (Text × Happening) :=
  [("a", .open sampleRequest), ("a", .start false 0), ("a", .finish (.ok (.backend (some 7)))),
    ("a", .finish (.ok (.certificate ⟨[48], none⟩))),
    ("a", .finish (.ok (.reply (.hash ⟨[102, 111, 111], ⟨.sha256, none⟩⟩))))]

/-- The system in which it waits. -/
def signingSystem : System := ((init ⟨.mode .auto, "en", false⟩).run signingRun).1

/-- Its token lets the cancellation through: the user is the reason. -/
theorem returned_iff_of_cancel_signingRun :
    ∃ s, signingSystem.session? "a" = some s ∧ (s.cancel false).2.1 = true ∧
      .ok (.failed .userCancelled none) ∈
        endsOf "a" (((signingSystem.step "a" (.cancel false)).1.run [("a", .finish (.error .cancelled))]).2) := by
  obtain ⟨s, hs⟩ : ∃ s, signingSystem.session? "a" = some s := ⟨_, rfl⟩
  have hstate : (signingSystem.session? "a").map (fun s => ((s.cancel false).2.1, s.pending?)) =
      some (true, some (.sign 7 ⟨[48], none⟩ ⟨[102, 111, 111], ⟨.sha256, none⟩⟩)) := rfl
  rw [hs, Option.map_some] at hstate
  obtain ⟨hanswer, hp⟩ := Prod.mk.inj (Option.some.inj hstate)
  obtain ⟨hreturned, -⟩ := returned_iff_of_cancel (l := signingRun) hs hanswer [("a", .finish (.error .cancelled))]
  exact ⟨s, hs, hanswer, (hreturned _).mpr (.inr ⟨_, .error .cancelled, hp, rfl, rfl⟩)⟩

/-- The user gives up while the token is to sign, and the token declines: the run says that the signature was declined,
not that the user has given up. -/
theorem returned_of_declined :
    let n := signingSystem.step "a" (.cancel false)
    (∃ record, n.2 = [.record record, .interrupt, .answered true]) ∧
      endsOf "a" (n.1.run [("a", .finish (.error (.decline .cancelled [])))]).2 =
        [.ok (.failed .signatureDeclined none)] ∧
      State.failed .signatureDeclined none ≠ .failed .userCancelled none :=
  ⟨⟨_, rfl⟩, rfl, by decide⟩

end System

end RemoteSigning
