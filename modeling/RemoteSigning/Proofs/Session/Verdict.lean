import RemoteSigning.Proofs.Session.Escape
import RemoteSigning.Proofs.Session.Observed

/-!
# What a run amounts to

A run that nobody gives up is decided by the first step that fails. `Answers.verdict` writes this down as one function
of what each call would end with: the calls that are made, in order, and the state in which the run ends. It knows
nothing of sessions, their states and how they wait.

- `Answers.Unfolds` is the course of a run that is answered in this way, call by call; `Unfolds.unique`: there is one;
- `Answers.amounts_verdict`: the course is the verdict, unless the run stumbles over a key;
- `Session.unfolds_of_serves`: a session whose calls are answered takes this course, by induction on what happens;
- `System.verdict_iff_of_serves`: so the sessions of a system keep to the verdict, and exactly which of them do not.
-/

namespace RemoteSigning

/-! ## The verdict -/

/-- What each call would end with. -/
structure Answers where
  select : ModeChoice → Except Fault (Option Handle)
  fetch : Handle → Text → Except Fault Certificate
  phase1 : Text → Option Certificate → Except Fault HashToSign
  sign : Handle → Certificate → HashToSign → Text → Except Fault Signature
  phase2 : Signature → Except Fault Completion
  mobileId : Text → Text → Text → Except Fault Completion

/-- The calls of a run, and the state in which it ends. -/
abbrev Verdict := List Call × State

namespace Verdict

/-- The run fails without another call. -/
def fails (reason : FailureReason) : Verdict := ([], .failed reason none)

/-- The run makes a call; it fails if the call does, and otherwise goes on with the value. -/
def ask (c : Call) (result : Except Fault α) (reason : Fault → FailureReason) (goesOn : α → Verdict) : Verdict :=
  match result with
  | .error f => ([c], .failed (reason f) none)
  | .ok a => (c :: (goesOn a).1, (goesOn a).2)

/-- The category of a failure in the first exchange with the service. -/
def firstExchange : Fault → FailureReason
  | .service e => if e.isProtocol then .phase1Protocol else .phase1Transport
  | _ => .phase1Transport

/-- The algorithm of the hash names a kind of key, and the certificate is known to have another. -/
def conflicts (h : HashToSign) (c : Certificate) : Bool :=
  match h.algorithm.key, c.keyType with
  | some k, .ok (some found) => k ≠ found
  | _, _ => false

/-- The service rejects what has an error, and anything else is signed. -/
def completed (mobileId : Bool) (done : Completion) : Verdict :=
  if done.error ≠ [] then ([], .failed .serverRejected (some done.error))
  else ([], .succeeded mobileId done.signedFile)

theorem completed_eq (mobileId : Bool) (done : Completion) : completed mobileId done = ([], done.state mobileId) := by
  unfold completed
  split
  next he => rw [done.state_of_error_ne_nil he]
  next he => rw [done.state_of_error_eq_nil (not_not.mp he)]

/-- The algorithms that a known certificate admits are those without a conflict. -/
theorem admits_eq_not_conflicts {c : Certificate} {found : Option KeyType} (hk : c.keyType = .ok found)
    (h : HashToSign) : h.algorithm.admits found = !conflicts h c := by
  cases found with
  | none => rw [Algorithm.admits_unknown, conflicts, hk]; cases h.algorithm.key <;> rfl
  | some k =>
    rw [Bool.eq_iff_iff, Algorithm.admits_some, conflicts, hk]
    cases hkey : h.algorithm.key with
    | none => simp
    | some k' => simp

end Verdict

namespace Answers

open Verdict in
/-- **What a run amounts to**: the first step that fails decides. -/
def verdict (a : Answers) (request : Request) (mode : ModeChoice) (language : Text) : Verdict :=
  match request.signer with
  | .localToken =>
    ask (.select mode) (a.select mode) (fun _ => .backendUnavailable) fun
    | none => fails .backendUnavailable
    | some b =>
      ask (.fetch b language) (a.fetch b language) (fun _ => .certificateUnavailable) fun c =>
      ask (.submit (.phase1 request.document (some c))) (a.phase1 request.document (some c)) firstExchange fun h =>
      if conflicts h c then fails .phase1Protocol
      else
        ask (.sign b c h language) (a.sign b c h language) (fun _ => .signatureDeclined) fun sig =>
        if sig.hash ≠ h then fails .signatureDeclined
        else ask (.submit (.phase2 sig)) (a.phase2 sig) (fun _ => .phase2Transport) (completed false)
  | .mobileId p =>
    ask (.submit (.mobileId p.personalCode p.phoneNumber request.document))
      (a.mobileId p.personalCode p.phoneNumber request.document) firstExchange (completed true)

/-- What a call ends with. -/
def of (a : Answers) : Call → Except Fault Value
  | .select mode => (a.select mode).map .backend
  | .fetch b language => (a.fetch b language).map .certificate
  | .submit (.phase1 document c) => (a.phase1 document c).map fun h => .reply (.hash h)
  | .submit (.phase2 sig) => (a.phase2 sig).map fun done => .reply (.completion done)
  | .submit (.mobileId code phone document) => (a.mobileId code phone document).map fun done => .reply (.completion done)
  | .sign b c h language => (a.sign b c h language).map .signature

/-- No call ends by being cancelled. -/
def Calm (a : Answers) : Prop := ∀ c, a.of c ≠ .error .cancelled

/-- The first exchange brings a hash for a certificate the kind of whose key cannot be told. -/
structure KeyFault (a : Answers) (request : Request) (mode : ModeChoice) (language : Text) (b : Handle)
    (c : Certificate) (e : CertificateFault) : Prop where
  signer : request.signer = .localToken
  select : a.select mode = .ok (some b)
  fetch : a.fetch b language = .ok c
  phase1 : ∃ h, a.phase1 request.document (some c) = .ok h
  key : c.keyType = .error e

theorem accepts_map {c : Call} {value : α → Value} (h : ∀ x, c.fits (value x) = true) (r : Except Fault α) :
    c.accepts (r.map value) = true := by
  cases r with
  | error f => rfl
  | ok x => exact h x

/-- Calls are answered with what they can end with. -/
theorem accepts_of (a : Answers) (c : Call) : c.accepts (a.of c) = true := by
  cases c with
  | submit o => cases o <;> exact accepts_map (fun _ => rfl) _
  | _ => exact accepts_map (fun _ => rfl) _

/-! ## The course of a run -/

/-- The course of a run from a pending call on: the calls, the pending one included, and how it ends. -/
inductive Unfolds (a : Answers) (s : Session) : Pending → List Call → Except Fault State → Prop
  | settles {p : Pending} {final : State} :
      p.Settles false (a.of (p.call s)) final → Unfolds a s p [p.call s] (.ok final)
  | escapes {p : Pending} {f : Fault} : p.Escapes false (a.of (p.call s)) f → Unfolds a s p [p.call s] (.error f)
  | goesOn {p p' : Pending} {v : Value} {calls : List Call} {outcome : Except Fault State} :
      a.of (p.call s) = .ok v → p.Leads v p' → Unfolds a s p' calls outcome →
        Unfolds a s p (p.call s :: calls) outcome

variable {a : Answers} {s : Session} {p : Pending}

/-- A run takes one course. -/
theorem Unfolds.unique {calls calls' : List Call} {outcome outcome' : Except Fault State}
    (h : a.Unfolds s p calls outcome) (h' : a.Unfolds s p calls' outcome') : calls = calls' ∧ outcome = outcome' := by
  induction h generalizing calls' outcome' with
  | settles he =>
    cases h' with
    | settles he' => exact ⟨rfl, congrArg _ (he.unique he')⟩
    | escapes he' => exact absurd he' he.not_escapes
    | goesOn hv hl => exact absurd (hv ▸ he) hl.not_settles
  | escapes he =>
    cases h' with
    | settles he' => exact absurd he he'.not_escapes
    | escapes he' => exact ⟨rfl, congrArg _ (he.unique he')⟩
    | goesOn hv hl => exact absurd (hv ▸ he) hl.not_escapes
  | goesOn hv hl _ ih =>
    cases h' with
    | settles he' => exact absurd (hv ▸ he') hl.not_settles
    | escapes he' => exact absurd (hv ▸ he') hl.not_escapes
    | goesOn hv' hl' hu =>
      obtain rfl := Except.ok.inj (hv.symm.trans hv')
      obtain rfl := hl.unique hl'
      obtain ⟨rfl, rfl⟩ := ih hu
      exact ⟨rfl, rfl⟩

/-! ## The course is the verdict -/

/-- The course from a pending call on is the verdict. -/
abbrev Amounts (a : Answers) (s : Session) (p : Pending) (w : Verdict) : Prop := a.Unfolds s p w.1 (.ok w.2)

/-- What follows the value of a pending call is the verdict. -/
inductive Continues (a : Answers) (s : Session) (p : Pending) (v : Value) : Verdict → Prop
  | ends {final : State} : p.Settles false (.ok v) final → Continues a s p v ([], final)
  | goesOn {p' : Pending} {w : Verdict} : p.Leads v p' → a.Amounts s p' w → Continues a s p v w

/-- The course from a call on is the verdict if what follows each value is. -/
theorem Amounts.ask {c : Call} {result : Except Fault α} {value : α → Value} {reason : Fault → FailureReason}
    {goesOn : α → Verdict} (hcalm : a.Calm) (hc : p.call s = c) (hresult : a.of (p.call s) = result.map value)
    (hreason : ∀ f, (p.failure f).1 = reason f)
    (hgoesOn : ∀ x, result = .ok x → a.Continues s p (value x) (goesOn x)) :
    a.Amounts s p (Verdict.ask c result reason goesOn) := by
  subst hc
  unfold Verdict.ask
  cases result with
  | error f =>
    have hf : f ≠ .cancelled := fun hf => hcalm (p.call s) (hf ▸ hresult)
    have he : p.Settles false (a.of (p.call s)) (.failed (reason f) none) := by
      rw [hresult, ← hreason f]
      exact .fault hf
    exact .settles he
  | ok x =>
    have hnext := hgoesOn x rfl
    dsimp only
    generalize goesOn x = w at hnext
    cases hnext with
    | ends he => exact .settles (hresult ▸ he)
    | goesOn hl hw => exact .goesOn hresult hl hw

/-- The course of a run is the verdict, unless the run stumbles over a key. -/
theorem amounts_verdict (hcalm : a.Calm) (hkey : ∀ b c e, ¬ a.KeyFault s.request s.mode s.language b c e) :
    a.Amounts s (.first s.request.signer) (a.verdict s.request s.mode s.language) := by
  unfold verdict
  cases hs : s.request.signer with
  | localToken =>
    refine .ask hcalm rfl rfl (fun f => rfl) ?_
    rintro (_ | b) hb
    · exact .ends (.noBackend rfl)
    refine .goesOn .fetch (.ask hcalm rfl rfl (fun f => by cases f <;> rfl) fun c hc => ?_)
    refine .goesOn .phase1 (.ask hcalm rfl rfl (fun f => by cases f <;> rfl) fun h hh => ?_)
    cases hk : c.keyType with
    | error e => exact absurd ⟨hs, hb, hc, ⟨h, hh⟩, hk⟩ (hkey b c e)
    | ok found =>
      have ha := Verdict.admits_eq_not_conflicts hk h
      split
      next hconflict =>
        rw [hconflict] at ha
        exact .ends (.otherKey rfl hk ha)
      next hconflict =>
        rw [Bool.not_eq_true] at hconflict
        rw [hconflict] at ha
        refine .goesOn (.sign hk ha) (.ask hcalm rfl rfl (fun f => by cases f <;> rfl) fun sig _ => ?_)
        split
        next hne => exact .ends (.foreignHash rfl hne)
        next heq =>
          refine .goesOn (.phase2 (not_not.mp heq)) (.ask hcalm rfl rfl (fun f => by cases f <;> rfl) fun done _ => ?_)
          rw [Verdict.completed_eq]
          exact .ends .signed
  | mobileId p =>
    refine .ask hcalm rfl rfl (fun f => by cases f <;> rfl) fun done _ => ?_
    rw [Verdict.completed_eq]
    exact .ends .signedByPhone

/-- The course of a run that stumbles over a key ends with the first exchange. -/
theorem KeyFault.unfolds {b : Handle} {c : Certificate} {e : CertificateFault}
    (h : a.KeyFault s.request s.mode s.language b c e) :
    a.Unfolds s (.first s.request.signer)
      [.select s.mode, .fetch b s.language, .submit (.phase1 s.request.document (some c))] (.error e.toFault) := by
  obtain ⟨hs, hb, hc, ⟨hash, hh⟩, hk⟩ := h
  have hselect : a.of ((Pending.select).call s) = .ok (.backend (some b)) := congrArg (·.map Value.backend) hb
  have hfetch : a.of ((Pending.fetch b).call s) = .ok (.certificate c) := congrArg (·.map Value.certificate) hc
  have hphase1 : a.of ((Pending.phase1 b c).call s) = .ok (.reply (.hash hash)) :=
    congrArg (·.map fun h => Value.reply (.hash h)) hh
  rw [hs]
  exact .goesOn hselect .fetch (.goesOn hfetch .phase1 (.escapes (hphase1 ▸ .key rfl hk)))

end Answers

namespace Session

/-! ## Sessions that are answered -/

variable {a : Answers} {s : Session} {p : Pending}

/-- Things happen to a session: its calls, from the pending one on, end with their answers, and nothing else. -/
def Serves (a : Answers) (s : Session) (p : Pending) (es : List Happening) : Prop :=
  es = ((p.call s :: (s.follow es).2.filterMap Action.call?).map a.of).map .finish

theorem follow_of_idle (h : s.run = none) (l : List (Except Fault Value)) :
    s.follow (l.map .finish) = (s, []) := by
  induction l with
  | nil => rfl
  | cons r l ih =>
    have hstep : s.step (.finish r) = (s, []) := resume_of_idle h r
    rw [List.map_cons, follow, hstep]
    dsimp only
    rw [ih, List.nil_append]

theorem serves_cons_iff {e : Happening} {es : List Happening} :
    Serves a s p (e :: es) ↔ e = .finish (a.of (p.call s)) ∧
      es = (((s.step e).2.filterMap Action.call? ++ ((s.step e).1.follow es).2.filterMap Action.call?).map
        a.of).map .finish := by
  rw [Serves, follow, List.filterMap_append, List.map_cons, List.map_cons, List.cons_eq_cons]

/-- What comes of an answer. -/
theorem moves_of_answer (a : Answers) (hp : s.pending? = some p) :
    s.SeenAs (some (a.of (p.call s))) (s.step (.finish (a.of (p.call s)))) := by
  obtain ⟨t, ht, rfl⟩ := exists_run hp
  exact moves_resume ht (a.accepts_of _)

/-- A session whose calls are answered takes the course of these answers. -/
theorem unfolds_of_serves {s₀ : Session} (hcall : ∀ q : Pending, q.call s = q.call s₀) {es : List Happening}
    (hp : s.pending? = some p) (hc : s.cancelRequested = false) (he : Serves a s p es) :
    ∃ outcome, (s.follow es).2.filterMap Action.outcome? = [outcome] ∧
      a.Unfolds s₀ p (p.call s₀ :: (s.follow es).2.filterMap Action.call?) outcome := by
  -- The induction is on what happens: each answer leads to the next call, or it is the last thing that happens.
  induction es generalizing s p with
  | nil => cases he
  | cons e es ih =>
    obtain ⟨rfl, he⟩ := serves_cons_iff.mp he
    have hm := moves_of_answer a hp
    simp only [follow, List.filterMap_append]
    generalize s.step (.finish (a.of (p.call s))) = n at hm he ⊢
    obtain ⟨s', actions⟩ := n
    unfold SeenAs at hm
    dsimp only at hm he ⊢
    generalize actions.filterMap Action.call? = calls, actions.filterMap Action.outcome? = outcomes,
      hr : a.of (p.call s) = r at hm he ⊢
    rw [hcall] at hr
    have hidle (hs : s'.run = none) (hcalls : calls = []) : s'.follow es = (s', []) := by
      rw [he, hcalls, List.nil_append]
      exact follow_of_idle hs _
    cases hm with
    | @goesOn q p' v n hq _ hl =>
      obtain rfl := Option.some.inj (hp.symm.trans hq)
      have hcall' (q : Pending) : q.call (s.calling p' n) = q.call s₀ :=
        (Pending.call_congr rfl rfl rfl q).trans (hcall q)
      rw [List.singleton_append, hcall, ← hcall'] at he
      obtain ⟨outcome, houtcome, hu⟩ := ih hcall' rfl hc he
      rw [hcall, List.nil_append, List.singleton_append]
      exact ⟨outcome, houtcome, .goesOn hr hl hu⟩
    | ends hq hs =>
      obtain rfl := Option.some.inj (hp.symm.trans hq)
      rw [hc, ← hr] at hs
      rw [hidle rfl rfl]
      exact ⟨_, rfl, .settles hs⟩
    | escapes hq hs =>
      obtain rfl := Option.some.inj (hp.symm.trans hq)
      rw [hc, ← hr] at hs
      rw [hidle rfl rfl]
      exact ⟨_, rfl, .escapes hs⟩

/-- The calls of a session can be answered, one after the other. -/
theorem exists_serves (a : Answers) (hp : s.pending? = some p) (hc : s.cancelRequested = false) :
    ∃ es, Serves a s p es := by
  -- The induction is on the number of calls that are still to come.
  induction hk : p.callsLeft using Nat.strong_induction_on generalizing s p with
  | _ k ih =>
    have hm := moves_of_answer a hp
    suffices h : ∃ es, es = (((s.step (.finish (a.of (p.call s)))).2.filterMap Action.call? ++
        ((s.step (.finish (a.of (p.call s)))).1.follow es).2.filterMap Action.call?).map a.of).map .finish by
      obtain ⟨es, he⟩ := h
      exact ⟨_, serves_cons_iff.mpr ⟨rfl, he⟩⟩
    generalize s.step (.finish (a.of (p.call s))) = n at hm ⊢
    obtain ⟨s', actions⟩ := n
    unfold SeenAs at hm
    dsimp only at hm ⊢
    generalize actions.filterMap Action.call? = calls, actions.filterMap Action.outcome? = outcomes,
      a.of (p.call s) = r at hm ⊢
    cases hm with
    | @goesOn q p' v n hq _ hl =>
      obtain rfl := Option.some.inj (hp.symm.trans hq)
      have hless : p'.callsLeft < k := by
        have := hl.callsLeft_eq
        omega
      exact ih _ hless (s := s.calling p' n) rfl hc rfl
    | ends => exact ⟨[], rfl⟩
    | escapes => exact ⟨[], rfl⟩

/-- A session that begins its run makes its first call, and then it is as if the rest happened to it. -/
theorem follow_start (hs : s.started = false) (hc : s.cancelRequested = false) (reported : Bool) (n : Nat)
    (es : List Happening) :
    (s.follow (.start reported n :: es)).2.filterMap Action.call? =
        (Pending.first s.request.signer).call s ::
          ((s.begun.calling (.first s.request.signer) n).follow es).2.filterMap Action.call? ∧
      (s.follow (.start reported n :: es)).2.filterMap Action.outcome? =
        ((s.begun.calling (.first s.request.signer) n).follow es).2.filterMap Action.outcome? := by
  have hstep : s.step (.start reported n) = s.begun.proceed (.first s.request.signer) n := start_of_calm hs hc n
  rw [follow, hstep]
  exact ⟨rfl, rfl⟩

end Session

/-! ## Sessions of a system -/

namespace System

/-- The session with a name is run, then its calls end with their answers, and nothing else happens to it. -/
def Serves (sys : System) (a : Answers) (id : Text) (l : List (Text × Happening)) : Prop :=
  ∃ reported n, happeningsAt id l = .start reported n :: ((callsOf id (sys.run l).2).map a.of).map .finish

variable {sys : System} {a : Answers} {id : Text} {s : Session}

/-- A session whose calls are answered takes the course of these answers. -/
theorem unfolds_of_serves (h : sys.session? id = some s) (hs : s.started = false) (hc : s.cancelRequested = false)
    {l : List (Text × Happening)} (hl : sys.Serves a id l) :
    ∃ outcome, endsOf id (sys.run l).2 = [outcome] ∧
      a.Unfolds s (.first s.request.signer) (callsOf id (sys.run l).2) outcome := by
  obtain ⟨reported, n, hl⟩ := hl
  obtain ⟨-, hcalls⟩ := shows_calls.run h l
  obtain ⟨-, hends⟩ := shows_ends.run h l
  unfold callsOf at hl ⊢
  rw [endsOf, hends, hcalls]
  rw [hcalls] at hl
  generalize happeningsAt id l = es at hl ⊢
  cases es with
  | nil => cases hl
  | cons e es =>
    obtain ⟨rfl, he⟩ := List.cons.inj hl
    obtain ⟨hcalls, hends⟩ := Session.follow_start hs hc reported n es
    rw [hcalls] at he ⊢
    rw [hends]
    have hcall : ∀ q : Pending, q.call (s.begun.calling (.first s.request.signer) n) = q.call s :=
      Pending.call_congr rfl rfl rfl
    exact Session.unfolds_of_serves hcall rfl hc he

/-- The calls of every session can be answered. -/
theorem exists_serves (h : sys.session? id = some s) (hs : s.started = false) (hc : s.cancelRequested = false) :
    ∃ l, sys.Serves a id l := by
  obtain ⟨es, he⟩ := Session.exists_serves a (s := s.begun.calling (.first s.request.signer) 0) rfl hc
  refine ⟨(.start false 0 :: es).map (id, ·), false, 0, ?_⟩
  obtain ⟨-, hcalls⟩ := shows_calls.run h ((.start false 0 :: es).map (id, ·))
  rw [callsOf, hcalls, happeningsAt_map_self, (Session.follow_start hs hc false 0 es).1]
  exact congrArg _ he

/-- **What a run amounts to.** A session is run, nobody gives it up, and each of its calls ends with its answer, whatever
happens to other sessions in the meantime. Then its calls and the state that the run returns are the verdict, unless
the first exchange brings a hash for a certificate the kind of whose key cannot be told. In that case the run ends with
the fault of this key, after three calls. -/
theorem verdict_iff_of_serves (h : sys.session? id = some s) (hs : s.started = false) (hc : s.cancelRequested = false)
    (hcalm : a.Calm) :
    let v := a.verdict s.request s.mode s.language
    (∃ l, sys.Serves a id l) ∧ ∀ l, sys.Serves a id l →
      let out := (sys.run l).2
      ((callsOf id out = v.1 ∧ endsOf id out = [.ok v.2]) ↔
        ∀ b c e, ¬ a.KeyFault s.request s.mode s.language b c e) ∧
      ∀ b c e, a.KeyFault s.request s.mode s.language b c e →
        callsOf id out =
            [.select s.mode, .fetch b s.language, .submit (.phase1 s.request.document (some c))] ∧
          endsOf id out = [.error e.toFault] := by
  intro v
  refine ⟨exists_serves h hs hc, fun l hl => ?_⟩
  intro out
  obtain ⟨outcome, hends, hu⟩ := unfolds_of_serves h hs hc hl
  have hfault {b : Handle} {c : Certificate} {e : CertificateFault}
      (hk : a.KeyFault s.request s.mode s.language b c e) :
      callsOf id out = [.select s.mode, .fetch b s.language, .submit (.phase1 s.request.document (some c))] ∧
        endsOf id out = [.error e.toFault] := by
    obtain ⟨hcalls, houtcome⟩ := hu.unique hk.unfolds
    exact ⟨hcalls, houtcome ▸ hends⟩
  refine ⟨⟨fun hv b c e hk => ?_, fun hk => ?_⟩, fun b c e hk => hfault hk⟩
  · exact nomatch hv.2.symm.trans (hfault hk).2
  · obtain ⟨hcalls, houtcome⟩ := hu.unique (Answers.amounts_verdict hcalm hk)
    exact ⟨hcalls, houtcome ▸ hends⟩

def openedSession : Session := .fresh "a" sampleRequest (.mode .auto) "en"

def openedSystem : System := ((init ⟨.mode .auto, "en", false⟩).step "a" (.open sampleRequest)).1

theorem session?_openedSystem : openedSystem.session? "a" = some openedSession := rfl

/-- A token with a certificate, and a service that has a hash and accepts what is signed. -/
def acceptingAnswers (c : Certificate) (h : HashToSign) : Answers where
  select _ := .ok (some 1)
  fetch _ _ := .ok c
  phase1 _ _ := .ok h
  sign _ _ _ _ := .ok ⟨[1, 2, 3], h⟩
  phase2 _ := .ok ⟨[], none⟩
  mobileId _ _ _ := .ok ⟨[], none⟩

section Accepting

variable {c : Certificate} {h : HashToSign}

theorem calm_acceptingAnswers : (acceptingAnswers c h).Calm := by
  intro call
  cases call with
  | submit o => cases o <;> nofun
  | _ => nofun

/-- The service accepts whatever can be signed without a conflict. -/
theorem verdict_acceptingAnswers (hc : Verdict.conflicts h c = false) :
    ((acceptingAnswers c h).verdict openedSession.request openedSession.mode openedSession.language).2 =
      .succeeded false none := by
  simp [Answers.verdict, Verdict.ask, Verdict.completed, openedSession, Session.fresh, sampleRequest, acceptingAnswers,
    hc]

/-- Such a run stumbles over its key if there is no telling of what kind it is. -/
theorem keyFault_acceptingAnswers {e : CertificateFault} (hk : c.keyType = .error e) :
    (acceptingAnswers c h).KeyFault openedSession.request openedSession.mode openedSession.language 1 c e :=
  ⟨rfl, rfl, rfl, ⟨h, rfl⟩, hk⟩

end Accepting

/-- The certificate is none at all, and so it conflicts with nothing. -/
theorem verdict_iff_of_serves_acceptingAnswers :
    ∃ l, openedSystem.Serves (acceptingAnswers ⟨[48], none⟩ ⟨[102, 111, 111], ⟨.sha256, some .rsa⟩⟩) "a" l ∧
      endsOf "a" (openedSystem.run l).2 = [.ok (.succeeded false none)] := by
  have hkind : (⟨[48], none⟩ : Certificate).keyType = .ok none := rfl
  obtain ⟨⟨l, hl⟩, hall⟩ := verdict_iff_of_serves session?_openedSystem rfl rfl calm_acceptingAnswers
  have hkey : ∀ b c e, ¬ (acceptingAnswers ⟨[48], none⟩ ⟨[102, 111, 111], ⟨.sha256, some .rsa⟩⟩).KeyFault
      openedSession.request openedSession.mode openedSession.language b c e := by
    rintro b c e ⟨-, -, hc, -, hk⟩
    obtain rfl := Except.ok.inj hc
    exact nomatch hkind.symm.trans hk
  obtain ⟨-, hends⟩ := (hall l hl).1.mpr hkey
  rw [verdict_acceptingAnswers (by rw [Verdict.conflicts, hkind])] at hends
  exact ⟨l, hl, hends⟩

/-- Nobody gives up, no call fails, and the service would accept; but the kind of the key in the certificate cannot be
told, and the run does not return. -/
theorem raised_of_foreignKey :
    let a := acceptingAnswers Session.foreignKey ⟨[102, 111, 111], ⟨.sha512, some .ec⟩⟩
    a.Calm ∧
      (a.verdict openedSession.request openedSession.mode openedSession.language).2 = .succeeded false none ∧
      ∃ l f, openedSystem.Serves a "a" l ∧ endsOf "a" (openedSystem.run l).2 = [.error f] := by
  intro a
  obtain ⟨e, he⟩ := Session.exists_keyType_foreignKey
  obtain ⟨l, hl⟩ := exists_serves (a := a) session?_openedSystem rfl rfl
  obtain ⟨outcome, hends, hu⟩ := unfolds_of_serves session?_openedSystem rfl rfl hl
  obtain ⟨-, rfl⟩ := hu.unique (keyFault_acceptingAnswers he).unfolds
  have hconflict : Verdict.conflicts ⟨[102, 111, 111], ⟨.sha512, some .ec⟩⟩ Session.foreignKey = false := by
    rw [Verdict.conflicts, he]
  exact ⟨calm_acceptingAnswers, verdict_acceptingAnswers hconflict, l, _, hl, hends⟩

end System

end RemoteSigning
