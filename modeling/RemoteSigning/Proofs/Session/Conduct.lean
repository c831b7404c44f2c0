import RemoteSigning.Proofs.Session.Transitions

/-!
# Whole runs

Those that a session calls decide how each call goes: what its user asks for in the meantime, and what it ends with
(`Reaction`). With them a run is a function (`Session.conduct`): the session starts, and then one call after another
goes its way. Five calls are enough for every run.

- `Session.Progress` is what comes of one call, `progress_round`: nothing else does;
- `Session.Ending` is how a run ends, `ending_rounds`: every run does, as each call leaves fewer to come;
- `start_of_abandoned`, `start_of_calm`: how a run begins.
-/

namespace RemoteSigning

/-! ## The others -/

/-- How a call goes: the requests to cancel that come while it is pending, and its end. It is cancelled only on
request. -/
structure Reaction (c : Call) where
  /-- The requests in order; `true` if the run itself asks. -/
  cancels : List Bool
  result : Except Fault Value
  accepts_result : c.accepts result = true
  ne_nil_of_cancelled : result = .error .cancelled → cancels ≠ []

/-- Nobody asks to cancel, and the call ends with a value. -/
structure Reaction.Brings {c : Call} (r : Reaction c) (v : Value) : Prop where
  cancels : r.cancels = []
  result : r.result = .ok v

theorem Reaction.Brings.unique {c : Call} {r : Reaction c} {v v' : Value} (h : r.Brings v) (h' : r.Brings v') :
    v = v' := Except.ok.inj (h.result.symm.trans h'.result)

/-- The token, the service and the user, as a session meets them. It makes no call twice. -/
abbrev Collaborators := (c : Call) → Reaction c

namespace Session

/-! ## Runs -/

/-- The user asks to cancel, as often as is said. -/
def abandon (s : Session) (l : List Bool) : Session := l.foldl (fun s own => (s.cancel own).1) s

/-- The pending call, if there is one, goes its way, and the run continues. -/
def round (w : Collaborators) (s : Session) : Session × List Action :=
  match s.waitsFor? with
  | none => (s, [])
  | some c => (s.abandon (w c).cancels).resume (w c).result

/-- So many calls go their way; the ends of runs are listed. -/
def rounds (w : Collaborators) : Nat → Session → Session × List (Except Fault State)
  | 0, s => (s, [])
  | k + 1, s =>
    let (s', actions) := s.round w
    let (s'', outcomes) := rounds w k s'
    (s'', actions.filterMap Action.outcome? ++ outcomes)

/-- A whole run; `cancels` requests to cancel whatever runs it are not used up. -/
def conduct (s : Session) (w : Collaborators) (cancels : Nat) : Session × List (Except Fault State) :=
  let (s', actions) := s.start cancels
  let (s'', outcomes) := s'.rounds w 5
  (s'', actions.filterMap Action.outcome? ++ outcomes)

/-! ## Requests to cancel -/

theorem Keeps.trans {s s' s'' : Session} (h : s.Keeps s') (h' : s'.Keeps s'') : s.Keeps s'' :=
  ⟨h'.request.trans h.request, h'.mode.trans h.mode, h'.language.trans h.language, h'.state.trans h.state,
    h'.history.trans h.history, h'.started.trans h.started, h'.pending.trans h.pending⟩

theorem keeps_abandon (s : Session) (l : List Bool) : s.Keeps (s.abandon l) := by
  induction l generalizing s with
  | nil => exact .refl s
  | cons own l ih => exact (s.keeps_cancel own).trans (ih _)

/-- A request to cancel is remembered, unless the session is over. -/
theorem cancelRequested_cancel {s : Session} (h : s.done = false) (own : Bool) :
    (s.cancel own).1.cancelRequested = true := by
  unfold cancel
  rw [if_neg (by simp [h])]
  split
  next hs => exact hs
  · split
    · split <;> rfl
    · rfl

theorem cancelRequested_abandon {s : Session} (h : s.done = false) (l : List Bool) :
    (s.abandon l).cancelRequested = (s.cancelRequested || !l.isEmpty) := by
  induction l generalizing s with
  | nil => simp [abandon]
  | cons own l ih =>
    have hs : (s.cancel own).1.done = false := by rw [done, (s.keeps_cancel own).state]; exact h
    show ((s.cancel own).1.abandon l).cancelRequested = _
    rw [ih hs, cancelRequested_cancel h]
    simp

/-! ## One call -/

/-- The run waits for a call, and nobody has asked to cancel it. -/
structure At (s : Session) (p : Pending) : Prop where
  pending : s.pending? = some p
  state : s.state = p.state
  calm : s.cancelRequested = false

inductive Progress (s : Session) (p : Pending) (r : Reaction (p.call s)) :
    Session → List (Except Fault State) → Prop
  | goesOn {p' : Pending} {v : Value} {n : Nat} :
      r.Brings v → p.Leads v p' → Progress s p r (s.calling p' n) []
  | ends {s' : Session} : p.Settles (!r.cancels.isEmpty) r.result s'.state → s'.pending? = none →
      Progress s p r s' [.ok s'.state]
  | stumbles {v : Value} {f : Fault} :
      r.Brings v → p.Escapes false (.ok v) f → Progress s p r s.left [.error f]

theorem progress_of_moves {s s' : Session} {p : Pending} {r : Reaction (p.call s)} {calls : List Call}
    {outcomes : List (Except Fault State)} (h : s.At p)
    (hm : (s.abandon r.cancels).Moves (some r.result) s' calls outcomes) : s.Progress p r s' outcomes := by
  have hdone : s.done = false := by
    rw [done, h.state]
    exact p.isTerminal_state
  have hc : (s.abandon r.cancels).cancelRequested = !r.cancels.isEmpty := by
    rw [cancelRequested_abandon hdone, h.calm, Bool.false_or]
  have hp : (s.abandon r.cancels).pending? = some p := (s.keeps_abandon _).pending.trans h.pending
  have hcalm (hn : (s.abandon r.cancels).cancelRequested = false) : r.cancels = [] := by
    rw [hc] at hn
    simpa using hn
  generalize hr : r.result = result at hm
  -- Nobody has asked before, so a run that the user has given up was given up during this call.
  cases hm with
  | goesOn hp' hn hl =>
    obtain rfl := Option.some.inj (hp'.symm.trans hp)
    have hnil := hcalm hn
    rw [hnil]
    exact .goesOn ⟨hnil, hr⟩ hl
  | @ends p' _ final hp' he =>
    obtain rfl := Option.some.inj (hp'.symm.trans hp)
    rw [hc, ← hr] at he
    exact .ends he rfl
  | escapes hp' he =>
    obtain rfl := Option.some.inj (hp'.symm.trans hp)
    cases he with
    | cancelled hn => exact absurd (hcalm hn) (r.ne_nil_of_cancelled hr)
    | key hn hk =>
      have hnil := hcalm hn
      rw [hnil]
      exact .stumbles ⟨hnil, hr⟩ (.key rfl hk)

theorem exists_run {s : Session} {p : Pending} (h : s.pending? = some p) : ∃ t, s.run = some t ∧ t.pending = p :=
  Option.map_eq_some_iff.mp h

theorem waitsFor?_of_pending? {s : Session} {p : Pending} (h : s.pending? = some p) :
    s.waitsFor? = some (p.call s) := by
  obtain ⟨t, ht, rfl⟩ := exists_run h
  rw [waitsFor?, ht]
  rfl

/-- Every call makes the run go on, end or stumble. -/
theorem progress_round (w : Collaborators) {s : Session} {p : Pending} (h : s.At p) :
    s.Progress p (w (p.call s)) (s.round w).1 ((s.round w).2.filterMap Action.outcome?) := by
  have hk := s.keeps_abandon (w (p.call s)).cancels
  obtain ⟨t, ht, rfl⟩ := exists_run (hk.pending.trans h.pending)
  have ha : (t.pending.call (s.abandon (w (t.pending.call s)).cancels)).accepts
      (w (t.pending.call s)).result = true := by
    rw [Pending.call_congr hk.request hk.mode hk.language]
    exact (w (t.pending.call s)).accepts_result
  rw [round, waitsFor?_of_pending? h.pending]
  exact progress_of_moves h (moves_resume ht ha)

/-! ## All calls -/

theorem rounds_of_idle (w : Collaborators) (k : Nat) {s : Session} (h : s.pending? = none) :
    s.rounds w k = (s, []) := by
  have hw : s.round w = (s, []) := by
    rw [round, waitsFor?, Option.map_eq_none_iff.mp h]
    rfl
  induction k with
  | zero => rfl
  | succ k ih => rw [rounds, hw]; dsimp only; rw [ih]; rfl

/-- A run that waits for a call stumbles over the key of its certificate, and nobody asks to cancel it before. -/
inductive Stumbles (w : Collaborators) (s : Session) : Pending → Certificate → CertificateFault → Prop
  | here {b : Handle} {c : Certificate} {h : HashToSign} {e : CertificateFault} :
      (w ((Pending.phase1 b c).call s)).Brings (.reply (.hash h)) → c.keyType = .error e →
        Stumbles w s (.phase1 b c) c e
  | later {p p' : Pending} {v : Value} {c : Certificate} {e : CertificateFault} :
      (w (p.call s)).Brings v → p.Leads v p' → Stumbles w s p' c e → Stumbles w s p c e

/-- How a run ends that waits for a call: it stumbles, or it ends in a final state. -/
inductive Ending (w : Collaborators) (s₀ : Session) (p : Pending) (s : Session) : List (Except Fault State) → Prop
  | stumbles {c : Certificate} {e : CertificateFault} :
      Stumbles w s₀ p c e → s.state = .phase1Submitting c → Ending w s₀ p s [.error e.toFault]
  | settles : (∀ c e, ¬ Stumbles w s₀ p c e) → s.state.isTerminal = true → Ending w s₀ p s [.ok s.state]

/-- A run that stumbles after the next call does so after this one. -/
theorem Ending.of_leads {w : Collaborators} {s₀ s : Session} {p p' : Pending} {v : Value}
    {outcomes : List (Except Fault State)} (h : Ending w s₀ p' s outcomes) (hv : (w (p.call s₀)).Brings v)
    (hl : p.Leads v p') : Ending w s₀ p s outcomes := by
  cases h with
  | stumbles hs hstate => exact .stumbles (.later hv hl hs) hstate
  | settles hn ht =>
    refine .settles (fun c e hs => ?_) ht
    cases hs with
    | here hv' hk =>
      obtain rfl := hv'.unique hv
      exact hl.not_escapes (.key rfl hk)
    | later hv' hl' hs =>
      obtain rfl := hv'.unique hv
      obtain rfl := hl.unique hl'
      exact hn c e hs

/-- A run that stumbles does not end with its next call. -/
theorem Stumbles.not_settles {w : Collaborators} {s : Session} {p : Pending} {c : Certificate} {e : CertificateFault}
    {final : State} (h : Stumbles w s p c e) :
    ¬ p.Settles (!(w (p.call s)).cancels.isEmpty) (w (p.call s)).result final := by
  intro hs
  cases h with
  | here hv hk =>
    rw [hv.cancels, hv.result] at hs
    exact hs.not_escapes (.key rfl hk)
  | later hv hl =>
    rw [hv.cancels, hv.result] at hs
    exact hl.not_settles hs

/-- Calls get fewer, and so every run ends. -/
theorem ending_rounds (w : Collaborators) {s₀ s : Session} (hcall : ∀ p : Pending, p.call s = p.call s₀) {p : Pending}
    (h : s.At p) {k : Nat} (hk : p.callsLeft ≤ k) :
    (s.rounds w k).1.pending? = none ∧ Ending w s₀ p (s.rounds w k).1 (s.rounds w k).2 := by
  -- The induction is on the rounds: a run that goes on has one call less to come.
  induction k generalizing s p with
  | zero => exact absurd hk (Nat.not_le.mpr p.callsLeft_pos)
  | succ k ih =>
    have hp := progress_round w h
    rw [rounds]
    dsimp only
    generalize (s.round w).1 = s', (s.round w).2.filterMap Action.outcome? = outcomes at hp ⊢
    cases hp with
    | @goesOn p' v n hv hl =>
      have hcall' (q : Pending) : q.call (s.calling p' n) = q.call s₀ :=
        (Pending.call_congr rfl rfl rfl q).trans (hcall q)
      have hat : (s.calling p' n).At p' := ⟨rfl, rfl, h.calm⟩
      have hleft : p'.callsLeft ≤ k := by
        have := hl.callsLeft_eq
        omega
      obtain ⟨hidle, he⟩ := ih hcall' hat hleft
      rw [hcall] at hv
      exact ⟨hidle, he.of_leads hv hl⟩
    | ends he hn =>
      rw [rounds_of_idle w k hn]
      refine ⟨hn, .settles (fun c e hs => ?_) he.isTerminal⟩
      rw [hcall] at he
      exact hs.not_settles he
    | stumbles hv he =>
      rw [rounds_of_idle w k rfl]
      rw [hcall] at hv
      cases he with
      | key _ hkey => exact ⟨rfl, .stumbles (.here hv hkey) h.state⟩

/-- A run that the user has given up before it starts ends at once. -/
theorem start_of_abandoned {s : Session} (hs : s.started = false) (hc : s.cancelRequested = true) (n : Nat) :
    s.start n = s.begun.fail .userCancelled .none n := by
  rw [start, if_neg (by simp [hs]), if_pos hc]
  rfl

/-- A run that the user has given up before it starts makes no call. -/
theorem conduct_of_abandoned {s : Session} (hs : s.started = false) (hc : s.cancelRequested = true) (w : Collaborators)
    (n : Nat) :
    s.conduct w n = (s.begun.ended (.failed .userCancelled none), [.ok (.failed .userCancelled none)]) := by
  have hstart := start_of_abandoned hs hc n
  have hrounds : (s.begun.ended (.failed .userCancelled none)).rounds w 5 = (_, []) := rounds_of_idle w 5 rfl
  rw [conduct, hstart]
  exact congrArg (fun x => (x.1, [.ok (.failed .userCancelled none)] ++ x.2)) hrounds

/-- Any other run begins with its first call. -/
theorem start_of_calm {s : Session} (hs : s.started = false) (hc : s.cancelRequested = false) (n : Nat) :
    s.start n = s.begun.proceed (.first s.request.signer) n := by
  rw [start, if_neg (by simp [hs])]
  dsimp only
  rw [if_neg (by simp [hc])]
  cases s.request.signer <;> rfl

/-- What follows its first call are the rounds of a run. -/
theorem conduct_of_calm {s : Session} (hs : s.started = false) (hc : s.cancelRequested = false) (w : Collaborators)
    (n : Nat) : s.conduct w n = (s.begun.calling (.first s.request.signer) n).rounds w 5 := by
  rw [conduct, start_of_calm hs hc]
  rfl

end Session

end RemoteSigning
