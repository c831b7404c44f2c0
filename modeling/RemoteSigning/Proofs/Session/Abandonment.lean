import RemoteSigning.Proofs.Session.Conduct
import RemoteSigning.Proofs.Session.Isolation

/-!
# Sessions that the user has given up

A request to stop is remembered until the end of the session. From then on no move makes a call: the session waits for
the call that is pending, if there is one, and everything that still passes is the end of that call.

- `Session.resume_frame`: to continue a run changes nothing but the state, the history and the run itself;
- `Session.Moves.of_abandoned`: what a session still does that has been given up;
- `Session.meetAll_of_abandoned`: all that still passes, by induction on the incidents;
- `Network.quiet_of_cancel`: all of this for every session of a network.
-/

namespace RemoteSigning

namespace Session

/-! ## The request is remembered -/

/-- To continue a run with a value changes nothing but the state, the history and the run itself. -/
theorem take_frame (s : Session) (p : Pending) (v : Value) (n : Nat) :
    ∃ state history run, (s.take p v n).1 = { s with state := state, history := history, run := run } := by
  unfold take
  split
  · split
    · exact ⟨_, _, _, rfl⟩
    · split <;> exact ⟨_, _, _, rfl⟩
  · split <;> exact ⟨_, _, _, rfl⟩
  · split
    · exact ⟨_, _, _, rfl⟩
    · unfold takeHash
      split
      · exact ⟨_, _, _, rfl⟩
      · split <;> exact ⟨_, _, _, rfl⟩
  · split
    · exact ⟨_, _, _, rfl⟩
    · unfold takeSignature
      split <;> exact ⟨_, _, _, rfl⟩
  · unfold complete
    split <;> exact ⟨_, _, _, rfl⟩
  · unfold complete
    split <;> exact ⟨_, _, _, rfl⟩
  · exact ⟨_, _, _, rfl⟩

/-- To continue a run changes nothing but the state, the history and the run itself. -/
theorem resume_frame (s : Session) (r : Except Fault Value) :
    ∃ state history run, (s.resume r).1 = { s with state := state, history := history, run := run } := by
  unfold resume
  split
  · exact ⟨_, _, _, rfl⟩
  · split
    · split <;> exact ⟨_, _, _, rfl⟩
    · exact ⟨_, _, _, rfl⟩
    · exact take_frame s _ _ _

/-- A request to stop is remembered when the run begins. -/
theorem cancelRequested_start (s : Session) (n : Nat) : (s.start n).1.cancelRequested = s.cancelRequested := by
  unfold start
  split
  · rfl
  · dsimp only
    split
    · rfl
    · split <;> rfl

/-- A second request to stop is no more than an answer. -/
theorem cancel_of_cancelRequested {s : Session} (h : s.cancelRequested = true) (own : Bool) :
    s.cancel own = (s, !s.done, []) := by
  unfold cancel
  split
  next hd => rw [hd]; rfl
  next hd => rw [Bool.eq_false_iff.mpr hd]; rfl

/-- There is something to give up unless the session is over. -/
theorem answer_cancel (s : Session) (own : Bool) : (s.cancel own).2.1 = !s.done := by
  unfold cancel
  split
  next hd => rw [hd]; rfl
  next hd =>
    rw [Bool.eq_false_iff.mpr hd]
    split
    · rfl
    · split
      · split <;> rfl
      · rfl

/-- Nothing but a request to stop is remembered as one. -/
theorem cancelRequested_step_of_ne (s : Session) {e : Happening} (h : ∀ own, e ≠ .cancel own) :
    (s.step e).1.cancelRequested = s.cancelRequested := by
  cases e with
  | «open» => rfl
  | make => rfl
  | start _ n => exact s.cancelRequested_start n
  | finish r =>
    obtain ⟨_, _, _, hr⟩ := s.resume_frame r
    rw [step, hr]
  | cancel own => exact absurd rfl (h own)
  | interrupt =>
    show s.interrupt.1.cancelRequested = s.cancelRequested
    unfold interrupt
    split <;> rfl

/-- A request to stop is remembered, whatever happens. -/
theorem cancelRequested_step {s : Session} (h : s.cancelRequested = true) (e : Happening) :
    (s.step e).1.cancelRequested = true := by
  cases e with
  | cancel own =>
    rw [step, cancel_of_cancelRequested h own]
    exact h
  | _ => exact (s.cancelRequested_step_of_ne (by simp)).trans h

/-! ## What is still done -/

/-- A session that has been given up makes no call, and what it waits for is what it waited for before. -/
theorem Moves.of_abandoned {s s' : Session} {heard : Option (Except Fault Value)} {calls : List Call}
    {outcomes : List (Except Fault State)} (hm : s.Moves heard s' calls outcomes) (h : s.cancelRequested = true) :
    calls = [] ∧ ∀ p ∈ s'.pending?, heard = none ∧ s.pending? = some p ∧ p.call s' = p.call s := by
  cases hm with
  | rests hk =>
    refine ⟨rfl, fun p hp => ⟨rfl, ?_, p.call_congr hk.request hk.mode hk.language⟩⟩
    rw [← hk.pending]
    exact hp
  | refuses => exact ⟨rfl, fun p hp => ⟨rfl, hp, rfl⟩⟩
  | begins _ hn => exact absurd (h.symm.trans hn) (by decide)
  | givesUp => exact ⟨rfl, nofun⟩
  | goesOn _ hn => exact absurd (h.symm.trans hn) (by decide)
  | ends => exact ⟨rfl, nofun⟩
  | escapes => exact ⟨rfl, nofun⟩

/-- All that still passes in a session that has been given up is the end of its pending call. -/
theorem meetAll_of_abandoned {s : Session} (h : s.cancelRequested = true) (address : Text) (c : Coordinator)
    (id : Text) (is : List Incident) :
    ∃ s' d, meetAll address c id (some s) is = (some s', d) ∧ s'.cancelRequested = true ∧
      (d = [] ∨ ∃ p r, s.pending? = some p ∧ (p.call s).Hears address r d) := by
  -- The induction is on the incidents; once the call has ended, no other is pending, and nothing passes any more.
  induction is generalizing s with
  | nil => exact ⟨s, [], rfl, h, .inl rfl⟩
  | cons i is ih =>
    cases hi : i.reading? address s.waitsFor? with
    | none =>
      obtain ⟨s', d, hrest, hs', hd⟩ := ih h
      refine ⟨s', d, ?_, hs', hd⟩
      simp [meetAll, meet, hi, hrest]
    | some reading =>
      obtain ⟨heard, e⟩ := reading
      obtain ⟨s', d, hrest, hs', hd⟩ := ih (cancelRequested_step h e)
      obtain ⟨hcalls, hwaits⟩ := (s.moves_step e).of_abandoned h
      have hmeet : meetAll address c id (some s) (i :: is) = (some s', heard ++ d) := by
        simp [meetAll, meet, hi, stepAt, hcalls, hrest]
      refine ⟨s', heard ++ d, hmeet, hs', ?_⟩
      have ho := overhears_of_reading? hi
      generalize s.hears? e = r at ho hwaits
      cases ho with
      | nothing =>
        refine hd.imp_right ?_
        rintro ⟨p, r, hp, hh⟩
        obtain ⟨-, hp', hcall⟩ := hwaits p hp
        exact ⟨p, r, hp', hcall ▸ hh⟩
      | @answer p r _ hp hh =>
        have hnone : d = [] := by
          rcases hd with hd | ⟨q, _, hq, -⟩
          · exact hd
          · cases (hwaits q hq).1
        rw [hnone, List.append_nil]
        exact .inr ⟨p, r, hp, hh⟩

end Session

namespace Network

variable {address : Text}

theorem address_run (n : Network) (l : List (Text × Incident)) : (n.run l).1.address = n.address := by
  induction l generalizing n with
  | nil => rfl
  | cons e l ih => exact (ih _).trans (n.address_step e.1 e.2)

/-- The session when it has been asked to stop. -/
theorem session?_cancel {n : Network} {id : Text} {s : Session} (h : n.session? id = some s) (own : Bool) :
    (n.step id (.plain (.cancel own))).1.session? id = some (s.cancel own).1 := by
  have hs := congrArg Prod.fst (n.step_self id (.plain (.cancel own)))
  rw [h] at hs
  exact hs

/-- All that still passes in a session that has been given up, whatever happens to it and to the others. -/
theorem turnsOf_run_of_abandoned {n : Network} {id : Text} {s : Session} (h : n.session? id = some s)
    (hs : s.cancelRequested = true) (l : List (Text × Incident)) :
    ∃ s', (n.run l).1.session? id = some s' ∧ s'.cancelRequested = true ∧
      (turnsOf id (n.run l).2 = [] ∨
        ∃ p r, s.pending? = some p ∧ (p.call s).Hears n.address r (turnsOf id (n.run l).2)) := by
  obtain ⟨s', d, hmeet, hs', hd⟩ := Session.meetAll_of_abandoned hs n.address n.system.coordinator id
    (incidentsAt id l)
  have halone := n.run_alone id l
  rw [h, hmeet] at halone
  obtain ⟨hsession, hturns⟩ := Prod.mk.inj halone
  exact ⟨s', hsession, hs', hturns ▸ hd⟩

/-- **Nothing is begun after a request to stop.** A session that is over is not changed by such a request, and the
answer says so. From the request on that had something to stop, the session makes no call and nothing goes out to the
service; what still passes is the end of the call that is pending at the time. Further requests do nothing, and none of
them stops the run a second time. -/
theorem quiet_of_cancel {c : Coordinator} {l : List (Text × Incident)} {id : Text} {s : Session}
    (h : ((init address c).run l).1.session? id = some s) (own : Bool) :
    (s.done = true → s.cancel own = (s, false, [])) ∧
    ((s.cancel own).2.1 = true → ∀ l' : List (Text × Incident),
      let later := (((init address c).run l).1.step id (.plain (.cancel own))).1.run l'
      let d := turnsOf id later.2
      d.filterMap Turn.call? = [] ∧ (∀ e url body, .posted e url body ∉ d) ∧
      (d = [] ∨ ∃ p r, s.pending? = some p ∧ (p.call s).Hears address r d) ∧
      ∃ s', later.1.session? id = some s' ∧ ∀ own', s'.cancel own' = (s', !s'.done, [])) := by
  refine ⟨fun hdone => if_pos hdone, fun hanswer l' => ?_⟩
  intro later d
  have hdone : s.done = false := by simpa [Session.answer_cancel] using hanswer
  have hkeeps := s.keeps_cancel own
  obtain ⟨s', hsession, hs', hd⟩ := turnsOf_run_of_abandoned (session?_cancel h own)
    (Session.cancelRequested_cancel hdone own) l'
  rw [address_step, address_run] at hd
  have hd : d = [] ∨ ∃ p r, s.pending? = some p ∧ (p.call s).Hears address r d := by
    refine hd.imp_right ?_
    rintro ⟨p, r, hp, hh⟩
    rw [p.call_congr hkeeps.request hkeeps.mode hkeeps.language] at hh
    exact ⟨p, r, hkeeps.pending ▸ hp, hh⟩
  have hincoming : ∀ t ∈ d, t.isIncoming = true := by
    rcases hd with hd | ⟨_, _, -, hh⟩
    · rw [hd]; nofun
    · exact hh.isIncoming
  refine ⟨filterMap_call?_of_isIncoming hincoming, fun e url body hm => ?_, hd, s', hsession,
    Session.cancel_of_cancelRequested hs'⟩
  exact nomatch hincoming _ hm

/-- The token signs although the user has just given up: its answer is all that passes. -/
theorem quiet_of_cancel_signedRun :
    let n := (sampleNetwork.run signedRun.dropLast).1
    let d := turnsOf "a" ((n.step "a" (.plain (.cancel false))).1.run
      [("b", .plain (.cancel true)), ("a", .plain (.finish (.ok (.signature sampleSignature))))]).2
    d.length = 1 ∧ ∃ s, n.session? "a" = some s ∧ (s.cancel false).2.1 = true ∧ d.filterMap Turn.call? = [] ∧
      ∀ e url body, .posted e url body ∉ d := by
  intro n d
  have hcancel : (n.session? "a").map (fun s => (s.cancel false).2.1) = some true := by decide +kernel
  obtain ⟨s, hs, hanswer⟩ := Option.map_eq_some_iff.mp hcancel
  obtain ⟨hcalls, hposted, -⟩ := (quiet_of_cancel hs false).2 hanswer
    [("b", .plain (.cancel true)), ("a", .plain (.finish (.ok (.signature sampleSignature))))]
  exact ⟨by decide +kernel, s, hs, hanswer, hcalls, hposted⟩

end Network

end RemoteSigning
