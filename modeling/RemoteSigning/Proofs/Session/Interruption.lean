import RemoteSigning.Proofs.Session.Refusal

/-!
# Runs that are cancelled from outside

A cancellation that the user has not asked for is not the session's own affair. When the pending call ends with it, it
leaves the run, and the session stays for ever what it was when it made that call. Nothing is reported.

- `System.CalledLast` says what a session was when it made its last call; `System.exists_calledLast`: a session that
  waits for a call has made it last, and has been the same since;
- `Session.keeps_of_idle`: a session whose run is over keeps all that it has and makes no call;
- `System.reportsOf_eq_nil`: where nothing is returned nothing is reported;
- `System.untouched_of_cancelled`: what a cancellation from outside does to a run, and what can still happen after it.
-/

namespace RemoteSigning

theorem Output.eq_call_of_call? {o : Output} {call : Call} (h : o.call? = some call) : o = .call call := by
  cases o with
  | call _ => rw [Option.some.inj h]
  | _ => cases h

namespace Session

variable {s : Session}

/-- A session whose run is over keeps all that it has, and makes no call any more. -/
theorem keeps_of_idle (hp : s.pending? = none) (hs : s.started = true) (es : List Happening) :
    s.Keeps (s.follow es).1 ∧ (s.follow es).2.filterMap Action.call? = [] := by
  induction es generalizing s with
  | nil => exact ⟨.refl s, rfl⟩
  | cons e es ih =>
    have hm := s.moves_step e
    have hidle (p : Pending) : s.pending? ≠ some p := by simp [hp]
    unfold SeenAs at hm
    rw [follow, List.filterMap_append]
    dsimp only
    generalize (s.step e).1 = s', (s.step e).2.filterMap Action.call? = calls,
      (s.step e).2.filterMap Action.outcome? = outcomes, s.hears? e = heard at hm ⊢
    cases hm with
    | rests hk =>
      obtain ⟨hkeeps, hcalls⟩ := ih (hk.pending.trans hp) (hk.started.trans hs)
      exact ⟨hk.trans hkeeps, hcalls⟩
    | refuses => exact ih hp hs
    | begins hn => exact absurd (hs.symm.trans hn) (by decide)
    | givesUp hn => exact absurd (hs.symm.trans hn) (by decide)
    | goesOn hq => exact absurd hq (hidle _)
    | ends hq => exact absurd hq (hidle _)
    | escapes hq => exact absurd hq (hidle _)

/-- A session that waits for a call has either just made it, or waited for it before. -/
theorem calls_or_keeps_of_pending {p : Pending} (e : Happening) (hp : (s.step e).1.pending? = some p) :
    (s.step e).2.filterMap Action.call? = [p.call (s.step e).1] ∨
      s.Keeps (s.step e).1 ∧ (s.step e).2.filterMap Action.call? = [] := by
  have hm := s.moves_step e
  unfold SeenAs at hm
  generalize (s.step e).1 = s', (s.step e).2.filterMap Action.call? = calls,
    (s.step e).2.filterMap Action.outcome? = outcomes, s.hears? e = heard at hm hp ⊢
  cases hm with
  | rests hk => exact .inr ⟨hk, rfl⟩
  | refuses => exact .inr ⟨.refl s, rfl⟩
  | begins =>
    obtain rfl := Option.some.inj hp
    exact .inl (congrArg (fun c => [c]) (Pending.call_congr rfl rfl rfl _).symm)
  | givesUp => cases hp
  | goesOn =>
    obtain rfl := Option.some.inj hp
    exact .inl (congrArg (fun c => [c]) (Pending.call_congr rfl rfl rfl _).symm)
  | ends => cases hp
  | escapes => cases hp

/-- A cancellation that the user has not asked for leaves the run. -/
theorem resume_of_uncalled {p : Pending} (hp : s.pending? = some p) (hc : s.cancelRequested = false) :
    s.resume (.error .cancelled) = (s.left, [.raised .cancelled s.cancels]) := by
  obtain ⟨t, ht, -⟩ := exists_run hp
  simp [resume, ht, hc, escape, left, cancels]

end Session

namespace System

variable {s : System} {c : Coordinator} {id : Text} {x y : Session} {p : Pending} {l : List (Text × Happening)}

/-! ## The last call -/

/-- The last call that the session with a name has made, in what has happened, and what the session was then. -/
def CalledLast (c : Coordinator) (l : List (Text × Happening)) (id : Text) (call : Call) (y : Session) : Prop :=
  ∃ before e after, l = before ++ (id, e) :: after ∧
    let made := ((init c).run before).1.step id e
    .call call ∈ made.2 ∧ made.1.session? id = some y ∧ callsOf id (made.1.run after).2 = []

/-- What happens without a call of the session does not change its last one. -/
theorem CalledLast.concat {call : Call} (h : CalledLast c l id call y) {e : Text × Happening}
    (hnone : seenAt id Output.call? ((((init c).run l).1.step e.1 e.2).2.map (e.1, ·)) = []) :
    CalledLast c (l ++ [e]) id call y := by
  obtain ⟨before, e', after, rfl, hcall, hy, hafter⟩ := h
  refine ⟨before, e', after ++ [e], by simp, hcall, hy, ?_⟩
  have hrun : (((init c).run before).1.step id e').1.run after =
      (((init c).run (before ++ (id, e') :: after)).1, (((((init c).run before).1.step id e').1.run after)).2) := by
    rw [run_append]
    rfl
  rw [callsOf, run_append, seenAt_append, ← callsOf, hafter, hrun]
  simpa [run] using hnone

/-- **A session that waits for a call has made it last**, and has kept its state and its history since. -/
theorem exists_calledLast (hx : ((init c).run l).1.session? id = some x) (hp : x.pending? = some p) :
    ∃ y, CalledLast c l id (p.call x) y ∧ y.state = x.state ∧ y.history = x.history := by
  -- The induction adds what happens last: it makes the call, or the session has waited for it before.
  induction l using List.reverseRecOn generalizing x with
  | nil => cases hx
  | append_singleton l e ih =>
    obtain ⟨name, e⟩ := e
    rw [run_concat] at hx
    by_cases hn : name = id
    · subst hn
      cases hw : ((init c).run l).1.session? name with
      | none =>
        rw [session?_step_self, hw] at hx
        obtain ⟨_, _, _, rfl⟩ := (stepAt_none _ _ _).2 x hx
        cases hp
      | some w =>
        have hseen := shows_calls.step ((init c).run l).1 name e
        rw [hw] at hseen
        have hnext := session?_step_of_session? hw e
        obtain rfl : x = (w.step e).1 := Option.some.inj (hx.symm.trans hnext)
        obtain hcalls | ⟨hk, hcalls⟩ := Session.calls_or_keeps_of_pending e hp
        · refine ⟨_, ⟨l, e, [], rfl, ?_, hnext, rfl⟩, rfl, rfl⟩
          have hmem : p.call (w.step e).1 ∈ (((init c).run l).1.step name e).2.filterMap Output.call? := by
            rw [hseen]
            exact hcalls ▸ List.mem_singleton.mpr rfl
          obtain ⟨o, ho, hcall⟩ := List.mem_filterMap.mp hmem
          exact Output.eq_call_of_call? hcall ▸ ho
        · obtain ⟨y, hlast, hstate, hhistory⟩ := ih hw (hk.pending.symm.trans hp)
          rw [← p.call_congr hk.request hk.mode hk.language] at hlast
          refine ⟨y, hlast.concat ?_, hstate.trans hk.state.symm, hhistory.trans hk.history.symm⟩
          rw [seenAt_map_self, hseen]
          exact hcalls
    · rw [session?_step_of_ne _ hn] at hx
      obtain ⟨y, hlast, hkept⟩ := ih hx hp
      exact ⟨y, hlast.concat (seenAt_map_of_ne hn ..), hkept⟩

/-! ## Reports -/

/-- Actions that return nothing are not reported. -/
theorem reports_of_no_return (c : Coordinator) (reported : Bool) {as : List Action}
    (h : returnsOf (as.filterMap Action.outcome?) = []) :
    (as.flatMap (outputs c reported)).filterMap Output.report? = [] := by
  induction as with
  | nil => rfl
  | cons a as ih =>
    cases a with
    | returned state n => cases h
    | raised f n => exact ih h
    | _ => exact ih h

/-- A step that returns nothing is not reported. -/
theorem reports_step_of_no_return {e : Happening}
    (h : returnsOf ((s.step id e).2.filterMap Output.outcome?) = []) :
    (s.step id e).2.filterMap Output.report? = [] := by
  rw [shows_ends.step] at h
  unfold step
  cases hm : s.member? id with
  | none => cases e <;> rfl
  | some m =>
    have hx : s.session? id = some m.session := by rw [session?, hm]; rfl
    rw [hx] at h
    cases e with
    | «open» => rfl
    | make => rfl
    | start => exact reports_of_no_return _ _ h
    | finish => exact reports_of_no_return _ _ h
    | cancel own =>
      have hactions : (((m.session.cancel own).2.2).flatMap (outputs s.coordinator m.reported)).filterMap
          Output.report? = [] := reports_of_no_return _ _ h
      rw [List.filterMap_append, hactions]
      rfl
    | interrupt => exact reports_of_no_return _ _ h

/-- **Where nothing is returned nothing is reported.** -/
theorem reportsOf_eq_nil (h : returnsOf (endsOf id (s.run l).2) = []) : reportsOf id (s.run l).2 = [] := by
  induction l generalizing s with
  | nil => rfl
  | cons e l ih =>
    obtain ⟨name, e⟩ := e
    simp only [run, endsOf, seenAt_append, returnsOf_append, List.append_eq_nil_iff] at h
    simp only [run, reportsOf, seenAt_append, List.append_eq_nil_iff]
    refine ⟨?_, ih h.2⟩
    by_cases hn : name = id
    · subst hn
      rw [seenAt_map_self] at h ⊢
      exact reports_step_of_no_return h.1
    · exact seenAt_map_of_ne hn ..

/-- A session that waits for a call has returned nothing. -/
theorem returns_of_pending (hx : ((init c).run l).1.session? id = some x) (hp : x.pending? = some p) :
    returnsOf (endsOf id ((init c).run l).2) = [] := by
  obtain ⟨request, mode, language, es, rfl, hseen⟩ := exists_follow (s := init c) rfl hx
  have hordered := Session.Ordered.fresh id request mode language
  rw [endsOf, hseen shows_ends]
  obtain hnone | ⟨final, -, hterminal, hstate⟩ := Session.returns_follow hordered es
  · exact hnone
  · obtain ⟨-, hwaits⟩ := (Session.ordered_of_reachable (reachable_of_session? hx)).waiting p hp
    rw [← hstate, hwaits, p.isTerminal_state] at hterminal
    cases hterminal

/-! ## Cancellations from outside -/

/-- Who has not asked to cancel a session has not been heard by it. -/
theorem cancelRequested_of_not_asked (hx : ((init c).run l).1.session? id = some x)
    (hasked : ∀ own, (id, .cancel own) ∉ l) : x.cancelRequested = false := by
  induction l using List.reverseRecOn generalizing x with
  | nil => cases hx
  | append_singleton l e ih =>
    obtain ⟨name, e⟩ := e
    have hbefore (own : Bool) : (id, .cancel own) ∉ l := fun h => hasked own (List.mem_append_left _ h)
    rw [run_concat] at hx
    by_cases hn : name = id
    · subst hn
      rw [session?_step_self] at hx
      cases hw : ((init c).run l).1.session? name with
      | none =>
        rw [hw] at hx
        obtain ⟨_, _, _, rfl⟩ := (stepAt_none _ _ _).2 x hx
        rfl
      | some w =>
        rw [hw] at hx
        obtain rfl := Option.some.inj hx
        refine (w.cancelRequested_step_of_ne fun own h => ?_).trans (ih hw hbefore)
        exact hasked own (h ▸ List.mem_append_right _ (List.mem_singleton.mpr rfl))
    · rw [session?_step_of_ne _ hn] at hx
      exact ih hx hbefore

/-- A cancellation that the user has not asked for leaves the run, and nothing else is done. -/
theorem step_of_cancelled (hx : s.session? id = some x) (hp : x.pending? = some p) (hc : x.cancelRequested = false) :
    (s.step id (.finish (.error .cancelled))).2 = [.ended (.error .cancelled) x.cancels] ∧
      (s.step id (.finish (.error .cancelled))).1.session? id = some x.left := by
  have hresume := Session.resume_of_uncalled hp hc
  constructor
  · obtain ⟨m, hm, rfl⟩ := Option.map_eq_some_iff.mp hx
    unfold step
    rw [hm]
    dsimp only
    rw [hresume]
    rfl
  · have hnext := session?_step_of_session? hx (.finish (.error .cancelled))
    rwa [Session.step, hresume] at hnext

/-- A run that a cancellation has left returns nothing, and has returned nothing. -/
theorem returns_of_cancelled (hx : ((init c).run l).1.session? id = some x) (hp : x.pending? = some p)
    (hc : x.cancelRequested = false) (later : List (Text × Happening)) :
    returnsOf (endsOf id ((init c).run (l ++ (id, .finish (.error .cancelled)) :: later)).2) = [] := by
  obtain ⟨hleaves, hleft⟩ := step_of_cancelled hx hp hc
  obtain ⟨hstarted, -⟩ := (Session.ordered_of_reachable (reachable_of_session? hx)).waiting p hp
  have hends := (shows_ends.run hleft later).2
  rw [run_append, endsOf, seenAt_append, returnsOf_append, ← endsOf, returns_of_pending hx hp, List.nil_append]
  dsimp only [run]
  rw [seenAt_append, seenAt_map_self, hleaves, returnsOf_append, hends,
    (Session.stays_of_idle (s := x.left) rfl hstarted _).2]
  rfl

/-- **A cancellation from outside leaves the session as it was.** Nobody has asked to cancel the session, and the call
that it waits for ends with a cancellation. The cancellation leaves the run, and nothing else is done. From then on,
whatever happens, the session is in the state and has the history that it had when it made this call, its last one. That
state is not final. No call follows, nothing is ever reported, and who runs the session again is refused. -/
theorem untouched_of_cancelled (hx : ((init c).run l).1.session? id = some x)
    (hasked : ∀ own, (id, .cancel own) ∉ l) (hp : x.pending? = some p) (later : List (Text × Happening)) :
    let cancelled := ((init c).run l).1.step id (.finish (.error .cancelled))
    let after := cancelled.1.run later
    cancelled.2 = [.ended (.error .cancelled) x.cancels] ∧
      (∃ y z, CalledLast c l id (p.call x) y ∧ after.1.session? id = some z ∧
        z.state = y.state ∧ z.history = y.history ∧ z.state.isTerminal = false) ∧
      callsOf id after.2 = [] ∧
      reportsOf id ((init c).run (l ++ (id, .finish (.error .cancelled)) :: later)).2 = [] ∧
      ∀ reported cancels, after.1.step id (.start reported cancels) =
        (after.1, [.ended (.error (refusal id)) cancels]) := by
  intro cancelled after
  obtain ⟨hstarted, hwaits⟩ := (Session.ordered_of_reachable (reachable_of_session? hx)).waiting p hp
  have hc := cancelRequested_of_not_asked hx hasked
  obtain ⟨hleaves, hleft⟩ := step_of_cancelled hx hp hc
  obtain ⟨hkeeps, hquiet⟩ := x.left.keeps_of_idle rfl hstarted (happeningsAt id later)
  obtain ⟨hz, hcalls⟩ := shows_calls.run hleft later
  obtain ⟨y, hlast, hstate, hhistory⟩ := exists_calledLast hx hp
  refine ⟨hleaves, ⟨y, _, hlast, hz, ?_, ?_, ?_⟩, hcalls.trans hquiet,
    reportsOf_eq_nil (returns_of_cancelled hx hp hc later), ?_⟩
  · exact hkeeps.state.trans hstate.symm
  · exact hkeeps.history.trans hhistory.symm
  · rw [hkeeps.state, show x.left.state = x.state from rfl, hwaits]
    exact p.isTerminal_state
  · exact step_start_of_started hz (hkeeps.started.trans hstarted)

/-- A session waits for its certificate, and its task has been cancelled. -/
def interruptedRun : List (Text × Happening) :=
  [("a", .open sampleRequest), ("a", .start true 0), ("a", .finish (.ok (.backend (some 7)))), ("a", .interrupt)]

/-- The cancellation leaves the run. Later the user gives the session up and runs it again, in vain. -/
theorem untouched_of_cancelled_interruptedRun :
    let waiting := ((init ⟨.mode .auto, "en", true⟩).run interruptedRun).1
    let cancelled := waiting.step "a" (.finish (.error .cancelled))
    let after := cancelled.1.run [("a", .cancel false), ("a", .start true 0)]
    (waiting.session? "a").bind Session.pending? = some (.fetch 7) ∧
      cancelled.2 = [.ended (.error .cancelled) 1] ∧
      (after.1.session? "a").map Session.state = some .certificateFetching ∧ callsOf "a" after.2 = [] ∧
      after.1.step "a" (.start true 3) = (after.1, [.ended (.error (refusal "a")) 3]) := by
  intro waiting cancelled after
  have hvalues : (waiting.session? "a").map (fun x => (x.pending?, x.cancels)) = some (some (.fetch 7), 1) := rfl
  obtain ⟨x, hx, hvalues⟩ := Option.map_eq_some_iff.mp hvalues
  obtain ⟨hp, hcancels⟩ := Prod.mk.inj hvalues
  obtain ⟨hleaves, -, hcalls, -, hrefused⟩ := untouched_of_cancelled (l := interruptedRun) hx
    (by simp [interruptedRun]) hp [("a", .cancel false), ("a", .start true 0)]
  rw [hcancels] at hleaves
  exact ⟨rfl, hleaves, rfl, hcalls, hrefused true 3⟩

end System

end RemoteSigning
