import RemoteSigning.Proofs.Session.Abandonment
import RemoteSigning.Proofs.Session.Observed

/-!
# Runs that return

A run of a session returns a state, once at most; from then on the session stays in this state. The presenter hears of
it if the coordinator has started the run, and at no other time.

- `Session.returns_follow`: what is returned among all that a session does;
- `System.seenAt_run_start`: what is seen of a session from its start on, reports included;
- `System.reports_run_start`: the reports of a run are those of what it has returned;
- `Network.happenings`: what happens to the sessions of a network in a list of incidents.
-/

namespace RemoteSigning

/-- The states that runs have returned, among the ends of runs. -/
def returnsOf (ends : List (Except Fault State)) : List State := ends.filterMap Except.toOption

theorem returnsOf_append (ends ends' : List (Except Fault State)) :
    returnsOf (ends ++ ends') = returnsOf ends ++ returnsOf ends' := by
  simp [returnsOf]

/-! ## One session -/

namespace Session

variable {s : Session}

/-- A session whose run is over stays as it is and returns nothing. -/
theorem stays_of_idle (hp : s.pending? = none) (hs : s.started = true) (es : List Happening) :
    (s.follow es).1.state = s.state ∧ returnsOf ((s.follow es).2.filterMap Action.outcome?) = [] := by
  induction es generalizing s with
  | nil => exact ⟨rfl, rfl⟩
  | cons e es ih =>
    have hm := s.moves_step e
    have hidle (p : Pending) : s.pending? ≠ some p := by simp [hp]
    unfold SeenAs at hm
    rw [follow, List.filterMap_append, returnsOf_append]
    dsimp only
    generalize (s.step e).1 = s', (s.step e).2.filterMap Action.call? = calls,
      (s.step e).2.filterMap Action.outcome? = outcomes, s.hears? e = heard at hm ⊢
    cases hm with
    | rests hk =>
      obtain ⟨hstate, hreturns⟩ := ih (hk.pending.trans hp) (hk.started.trans hs)
      exact ⟨hstate.trans hk.state, hreturns⟩
    | refuses => exact ih hp hs
    | begins hn => exact absurd (hs.symm.trans hn) (by decide)
    | givesUp hn => exact absurd (hs.symm.trans hn) (by decide)
    | goesOn hq => exact absurd hq (hidle _)
    | ends hq => exact absurd hq (hidle _)
    | escapes hq => exact absurd hq (hidle _)

/-- A session returns once at most, and then it stays in the state that it has returned. -/
theorem returns_follow (hs : s.Ordered) (es : List Happening) :
    returnsOf ((s.follow es).2.filterMap Action.outcome?) = [] ∨
      ∃ final, returnsOf ((s.follow es).2.filterMap Action.outcome?) = [final] ∧ final.isTerminal = true ∧
        (s.follow es).1.state = final := by
  -- The induction is on what happens; after the move that returns, the session is over.
  induction es generalizing s with
  | nil => exact .inl rfl
  | cons e es ih =>
    have hm := s.moves_step e
    have hnext := ordered_of_moves hs hm
    unfold SeenAs at hm
    rw [follow, List.filterMap_append, returnsOf_append]
    dsimp only
    generalize (s.step e).1 = s', (s.step e).2.filterMap Action.call? = calls,
      (s.step e).2.filterMap Action.outcome? = outcomes, s.hears? e = heard at hm hnext ⊢
    cases hm with
    | rests => exact ih hnext
    | refuses => exact ih hnext
    | begins => exact ih hnext
    | givesUp =>
      obtain ⟨hstate, hreturns⟩ :=
        stays_of_idle (s := s.begun.ended (.failed .userCancelled none)) rfl rfl es
      rw [hreturns]
      exact .inr ⟨_, rfl, rfl, hstate⟩
    | goesOn => exact ih hnext
    | @ends p r final hp he =>
      obtain ⟨hstate, hreturns⟩ := stays_of_idle (s := s.ended final) rfl (hs.waiting p hp).1 es
      rw [hreturns]
      exact .inr ⟨final, rfl, he.isTerminal, hstate⟩
    | escapes => exact ih hnext

/-- A session that has started does not start again. -/
theorem started_step (h : s.started = true) (e : Happening) : (s.step e).1.started = true := by
  have hm := s.moves_step e
  unfold SeenAs at hm
  generalize (s.step e).1 = s', (s.step e).2.filterMap Action.call? = calls,
    (s.step e).2.filterMap Action.outcome? = outcomes, s.hears? e = heard at hm ⊢
  cases hm with
  | rests hk => exact hk.started.trans h
  | refuses => exact h
  | begins => rfl
  | givesUp => rfl
  | goesOn => exact h
  | ends => exact h
  | escapes => exact h

/-- A session that is started has started. -/
theorem started_start (s : Session) (n : Nat) : (s.start n).1.started = true := by
  unfold start
  split
  next h => exact h
  · dsimp only
    split
    · rfl
    · split <;> rfl

end Session

/-! ## Systems -/

def Output.report? : Output → Option Report
  | .report r => some r
  | _ => none

/-- The reports on the session with a name. -/
def reportsOf (id : Text) (l : List (Text × Output)) : List Report := seenAt id Output.report? l

namespace System

variable {s : System} {id : Text} {x : Session} {reported : Bool} {β : Type} {f : Output → Option β}

/-- What happens to one session leaves the others as they are. -/
theorem member?_step_of_ne (s : System) {name : Text} (h : name ≠ id) (e : Happening) :
    (s.step name e).1.member? id = s.member? id := by
  unfold step
  split
  · simp [member?_put, h]
  · simp [member?_put, h]
  next m _ _ hm => simp [member?_put, Session.id_start, id_of_member? hm, h]
  next m _ hm => simp [member?_put, Session.id_resume, id_of_member? hm, h]
  next m _ hm => simp [member?_put, Session.id_cancel, id_of_member? hm, h]
  next m hm => simp [member?_put, Session.id_interrupt, id_of_member? hm, h]
  · rfl

theorem member?_put_self (s : System) {m : Member} (h : m.session.id = id) : (s.put m).member? id = some m := by
  rw [member?_put, if_pos h]

/-- Once a session has started, it stays settled whether its outcome is reported. -/
theorem step_of_started (hm : s.member? id = some ⟨x, reported⟩) (hs : x.started = true)
    (hf : ∀ b, f (.answered b) = none) (e : Happening) :
    (s.step id e).1.member? id = some ⟨(x.step e).1, reported⟩ ∧
      (s.step id e).2.filterMap f = ((x.step e).2.flatMap (outputs s.coordinator reported)).filterMap f := by
  have hid (e : Happening) : (x.step e).1.id = id := (x.id_step e).trans (id_of_member? hm)
  unfold step
  rw [hm]
  cases e with
  | «open» => exact ⟨hm, rfl⟩
  | make => exact ⟨hm, rfl⟩
  | start reported' n =>
    dsimp only
    rw [if_pos hs]
    exact ⟨member?_put_self s (hid (.start reported' n)), rfl⟩
  | finish r => exact ⟨member?_put_self s (hid (.finish r)), rfl⟩
  | cancel own =>
    refine ⟨member?_put_self s (hid (.cancel own)), ?_⟩
    simp [List.filterMap_append, hf, Session.step]
  | interrupt => exact ⟨member?_put_self s (hid .interrupt), rfl⟩

/-- What is seen of a session that has started. -/
theorem seenAt_run_of_started (hm : s.member? id = some ⟨x, reported⟩) (hs : x.started = true)
    (hf : ∀ b, f (.answered b) = none) (l : List (Text × Happening)) :
    seenAt id f (s.run l).2 =
      ((x.follow (happeningsAt id l)).2.flatMap (outputs s.coordinator reported)).filterMap f := by
  induction l generalizing s x with
  | nil => rfl
  | cons e l ih =>
    obtain ⟨name, e⟩ := e
    by_cases hn : name = id
    · subst hn
      obtain ⟨hmember, hseen⟩ := step_of_started hm hs hf e
      have hrest := ih hmember (x.started_step hs e)
      rw [happeningsAt_cons_self]
      simp only [run, seenAt_append, seenAt_map_self, hseen, hrest, coordinator_step, Session.follow,
        List.flatMap_append, List.filterMap_append]
    · have hrest := ih ((member?_step_of_ne s hn e).trans hm) hs
      rw [happeningsAt_cons_of_ne hn]
      simp only [run, seenAt_append, seenAt_map_of_ne hn, hrest, coordinator_step, List.nil_append]

/-- What is seen of a session that the coordinator starts, from then on. -/
theorem seenAt_run_start (hx : s.session? id = some x) (hs : x.started = false) (hf : ∀ b, f (.answered b) = none)
    (cancels : Nat) (l : List (Text × Happening)) :
    seenAt id f (s.run ((id, .start true cancels) :: l)).2 =
      ((x.follow (.start true cancels :: happeningsAt id l)).2.flatMap (outputs s.coordinator true)).filterMap f := by
  obtain ⟨⟨y, reported⟩, hm, rfl⟩ := Option.map_eq_some_iff.mp hx
  have hs : y.started = false := hs
  have hid : (y.start cancels).1.id = id := (y.id_start cancels).trans (id_of_member? hm)
  have hstep : s.step id (.start true cancels) =
      (s.put ⟨(y.start cancels).1, true⟩, (y.start cancels).2.flatMap (outputs s.coordinator true)) := by
    unfold step
    rw [hm]
    simp [hs]
  have hmember : (s.put ⟨(y.start cancels).1, true⟩).member? id = some ⟨(y.start cancels).1, true⟩ :=
    member?_put_self s hid
  have hrest := seenAt_run_of_started hmember (y.started_start cancels) hf l
  simp only [run, hstep, seenAt_append, seenAt_map_self, hrest, Session.follow, Session.step, List.flatMap_append,
    List.filterMap_append]
  rfl

/-- A presenter hears of what is returned, and of nothing else. -/
theorem reports_flatMap {c : Coordinator} (hc : c.presents = true) (l : List Action) :
    (l.flatMap (outputs c true)).filterMap Output.report? =
      (returnsOf (l.filterMap Action.outcome?)).filterMap (RemoteSigning.report? c.language) := by
  induction l with
  | nil => rfl
  | cons a l ih =>
    rw [List.flatMap_cons, List.filterMap_append, ih]
    cases a with
    | returned state n =>
      have hreturns : returnsOf (List.filterMap Action.outcome? (.returned state n :: l)) =
          state :: returnsOf (l.filterMap Action.outcome?) := rfl
      rw [hreturns, List.filterMap_cons]
      cases hr : RemoteSigning.report? c.language state <;> simp [outputs, endOutputs, hc, hr, Output.report?]
    | _ => rfl

/-- **The presenter hears of a run that the coordinator has started once, if it returns, and not otherwise.** -/
theorem reports_run_start (hc : s.coordinator.presents = true) (hx : s.session? id = some x) (ho : x.Ordered)
    (hs : x.started = false) (cancels : Nat) (l : List (Text × Happening)) :
    let out := (s.run ((id, .start true cancels) :: l)).2
    reportsOf id out = (returnsOf (endsOf id out)).filterMap (RemoteSigning.report? s.coordinator.language) ∧
      (returnsOf (endsOf id out) = [] ∨ ∃ final y, returnsOf (endsOf id out) = [final] ∧ final.isTerminal = true ∧
        (s.run ((id, .start true cancels) :: l)).1.session? id = some y ∧ y.state = final) := by
  intro out
  obtain ⟨hsession, hends⟩ := shows_ends.run hx ((id, .start true cancels) :: l)
  have hreports : reportsOf id out = _ := seenAt_run_start hx hs (fun _ => rfl) cancels l
  have hends : endsOf id out = _ := hends
  rw [happeningsAt_cons_self] at hsession hends
  rw [hreports, hends, reports_flatMap hc]
  refine ⟨rfl, ?_⟩
  obtain hnone | ⟨final, hreturns, hterminal, hstate⟩ :=
    Session.returns_follow ho (.start true cancels :: happeningsAt id l)
  · exact .inl hnone
  · exact .inr ⟨final, _, hreturns, hterminal, hsession, hstate⟩

end System

/-! ## Networks -/

namespace Network

/-- What happens to the sessions of a network in a list of incidents. -/
def happenings (n : Network) : List (Text × Incident) → List (Text × Happening)
  | [] => []
  | (id, i) :: rest =>
    match i.reading? n.address ((n.session? id).bind Session.waitsFor?) with
    | none => (n.step id i).1.happenings rest
    | some (_, h) => (id, h) :: (n.step id i).1.happenings rest

/-- The sessions of a network are those of its system. -/
theorem system_run (n : Network) (l : List (Text × Incident)) :
    (n.run l).1.system = (n.system.run (n.happenings l)).1 := by
  induction l generalizing n with
  | nil => rfl
  | cons e l ih =>
    obtain ⟨id, i⟩ := e
    rw [run]
    dsimp only
    rw [ih, happenings]
    cases hr : i.reading? n.address ((n.session? id).bind Session.waitsFor?) with
    | none =>
      have hstep : (n.step id i).1 = n := by simp [step, hr]
      rw [hstep]
    | some r =>
      obtain ⟨heard, h⟩ := r
      have hstep : (n.step id i).1.system = (n.system.step id h).1 := by simp [step, hr]
      rw [hstep]
      rfl

/-- One list of incidents after another. -/
theorem run_append (n : Network) (l l' : List (Text × Incident)) :
    (n.run (l ++ l')).1 = ((n.run l).1.run l').1 := by
  induction l generalizing n with
  | nil => rfl
  | cons e l ih => exact ih _

theorem coordinator_run (n : Network) (l : List (Text × Incident)) :
    (n.run l).1.system.coordinator = n.system.coordinator := by
  induction l generalizing n with
  | nil => rfl
  | cons e l ih => exact (ih _).trans (n.coordinator_step e.1 e.2)

/-- A start is not made of anything that passes. -/
theorem happenings_start (n : Network) (id : Text) (reported : Bool) (cancels : Nat) (l : List (Text × Incident)) :
    n.happenings ((id, .plain (.start reported cancels)) :: l) =
      (id, .start reported cancels) :: (n.step id (.plain (.start reported cancels))).1.happenings l := rfl

end Network

end RemoteSigning
