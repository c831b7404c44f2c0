import RemoteSigning.Proofs.Rehearsal.Calls
import RemoteSigning.Proofs.Rehearsal.Requests
import RemoteSigning.Proofs.Secrecy.Destinations
import RemoteSigning.Proofs.Session.Closing
import RemoteSigning.Proofs.Session.Returns

/-!
# How the run of a session ends on a stage

Where everybody answers, the run of a session comes to its end. A call may be kept pending until the user interrupts the
program; then the session is cancelled, and the run ends with what the call makes of it. The presenter is told the
outcome, once, and the run has no other end; unless the key of the certificate that was fetched cannot be read.

- `Stage.Ready`: everybody answers, and nothing has been told yet;
- `Stage.call_called`: a call ends, or it is kept until the user interrupts the program;
- `Stage.proceed_reaches`: the run ends, or a call is kept; `Stage.interrupted_finished`: then the run ends, too;
- `Stage.openAndRun_finished`: every run ends.
-/

namespace RemoteSigning

namespace System

variable {s : System} {id : Text} {x : Session} {reported : Bool}

theorem step_finish (hm : s.member? id = some ⟨x, reported⟩) (r : Except Fault Value) :
    s.step id (.finish r) =
      (s.put ⟨(x.resume r).1, reported⟩, (x.resume r).2.flatMap (outputs s.coordinator reported)) := by
  unfold step
  rw [hm]

theorem step_cancel (hm : s.member? id = some ⟨x, reported⟩) (own : Bool) :
    s.step id (.cancel own) = (s.put ⟨(x.cancel own).1, reported⟩,
      (x.cancel own).2.2.flatMap (outputs s.coordinator reported) ++ [.answered (x.cancel own).2.1]) := by
  unfold step
  rw [hm]

end System

namespace Rehearsal

/-- Whoever plays answers. A call is kept pending only until the user interrupts the program, and it is not cancelled
from within as well; and nobody says that it was cancelled. -/
structure Behaviour.Answers (b : Behaviour) : Prop where
  interrupts : b.holds = true → b.sigint = true
  calm : b.sigint = true → b.cancels = false
  uncancelled : Uncancelled b.result

namespace Stage

variable {st st' st'' u : Stage} {co : Coordinator} {id : Text} {s : Session} {p : Pending} {c : Call}

/-! ## What has been told -/

def told (st : Stage) : List Report := st.notes.filterMap (·.event.told?)

/-- The ends of runs so far. -/
def outcomes (st : Stage) : List (Except Fault State) := st.notes.filterMap (·.event.outcome?)

theorem told_note (st : Stage) (session : Option Text) (e : Event) :
    (st.note session e).told = st.told ++ e.told?.toList := by
  rw [told, note, List.filterMap_append]
  cases e <;> rfl

theorem outcomes_note (st : Stage) (session : Option Text) (e : Event) :
    (st.note session e).outcomes = st.outcomes ++ e.outcome?.toList := by
  rw [outcomes, note, List.filterMap_append]
  cases e <;> rfl

/-- Between two stages nobody is told anything, and no run ends. -/
structure Silent (st st' : Stage) : Prop where
  cast : st'.cast = st.cast
  plans : st'.plans = st.plans
  coordinator : st'.system.coordinator = st.system.coordinator
  told : st'.told = st.told
  outcomes : st'.outcomes = st.outcomes

namespace Silent

theorem trans (h : st.Silent st') (h' : st'.Silent st'') : st.Silent st'' :=
  ⟨h'.cast.trans h.cast, h'.plans.trans h.plans, h'.coordinator.trans h.coordinator, h'.told.trans h.told,
    h'.outcomes.trans h.outcomes⟩

theorem of_backstage (h : st.Backstage st') : st.Silent st' := by
  obtain ⟨ns, hns, haside⟩ := h.notes
  have hnothing {α : Type} (f : Event → Option α) (hf : ∀ e, e.isAside = true → f e = none) :
      st'.notes.filterMap (f ·.event) = st.notes.filterMap (f ·.event) := by
    rw [hns, List.filterMap_append, List.filterMap_eq_nil_iff.mpr fun n hn => hf n.event (haside n hn),
      List.append_nil]
  refine ⟨h.cast, h.plans, congrArg System.coordinator h.system, hnothing Event.told? ?_, hnothing Event.outcome? ?_⟩
  · intro e he
    cases e <;> first | rfl | cases he
  · intro e he
    cases e <;> first | rfl | cases he

end Silent

/-- A scripted call takes its turn and is noted. -/
theorem turn_silent (st : Stage) (role : Role) (session : Option Text) (cue : Cue) :
    st.Silent ((st.take role).1.note session (.cue cue)) :=
  ⟨rfl, rfl, rfl, (told_note ..).trans (List.append_nil _), (outcomes_note ..).trans (List.append_nil _)⟩

/-- Something happens to a session. -/
theorem step_silent (st : Stage) (id : Text) (e : Happening) :
    st.Silent { st with system := (st.system.step id e).1 } :=
  ⟨rfl, rfl, System.coordinator_step st.system id e, rfl, rfl⟩

/-! ## Stages where everybody answers -/

/-- Everybody answers, nothing is cancelled at the card module, somebody wants to know the outcome, and it has not been
told yet. -/
structure Ready (st : Stage) (co : Coordinator) : Prop where
  answers : ∀ role n, ((st.script role).turn n).Answers
  steady : st.cast.cardModule.Steady
  coordinator : st.system.coordinator = co
  presents : co.presents = true
  told : st.told = []
  outcomes : st.outcomes = []

theorem script_eq (hcast : st'.cast = st.cast) (hplans : st'.plans = st.plans) (role : Role) :
    st'.script role = st.script role := by
  cases role <;> simp only [script, hcast, hplans]

theorem Ready.of_silent (h : st.Ready co) (hs : st.Silent st') : st'.Ready co where
  answers role n := by
    rw [script_eq hs.cast hs.plans]
    exact h.answers role n
  steady := hs.cast ▸ h.steady
  coordinator := hs.coordinator.trans h.coordinator
  presents := h.presents
  told := hs.told.trans h.told
  outcomes := hs.outcomes.trans h.outcomes

/-! ## One call -/

/-- A session that is cancelled leaves the adapters alone. -/
theorem noteCancel_adapters (st : Stage) (id : Text) (out : List Output) :
    (st.noteCancel id out).adapters = st.adapters := by
  induction out generalizing st with
  | nil => rfl
  | cons o rest ih => cases o <;> exact ih _

/-- A call ends, and the session may have been cancelled from within; or it is kept pending until the user interrupts
the program. -/
inductive Called (st : Stage) (id : Text) (s : Session) (c : Call) : Stage × Option (Except Fault Value) → Prop
  | answered {u : Stage} (x : Reaction c) : st.Silent u → u.held = [] →
      u.system.member? id = some ⟨s.abandon x.cancels, true⟩ → Called st id s c (u, some x.result)
  | kept {u : Stage} {w : Held} : st.Silent u → u.held = [w] → u.system.member? id = some ⟨s, true⟩ →
      w.session = id → w.behaviour.sigint = true → u.Serves (.ofSession id) c w.cue → Called st id s c (u, none)

theorem Called.of_silent {x : Stage × Option (Except Fault Value)} (hs : st.Silent st') (h : st'.Called id s c x) :
    st.Called id s c x := by
  cases h with
  | answered x hs' hheld hm => exact .answered x (hs.trans hs') hheld hm
  | kept hs' hheld hm hid hsig hserves => exact .kept (hs.trans hs') hheld hm hid hsig hserves

/-- The stage when a scripted call has been made, and the session has perhaps been cancelled from within. -/
theorem meeting_silent (hm : st.system.member? id = some ⟨s, true⟩) (cue : Cue) :
    st.Silent (st.meeting id cue) ∧ (st.meeting id cue).held = st.held ∧
      (st.meeting id cue).adapters = st.adapters ∧
      (st.meeting id cue).system.member? id =
        some ⟨s.abandon (if (st.take cue.role).2.cancels then [true] else []), true⟩ := by
  have hnoted := st.turn_silent cue.role (some id) cue
  have hid : (s.cancel true).1.id = id := (s.id_cancel true).trans (System.id_of_member? hm)
  have hcancelled := cancelWithin_backstage ((st.take cue.role).1.note (some id) (.cue cue)) id
  unfold meeting
  split
  · refine ⟨(hnoted.trans (step_silent _ id (.cancel true))).trans (.of_backstage hcancelled), hcancelled.held,
      noteCancel_adapters _ id _, ?_⟩
    have hstep : ((st.take cue.role).1.note (some id) (.cue cue)).system.step id (.cancel true) = _ :=
      System.step_cancel hm true
    rw [hcancelled.system, hstep]
    exact System.member?_put_self _ hid
  · exact ⟨hnoted, rfl, rfl, hm⟩

/-- A scripted call ends, or it is kept pending. -/
theorem play_called (hr : st.Ready co) (hheld : st.held = []) (hm : st.system.member? id = some ⟨s, true⟩) {cue : Cue}
    (hs : st.Serves (.ofSession id) c cue) : st.Called id s c (st.play (.ofSession id) cue) := by
  have hb : (st.take cue.role).2.Answers := hr.answers cue.role (st.turnsOf cue.role)
  obtain ⟨hsilent, hkept, hadapters, hmember⟩ := meeting_silent hm cue
  have hserves := hs.congr hsilent.cast hadapters
  rw [play_ofSession]
  split
  next hwaits =>
    have hsig : (st.take cue.role).2.sigint = true := by
      rcases Bool.or_eq_true_iff.mp hwaits with hholds | hsig
      · exact hb.interrupts hholds
      · exact hsig
    rw [if_neg (Bool.eq_false_iff.mp (hb.calm hsig))] at hmember
    have hkeep : st.Silent ((st.meeting id cue).keep ⟨id, cue, (st.take cue.role).2⟩) :=
      hsilent.trans ⟨rfl, rfl, rfl, rfl, rfl⟩
    have hone : ((st.meeting id cue).keep ⟨id, cue, (st.take cue.role).2⟩).held =
        [⟨id, cue, (st.take cue.role).2⟩] := by
      rw [keep, hkept, hheld]
      rfl
    have hthere : ((st.meeting id cue).keep ⟨id, cue, (st.take cue.role).2⟩).Serves (.ofSession id) c cue :=
      hserves.congr rfl rfl
    exact .kept hkeep hone hmember rfl hsig hthere
  next =>
    have hconclude := conclude_backstage (st.meeting id cue) (.ofSession id) cue (st.take cue.role).2.result
    have hfair := conclude_fair hserves (st.take cue.role).2.result
    have hsteady : (st.meeting id cue).cast.cardModule.Steady := hsilent.cast ▸ hr.steady
    refine .answered ⟨_, _, hfair.accepts, fun he => ?_⟩ (hsilent.trans (.of_backstage hconclude))
      (hconclude.held.trans (hkept.trans hheld)) (hconclude.system ▸ hmember)
    exact absurd he (hfair.uncancelled ⟨hsteady, hb.uncancelled⟩)

/-- **A call of a session** ends, or it is kept pending until the user interrupts the program. -/
theorem call_called (hr : st.Ready co) (hheld : st.held = []) (hm : st.system.member? id = some ⟨s, true⟩) (c : Call) :
    st.Called id s c (st.call (.ofSession id) c) := by
  have hbackstage := perform_backstage st (.ofSession id) c
  have hbegun := perform_begun st (.ofSession id) c
  unfold call
  generalize st.perform (.ofSession id) c = x at hbackstage hbegun
  have hsilent := Silent.of_backstage hbackstage
  cases hbegun with
  | @ended u r hfair =>
    have huncancelled := hfair.uncancelled (hsilent.cast ▸ hr.steady)
    exact .answered ⟨[], r, hfair.accepts, fun he => absurd he huncancelled⟩ hsilent
      (hbackstage.held.trans hheld) (hbackstage.system ▸ hm)
  | @played u cue hserves =>
    exact .of_silent hsilent
      (play_called (hr.of_silent hsilent) (hbackstage.held.trans hheld) (hbackstage.system ▸ hm) hserves)

/-! ## The end of a run -/

/-- The run of a session has ended: the session is over, the presenter has been told the outcome, and this is the only
end that the run has had; or the key of the certificate that was fetched cannot be read. -/
inductive Finished (st : Stage) (co : Coordinator) (id : Text) : Prop
  | reported {s : Session} : st.system.member? id = some ⟨s, true⟩ → s.state.isTerminal = true →
      st.told = (report? co.language s.state).toList → st.outcomes = [.ok s.state] → Finished st co id
  | stumbled {s : Session} {d : Certificate} {e : CertificateFault} : st.system.member? id = some ⟨s, true⟩ →
      .phase1Submitting d ∈ s.history → d.keyType = .error e → Finished st co id

/-- A session waits for a call, on a stage where everybody answers and nobody is kept pending. -/
structure Awaits (st : Stage) (co : Coordinator) (id : Text) (s : Session) (p : Pending) : Prop where
  ready : st.Ready co
  held : st.held = []
  member : st.system.member? id = some ⟨s, true⟩
  waits : s.At p
  entered : s.state ∈ s.history

/-- A call is kept pending until the user interrupts the program. -/
structure Parked (st : Stage) (co : Coordinator) (id : Text) (s : Session) (p : Pending) (w : Held) : Prop where
  ready : st.Ready co
  held : st.held = [w]
  member : st.system.member? id = some ⟨s, true⟩
  waits : s.At p
  entered : s.state ∈ s.history
  session : w.session = id
  interrupts : w.behaviour.sigint = true
  serves : st.Serves (.ofSession id) (p.call s) w.cue

/-- Records are written, and then the rest is done. -/
theorem proceed_records (fuel : Nat) (st : Stage) (co : Coordinator) (id : Text) (rs : List SessionRecord)
    (last : List Action) (rest : List Output) :
    ∃ lines, proceed fuel st id ((rs.map Action.record ++ last).flatMap (System.outputs co true) ++ rest) =
      proceed fuel (st.write lines) id (last.flatMap (System.outputs co true) ++ rest) := by
  induction rs generalizing st with
  | nil => exact ⟨[], by rw [write, List.append_nil]; rfl⟩
  | cons r rs ih =>
    obtain ⟨lines, hlines⟩ := ih (st.write [r.line id])
    refine ⟨r.line id :: lines, ?_⟩
    rw [List.map_cons, List.cons_append, List.flatMap_cons, System.outputs, List.append_assoc, List.singleton_append,
      proceed, hlines]
    simp [write, List.append_assoc]

/-- The presenter is told of the end, and the end is noted. -/
theorem proceed_endOutputs (fuel : Nat) (st : Stage) (id : Text) (hp : co.presents = true)
    {final : State} (ht : final.isTerminal = true) (n : Nat) (rest : List Output) :
    ∃ r, report? co.language final = some r ∧ proceed fuel st id (System.endOutputs co true final n ++ rest) =
      proceed fuel ((st.note (some id) (.report r)).note (some id) (.finished (.ok final))) id rest := by
  obtain ⟨message, hmessage⟩ := (outcomeMessage_isOk_iff co.language final).mpr ht
  have hr : report? co.language final = some ⟨final.isSuccess, message⟩ := by rw [report?, hmessage]
  refine ⟨_, hr, ?_⟩
  have hend : System.endOutputs co true final n = [.report ⟨final.isSuccess, message⟩, .ended (.ok final) n] := by
    simp [System.endOutputs, hp, hr]
  rw [hend, List.cons_append, proceed, List.singleton_append, proceed]

/-- The session hears of the end of its call and carries on; `rest` is what is left to be done after that. -/
def resumed (fuel : Nat) (u : Stage) (id : Text) (r : Except Fault Value) (rest : List Output) : Stage :=
  proceed fuel { u with system := (u.system.step id (.finish r)).1 } id ((u.system.step id (.finish r)).2 ++ rest)

/-- The session hears of the end of its call: the next call follows, or the run ends. -/
theorem resumed_cases (hr : u.Ready co) (hheld : u.held = []) {x : Reaction (p.call s)}
    (hm : u.system.member? id = some ⟨s.abandon x.cancels, true⟩) (hat : s.At p) (hentered : s.state ∈ s.history)
    (fuel : Nat) {rest : List Output} (hrest : ∀ v, proceed fuel v id rest = v) :
    (∃ v s' p', x.cancels = [] ∧ p.callsLeft = p'.callsLeft + 1 ∧ v.Awaits co id s' p' ∧
        u.resumed fuel id x.result rest = proceed fuel v id (.call (p'.call s') :: rest)) ∨
      (u.resumed fuel id x.result rest).Finished co id ∧ (u.resumed fuel id x.result rest).held = [] := by
  have hsilent := u.step_silent id (.finish x.result)
  have hid : ((s.abandon x.cancels).resume x.result).1.id = id :=
    (Session.id_resume _ _).trans (System.id_of_member? hm)
  have hproceeds := s.proceeds_resume hat x
  rw [System.step_finish hm] at hsilent
  rw [resumed, System.step_finish hm, hr.coordinator]
  have hmember := System.member?_put_self u.system (m := ⟨((s.abandon x.cancels).resume x.result).1, true⟩) hid
  generalize (s.abandon x.cancels).resume x.result = y at hproceeds hsilent hmember
  have hready := hr.of_silent hsilent
  cases hproceeds with
  | @goesOn p' v n rs hv hl =>
    obtain ⟨lines, hlines⟩ := proceed_records fuel { u with system := u.system.put ⟨s.calling p' n, true⟩ } co id
      rs [.call (p'.call (s.calling p' n))] rest
    have hwritten := write_backstage { u with system := u.system.put ⟨s.calling p' n, true⟩ } lines
    refine .inl ⟨_, s.calling p' n, p', hv.cancels, hl.callsLeft_eq, ⟨hready.of_silent (.of_backstage hwritten),
      hheld, hmember, ⟨rfl, rfl, hat.calm⟩, List.mem_append_right _ (List.mem_singleton_self _)⟩, hlines⟩
  | @ends s' rs n he hn =>
    obtain ⟨lines, hlines⟩ := proceed_records fuel { u with system := u.system.put ⟨s', true⟩ } co id
      rs [.returned s'.state n] rest
    obtain ⟨r, hreport, hend⟩ := proceed_endOutputs fuel ({ u with system := u.system.put ⟨s', true⟩ }.write lines) id
      hr.presents he.isTerminal n rest
    have hnews : [.returned s'.state n].flatMap (System.outputs co true) =
        System.endOutputs co true s'.state n := List.flatMap_singleton ..
    rw [hlines, hnews, hend, hrest]
    refine .inr ⟨.reported hmember he.isTerminal ?_ ?_, hheld⟩
    · rw [told_note, told_note]
      exact (congrArg (· ++ [r] ++ []) hready.told).trans (congrArg Option.toList hreport).symm
    · rw [outcomes_note, outcomes_note]
      exact congrArg (· ++ [] ++ [.ok s'.state]) hready.outcomes
  | @stumbles v f rs n hv he =>
    obtain ⟨lines, hlines⟩ := proceed_records fuel { u with system := u.system.put ⟨s.left, true⟩ } co id
      rs [.raised f n] rest
    have hnews : [.raised f n].flatMap (System.outputs co true) = [.ended (.error f) n] := rfl
    rw [hlines, hnews, List.singleton_append, proceed, hrest]
    refine .inr ⟨?_, hheld⟩
    cases he with
    | key _ hk =>
      rw [hat.state] at hentered
      exact .stumbled hmember hentered hk

/-- **A session that waits for a call** comes to the end of its run, or to a call that is kept pending until the user
interrupts the program. The induction is on the calls that can still end at once; each of them leaves fewer to come. -/
theorem proceed_reaches (h : st.Awaits co id s p) {fuel : Nat} (hf : p.callsLeft ≤ fuel) :
    (proceed fuel st id [.call (p.call s)]).Finished co id ∧ (proceed fuel st id [.call (p.call s)]).held = [] ∨
      ∃ s' p' w, (proceed fuel st id [.call (p.call s)]).Parked co id s' p' w := by
  induction fuel generalizing st s p with
  | zero => exact absurd hf (Nat.not_le.mpr p.callsLeft_pos)
  | succ fuel ih =>
    have hcalled := call_called h.ready h.held h.member (p.call s)
    have hnothing : ∀ v, proceed fuel v id [] = v := fun v => by rw [proceed]
    rw [proceed]
    generalize st.call (.ofSession id) (p.call s) = x at hcalled
    cases hcalled with
    | @kept u w hsilent hheld hm hid hsig hserves =>
      have hstays : proceed (fuel + 1) u id [] = u := by rw [proceed]
      dsimp only
      rw [hstays]
      exact .inr ⟨s, p, w, h.ready.of_silent hsilent, hheld, hm, h.waits, h.entered, hid, hsig, hserves⟩
    | @answered u x hsilent hheld hm =>
      obtain ⟨v, s', p', -, hleft, hv, hgoes⟩ | hends :=
        resumed_cases (h.ready.of_silent hsilent) hheld hm h.waits h.entered fuel hnothing
      · have hreaches := ih hv (by omega)
        rw [← hgoes] at hreaches
        exact hreaches
      · exact .inl hends

/-- A session that waits for a call is asked to stop, and asks its call to stop. -/
theorem cancel_of_waits (hat : s.At p) : (s.cancel false).2.2 = [.record (.cancelRequested s.state), .interrupt] := by
  obtain ⟨t, ht, -⟩ := Session.exists_run hat.pending
  have hdone : s.done = false := by
    rw [Session.done, hat.state]
    exact p.isTerminal_state
  simp [Session.cancel, hdone, hat.calm, ht]

/-- A call that was kept pending has been asked to stop: nobody is kept pending any more. -/
theorem stop_cases {w : Held} (hheld : st.held = [w]) (hid : w.session = id)
    (hs : st.Serves (.ofSession id) c w.cue) :
    st.Silent (st.stop w).1 ∧ (st.stop w).1.held = [] ∧ (st.stop w).1.system = st.system ∧
      c.accepts (st.stop w).2 = true := by
  have haside : (Event.interrupted w.cue).isAside = true := rfl
  have hunheld : st.Silent (st.unhold w.session) := ⟨rfl, rfl, rfl, rfl, rfl⟩
  have hnoted := note_backstage (st.unhold w.session) (some w.session) haside
  have hconclude := conclude_backstage ((st.unhold w.session).note (some w.session) (.interrupted w.cue))
    (.ofSession w.session) w.cue (Behaviour.interrupted w.behaviour)
  have hserves : ((st.unhold w.session).note (some w.session) (.interrupted w.cue)).Serves (.ofSession w.session) c
      w.cue := hid ▸ hs.congr rfl rfl
  have hnobody : (st.unhold w.session).held = [] := by simp [unhold, hheld]
  exact ⟨(hunheld.trans (.of_backstage hnoted)).trans (.of_backstage hconclude), hconclude.held.trans hnobody,
    hconclude.system, (conclude_fair hserves _).accepts⟩

/-- The call that is kept pending is asked to stop, and the session hears of its end. -/
theorem proceed_interrupt (fuel : Nat) {w : Held} (hw : st.heldOf? id = some w) (rest : List Output) :
    proceed (fuel + 1) st id (.interrupt :: rest) = (st.stop w).1.resumed fuel id (st.stop w).2 rest := by
  rw [proceed, hw]
  rfl

/-- The stage when a session that waits has been asked to stop, and is about to ask its call. -/
def asked (st : Stage) (id : Text) (s : Session) : Stage :=
  { st with system := st.system.put ⟨(s.cancel false).1, true⟩ }.write [(SessionRecord.cancelRequested s.state).line id]

/-- A session that is cancelled asks its call to stop, and then answers. -/
theorem proceed_cancel (fuel : Nat) (hm : st.system.member? id = some ⟨s, true⟩) (hat : s.At p) :
    proceed fuel { st with system := (st.system.step id (.cancel false)).1 } id
      (st.system.step id (.cancel false)).2 =
        proceed fuel (st.asked id s) id [.interrupt, .answered (s.cancel false).2.1] := by
  rw [System.step_cancel hm, cancel_of_waits hat, List.flatMap_cons, System.outputs, List.append_assoc,
    List.singleton_append, proceed]
  rfl

/-- **A run whose call is kept pending** ends when the user interrupts the program. -/
theorem interrupted_finished {w : Held} (h : st.Parked co id s p w) :
    (proceed (mostCalls + 1) { st with system := (st.system.step id (.cancel false)).1 } id
      (st.system.step id (.cancel false)).2).Finished co id ∧
    (proceed (mostCalls + 1) { st with system := (st.system.step id (.cancel false)).1 } id
      (st.system.step id (.cancel false)).2).held = [] := by
  have hasked : st.Silent (st.asked id s) := ⟨rfl, rfl, rfl, rfl, rfl⟩
  have hid : (s.cancel false).1.id = id := (s.id_cancel false).trans (System.id_of_member? h.member)
  have hm : (st.asked id s).system.member? id = some ⟨s.abandon [false], true⟩ := System.member?_put_self _ hid
  have hw : (st.asked id s).heldOf? id = some w := by simp [heldOf?, asked, write, h.held, h.session]
  have hheld : (st.asked id s).held = [w] := h.held
  have hserves : (st.asked id s).Serves (.ofSession id) (p.call s) w.cue := h.serves.congr rfl rfl
  obtain ⟨hstopped, hfree, hsystem, haccepts⟩ := stop_cases hheld h.session hserves
  let x : Reaction (p.call s) := ⟨[false], _, haccepts, fun _ => List.cons_ne_nil _ _⟩
  have hrest : ∀ v, proceed mostCalls v id [.answered (s.cancel false).2.1] = v := fun v => by rw [proceed, proceed]
  rw [proceed_cancel _ h.member h.waits, proceed_interrupt mostCalls hw]
  -- The user has asked for it, so no call follows.
  obtain ⟨-, -, -, hnone, -⟩ | hends := resumed_cases (x := x) (h.ready.of_silent (hasked.trans hstopped)) hfree
    (hsystem ▸ hm) h.waits h.entered mostCalls hrest
  · cases hnone
  · exact hends

/-- An interrupt that comes is delivered, and then there is nothing left to wait for. -/
theorem deliverInterrupts_finished (fuel : Nat)
    (h : st.Finished co id ∧ st.held = [] ∨ ∃ s p w, st.Parked co id s p w) :
    (st.deliverInterrupts id (fuel + 1)).Finished co id := by
  have hfree {u : Stage} (n : Nat) (hu : u.held = []) : u.deliverInterrupts id n = u := by
    cases n with
    | zero => rfl
    | succ n => simp [deliverInterrupts, heldOf?, hu]
  obtain ⟨hends, hheld⟩ | ⟨s, p, w, hparked⟩ := h
  · rw [hfree _ hheld]
    exact hends
  · obtain ⟨hends, hheld⟩ := interrupted_finished hparked
    have hw : st.heldOf? id = some w := by simp [heldOf?, hparked.held, hparked.session]
    rw [deliverInterrupts, hw]
    dsimp only
    rw [if_pos hparked.interrupts, hfree _ hheld]
    exact hends

/-- **Every run of a session ends** where everybody answers. -/
theorem openAndRun_finished {c : Cast} {files : FileTree} {r : Request} (h : (underWay c files id r).Ready co) :
    ((init c files).openAndRun id r).Finished co id := by
  have hawaits : (underWay c files id r).Awaits co id
      ((Session.fresh id r c.coordinator.mode c.coordinator.language).begun.calling (.first r.signer) 0)
      (.first r.signer) := by
    refine ⟨h, rfl, ?_, ⟨rfl, rfl, rfl⟩, List.mem_append_right _ (List.mem_singleton_self _)⟩
    simp [System.member?, underWay, write, Session.fresh, Session.begun, Session.calling, Session.enter]
  have hreaches := proceed_reaches hawaits (Nat.le_succ_of_le (Pending.callsLeft_first_le r.signer))
  rw [openAndRun_eq]
  exact deliverInterrupts_finished 4 hreaches

end Stage

end Rehearsal

end RemoteSigning
