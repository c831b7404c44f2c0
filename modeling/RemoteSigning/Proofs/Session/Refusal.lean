import RemoteSigning.Proofs.Session.LastWord
import RemoteSigning.Proofs.Session.Returns

/-!
# A session runs once

Whoever runs a session for the first time has it begin; whoever runs it again is refused, and that is all. It does not
matter what has become of the first run: it may be under way, have returned, or have ended with a fault.

- `System.HasRun` says of what has happened that a session has been run, `System.started_iff_hasRun`: the session knows;
- `System.put_self`: to put a member in its own place changes nothing;
- `System.step_start_of_started` is the refusal, `System.refused_iff_hasRun` what it means for all that happens later.
-/

namespace RemoteSigning

/-- What a session that has run ends any further run with. -/
def refusal (id : Text) : Fault := .runtime ("Session " ++ id ++ " has already run; start a new session")

namespace Session

variable {x : Session}

/-- A session has started if it had, or if it is run now. -/
theorem started_step_iff (ho : x.Ordered) (e : Happening) :
    (x.step e).1.started = true ↔ x.started = true ∨ ∃ reported n, e = .start reported n := by
  constructor
  · intro h
    cases e with
    | «open» => exact .inl h
    | make => exact .inl h
    | start reported n => exact .inr ⟨reported, n, rfl⟩
    | finish r =>
      cases hr : x.run with
      | none =>
        have hsame : (x.step (.finish r)).1 = x := congrArg Prod.fst (resume_of_idle hr r)
        exact .inl (hsame ▸ h)
      | some t => exact .inl (ho.waiting t.pending (by simp [pending?, hr])).1
    | cancel own => exact .inl ((x.keeps_cancel own).started.symm.trans h)
    | interrupt =>
      refine .inl ?_
      unfold step interrupt at h
      dsimp only at h
      split at h <;> exact h
  · rintro (h | ⟨reported, n, rfl⟩)
    · exact started_step h e
    · exact started_start x n

end Session

namespace System

variable {s : System} {c : Coordinator} {id : Text} {x : Session} {m : Member}
  {l : List (Text × Happening)}

/-! ## Which sessions have run -/

/-- A session has been run, by what has happened: it was there when somebody ran it. -/
def HasRun (c : Coordinator) (l : List (Text × Happening)) (id : Text) : Prop :=
  ∃ before after reported cancels, l = before ++ (id, .start reported cancels) :: after ∧
    (((init c).run before).1.session? id).isSome = true

theorem run_append (s : System) (l l' : List (Text × Happening)) :
    s.run (l ++ l') = (((s.run l).1.run l').1, (s.run l).2 ++ ((s.run l).1.run l').2) := by
  induction l generalizing s with
  | nil => rfl
  | cons e l ih =>
    rw [List.cons_append, run]
    dsimp only
    rw [ih, run]
    simp only [List.append_assoc]

theorem run_concat (s : System) (l : List (Text × Happening)) (name : Text) (e : Happening) :
    (s.run (l ++ [(name, e)])).1 = ((s.run l).1.step name e).1 := by
  rw [run_append]
  rfl

theorem hasRun_append (h : HasRun c l id) (l' : List (Text × Happening)) : HasRun c (l ++ l') id := by
  obtain ⟨before, after, reported, cancels, rfl, hx⟩ := h
  exact ⟨before, after ++ l', reported, cancels, by simp, hx⟩

/-- It has been run in what has happened if it had been run before the last happening, or if this was a run. -/
theorem hasRun_snoc_iff {e : Text × Happening} : HasRun c (l ++ [e]) id ↔
    HasRun c l id ∨ (∃ reported n, e = (id, .start reported n)) ∧ (((init c).run l).1.session? id).isSome = true := by
  constructor
  · rintro ⟨before, after, reported, cancels, h, hx⟩
    induction after using List.reverseRecOn with
    | nil =>
      obtain ⟨rfl, he⟩ := List.append_inj' h rfl
      exact .inr ⟨⟨reported, cancels, (List.cons.inj he).1⟩, hx⟩
    | append_singleton after e' _ =>
      have h' : l ++ [e] = (before ++ (id, .start reported cancels) :: after) ++ [e'] := by simp [h]
      obtain ⟨rfl, -⟩ := List.append_inj' h' rfl
      exact .inl ⟨before, after, reported, cancels, rfl, hx⟩
  · rintro (h | ⟨⟨reported, n, rfl⟩, hx⟩)
    · exact hasRun_append h [e]
    · exact ⟨l, [], reported, n, rfl, hx⟩

/-- A session that has just been opened has not started. -/
theorem started_stepAt_none {e : Happening} (hx : (Session.stepAt c id none e).1 = some x) : x.started = false := by
  cases e with
  | «open» => obtain rfl := Option.some.inj hx; rfl
  | make => obtain rfl := Option.some.inj hx; rfl
  | _ => cases hx

/-- There is a session that has started exactly if it has been run. -/
theorem exists_started_iff_hasRun :
    (∃ x, ((init c).run l).1.session? id = some x ∧ x.started = true) ↔ HasRun c l id := by
  -- The induction adds what happens last, to this session or to another one.
  induction l using List.reverseRecOn with
  | nil =>
    constructor
    · rintro ⟨x, hx, -⟩
      cases hx
    · rintro ⟨before, after, reported, cancels, h, -⟩
      simp at h
  | append_singleton l e ih =>
    obtain ⟨name, e⟩ := e
    rw [run_concat, hasRun_snoc_iff, ← ih]
    by_cases hn : name = id
    · subst hn
      rw [session?_step_self]
      cases hold : ((init c).run l).1.session? name with
      | none =>
        have hfresh {x : Session} (hx : (Session.stepAt ((init c).run l).1.coordinator name none e).1 = some x) :
            x.started ≠ true := by
          simp [started_stepAt_none hx]
        simpa using fun x hx => hfresh hx
      | some y =>
        have hstarted := y.started_step_iff (Session.ordered_of_reachable (reachable_of_session? hold)) e
        simpa [Session.stepAt] using hstarted
    · rw [session?_step_of_ne _ hn]
      simp [hn]

/-- A session knows whether it has been run. -/
theorem started_iff_hasRun (hx : ((init c).run l).1.session? id = some x) : x.started = true ↔ HasRun c l id := by
  rw [← exists_started_iff_hasRun, hx]
  simp

/-! ## What a refusal does -/

/-- A member that is put in its own place changes nothing. -/
theorem putMember_self {members : List Member} (hm : members.find? (·.session.id = id) = some m) :
    putMember m members = members := by
  have hid : m.session.id = id := by simpa using List.find?_some hm
  induction members with
  | nil => cases hm
  | cons n rest ih =>
    unfold putMember
    by_cases hn : n.session.id = m.session.id
    · rw [if_pos hn]
      have hfound : n = m := by simpa [hn.trans hid] using hm
      rw [hfound]
    · rw [if_neg hn]
      have hother : n.session.id ≠ id := fun h => hn (h.trans hid.symm)
      rw [ih (by simpa [hother] using hm)]

theorem put_self (hm : s.member? id = some m) : s.put m = s := by
  unfold put
  rw [putMember_self hm]

/-- A session that has started is refused, and nothing else comes of it. -/
theorem step_start_of_started (hx : s.session? id = some x) (hs : x.started = true) (reported : Bool) (cancels : Nat) :
    s.step id (.start reported cancels) = (s, [.ended (.error (refusal id)) cancels]) := by
  obtain ⟨m, hm, rfl⟩ := Option.map_eq_some_iff.mp hx
  have hstart : m.session.start cancels = (m.session, [.raised (refusal m.session.id) cancels]) := by
    unfold Session.start
    rw [if_pos hs]
    rfl
  unfold step
  rw [hm]
  dsimp only
  rw [hstart, if_pos hs, put_self hm, id_of_member? hm]
  rfl

/-- The first run of a session does not end with a fault at once. -/
theorem error_not_mem_step_start (hx : s.session? id = some x) (hs : x.started = false) (reported : Bool)
    (cancels n : Nat) (f : Fault) : .ended (.error f) n ∉ (s.step id (.start reported cancels)).2 := by
  intro hmem
  have hends := shows_ends.step s id (.start reported cancels)
  rw [hx] at hends
  have hseen : .error f ∈ (x.start cancels).2.filterMap Action.outcome? := by
    have hout : Except.error f ∈ (s.step id (.start reported cancels)).2.filterMap Output.outcome? :=
      List.mem_filterMap.mpr ⟨_, hmem, rfl⟩
    rw [hends] at hout
    exact hout
  have hm : x.SeenAs none (x.start cancels) := x.moves_start cancels
  unfold Session.SeenAs at hm
  generalize (x.start cancels).1 = x', (x.start cancels).2.filterMap Action.call? = calls,
    (x.start cancels).2.filterMap Action.outcome? = outcomes at hm hseen
  cases hm with
  | rests => cases hseen
  | refuses hs' => exact absurd (hs'.symm.trans hs) (by decide)
  | begins => cases hseen
  | givesUp => simp at hseen

/-- A pending run that the user gives up is asked to stop. -/
theorem step_cancel_of_pending {t : Run} (hx : s.session? id = some x) (ho : x.Ordered) (ht : x.run = some t)
    (hc : x.cancelRequested = false) :
    (s.step id (.cancel false)).2 = [.record (.cancelRequested x.state), .interrupt, .answered true] ∧
      (s.step id (.cancel false)).1.session? id =
        some { x with cancelRequested := true, run := some { t with cancels := t.cancels + 1 } } := by
  have hcancel : x.cancel false =
      ({ x with cancelRequested := true, run := some { t with cancels := t.cancels + 1 } }, true,
        [.record (.cancelRequested x.state), .interrupt]) := by
    have hdone : x.done = false := by
      have hp : t.pending ∈ x.pending? := by simp [Session.pending?, ht]
      rw [Session.done, (ho.waiting _ hp).2]
      exact t.pending.isTerminal_state
    simp [Session.cancel, hdone, hc, ht]
  obtain ⟨m, hm, rfl⟩ := Option.map_eq_some_iff.mp hx
  constructor
  · unfold step
    rw [hm]
    simp [hcancel, outputs]
  · rw [session?_step_of_session? hx]
    simp [Session.step, hcancel]

/-- **A second run is refused, and nothing else comes of it.** A session that is run ends the run at once with a fault
exactly if it has been run before, whatever has become of that: the first run may be under way, have returned, or have
ended with a fault. No call is made then, nothing is recorded or reported, and all sessions stay what they are, with
their states, their histories and what was asked of them. Whatever happens next, requests to cancel included, does what
it would have done without the refused run; so a call that is pending is asked to stop if the user gives up. -/
theorem refused_iff_hasRun {c : Coordinator} {l : List (Text × Happening)} {id : Text} {x : Session}
    (hx : ((init c).run l).1.session? id = some x) (reported : Bool) (cancels : Nat) :
    let s := ((init c).run l).1
    ((∃ f n, .ended (.error f) n ∈ (s.step id (.start reported cancels)).2) ↔ HasRun c l id) ∧
    (HasRun c l id →
      s.step id (.start reported cancels) = (s, [.ended (.error (refusal id)) cancels]) ∧
      (∀ later, (init c).run (l ++ (id, .start reported cancels) :: later) =
        (((init c).run (l ++ later)).1,
          ((init c).run l).2 ++ (id, .ended (.error (refusal id)) cancels) :: (s.run later).2) ∧
        ((init c).run (l ++ later)).2 = ((init c).run l).2 ++ (s.run later).2) ∧
      ∀ t, x.run = some t → x.cancelRequested = false →
        let refused := (s.step id (.start reported cancels)).1
        (refused.step id (.cancel false)).2 = [.record (.cancelRequested x.state), .interrupt, .answered true] ∧
          (refused.step id (.cancel false)).1.session? id =
            some { x with cancelRequested := true, run := some { t with cancels := t.cancels + 1 } }) := by
  intro s
  have hx : s.session? id = some x := hx
  have hiff : x.started = true ↔ HasRun c l id := started_iff_hasRun hx
  have hrefused (h : HasRun c l id) := step_start_of_started hx (hiff.mpr h) reported cancels
  refine ⟨⟨fun ⟨f, n, hmem⟩ => hiff.mp ?_, fun h => ?_⟩,
    fun h => ⟨hrefused h, fun later => ⟨?_, ?_⟩, fun t ht hc => ?_⟩⟩
  · cases hs : x.started with
    | true => rfl
    | false => exact absurd hmem (error_not_mem_step_start hx hs reported cancels n f)
  · rw [hrefused h]
    exact ⟨refusal id, cancels, List.mem_singleton.mpr rfl⟩
  · rw [run_append, run_append, run, hrefused h]
    rfl
  · rw [run_append]
  · intro refused
    have hsame : refused = s := congrArg Prod.fst (hrefused h)
    rw [hsame]
    exact step_cancel_of_pending hx (Session.ordered_of_reachable (reachable_of_session? hx)) ht hc

/-- A session that waits for its signature is run once more, and then given up: the signature is asked to stop. -/
theorem refused_iff_hasRun_signingRun :
    HasRun ⟨.mode .auto, "en", false⟩ signingRun "a" ∧ ∃ x t, signingSystem.session? "a" = some x ∧ x.run = some t ∧
      signingSystem.step "a" (.start true 3) = (signingSystem, [.ended (.error (refusal "a")) 3]) ∧
      (((signingSystem.step "a" (.start true 3)).1).step "a" (.cancel false)).2 =
        [.record (.cancelRequested x.state), .interrupt, .answered true] := by
  have hrun : HasRun ⟨.mode .auto, "en", false⟩ signingRun "a" :=
    ⟨[("a", .open sampleRequest)], signingRun.drop 2, false, 0, rfl, rfl⟩
  obtain ⟨x, hx⟩ : ∃ x, signingSystem.session? "a" = some x := ⟨_, rfl⟩
  have hstate : (signingSystem.session? "a").map (fun x => (x.run, x.cancelRequested)) =
      some (some ⟨.sign 7 ⟨[48], none⟩ ⟨[102, 111, 111], ⟨.sha256, none⟩⟩, 0⟩, false) := rfl
  rw [hx, Option.map_some] at hstate
  obtain ⟨ht, hc⟩ := Prod.mk.inj (Option.some.inj hstate)
  obtain ⟨-, hall⟩ := refused_iff_hasRun (l := signingRun) hx true 3
  obtain ⟨hrefused, -, hcancel⟩ := hall hrun
  exact ⟨hrun, x, _, hx, ht, hrefused, (hcancel _ ht hc).1⟩

end System

end RemoteSigning
