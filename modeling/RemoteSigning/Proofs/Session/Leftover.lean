import RemoteSigning.Proofs.Session.Continuation
import RemoteSigning.Proofs.Session.Interruption

/-!
# What is left of the requests to cancel a run

A task counts how often it is asked to stop. A session that is given up by somebody else asks its task once more, and a
run that ends because its call was cancelled takes one request back. The two do not always go together: the call need
not end with the cancellation, and the cancellation that it ends with need not be the session's own.

- `interruptions` are the requests from outside, `stopsTask` says whether the session adds one of its own;
- `Session.cancels_follow`: the requests in the course of a run, by induction on what happens;
- `System.leftover_iff`: how many are left when a run returns, and when they are those that were there and those from
  outside; `System.leftover_ne_whileSigning`: two runs in which they are not.
-/

namespace RemoteSigning

/-! ## Who asks -/

/-- A request from outside to cancel the run. -/
def Happening.isInterrupt : Happening → Bool
  | .interrupt => true
  | _ => false

/-- A request to give the session up; `true` if the run itself asks. -/
def Happening.asks? : Happening → Option Bool
  | .cancel own => some own
  | _ => none

/-- How often the run is cancelled from outside. -/
def interruptions (es : List Happening) : Nat := es.countP Happening.isInterrupt

/-- The first who gives the session up is not the run itself, so the session stops its own task. -/
def stopsTask (es : List Happening) : Bool := (es.filterMap Happening.asks?).head? = some false

theorem interruptions_cons (e : Happening) (es : List Happening) :
    interruptions (e :: es) = (if e.isInterrupt then 1 else 0) + interruptions es := by
  rw [interruptions, List.countP_cons, Nat.add_comm, interruptions]

theorem stopsTask_cancel (own : Bool) (es : List Happening) : stopsTask (.cancel own :: es) = !own := by
  cases own <;> rfl

theorem stopsTask_cons {e : Happening} (h : e.asks? = none) (es : List Happening) :
    stopsTask (e :: es) = stopsTask es := by
  rw [stopsTask, List.filterMap_cons_none h, stopsTask]

namespace Session

variable {s : Session} {t t' : Run}

/-! ## What a step leaves -/

/-- What is returned says how many requests are left. -/
theorem Continues.cancels_of_returned {n m : Nat} {x : Session × List Action} {final : State} (h : s.Continues n x)
    (hm : .returned final m ∈ x.2) : m = n := by
  cases h with
  | rests => cases hm
  | goesOn => simp at hm
  | ends => simp_all
  | stumbles => simp at hm

/-- A run that goes on has so many requests. -/
theorem Continues.cancels_of_run {n : Nat} {x : Session × List Action} (h : s.Continues n x)
    (hn : ∀ t ∈ s.run, t.cancels = n) : ∀ t ∈ x.1.run, t.cancels = n := by
  cases h with
  | rests => exact hn
  | goesOn =>
    intro t ht
    rw [← Option.some.inj ht]
  | ends => exact nofun
  | stumbles => exact nofun

/-! ## The course of a run -/

/-- How many requests a happening adds while the run goes on; `asked` says that the session has been given up before. -/
def added (asked : Bool) : Happening → Nat
  | .interrupt => 1
  | .cancel false => if asked then 0 else 1
  | _ => 0

/-- The requests while a run goes on. -/
theorem cancels_step (hs : s.Ordered) (ht : s.run = some t) (e : Happening) (ht' : (s.step e).1.run = some t') :
    t'.cancels = t.cancels + added s.cancelRequested e := by
  have hp : t.pending ∈ s.pending? := by simp [pending?, ht]
  obtain ⟨hstarted, hwaits⟩ := hs.waiting t.pending hp
  cases e with
  | «open» => rw [Option.some.inj (ht'.symm.trans ht)]; rfl
  | make => rw [Option.some.inj (ht'.symm.trans ht)]; rfl
  | start reported n =>
    have hsame : (s.step (.start reported n)).1 = s := start_of_started hstarted n
    rw [hsame] at ht'
    rw [Option.some.inj (ht'.symm.trans ht)]
    rfl
  | finish r =>
    have hnext := continues_resume ht r
    by_cases hr : r = .error .cancelled
    · -- A run does not go on after a cancellation.
      subst hr
      cases hc : s.cancelRequested <;> simp [step, resume, ht, hc, fail, finish, escape] at ht'
    · rw [if_neg hr] at hnext
      exact hnext.cancels_of_run (fun _ h => by rw [← Option.some.inj (ht.symm.trans h)]; rfl) t' ht'
  | cancel own =>
    have hdone : s.done = false := by rw [done, hwaits]; exact t.pending.isTerminal_state
    cases hc : s.cancelRequested with
    | true =>
      rw [step, cancel_of_cancelRequested hc] at ht'
      rw [Option.some.inj (ht'.symm.trans ht)]
      cases own <;> rfl
    | false =>
      cases own <;> simp [step, cancel, hdone, hc, ht] at ht' <;> rw [← ht'] <;> rfl
  | interrupt =>
    have hnext : s.interrupt.1.run = some { t with cancels := t.cancels + 1 } := by simp [interrupt, ht]
    rw [Option.some.inj (ht'.symm.trans hnext)]
    rfl

/-- While a run goes on, the session has been given up if it had been, or if it is now. -/
theorem cancelRequested_step_of_run (hs : s.Ordered) (ht : s.run = some t) (e : Happening) :
    (s.step e).1.cancelRequested = (s.cancelRequested || e.asks?.isSome) := by
  have hp : t.pending ∈ s.pending? := by simp [pending?, ht]
  have hdone : s.done = false := by rw [done, (hs.waiting _ hp).2]; exact t.pending.isTerminal_state
  cases e with
  | cancel own =>
    have hasked : (s.step (.cancel own)).1.cancelRequested = true := cancelRequested_cancel hdone own
    rw [hasked]
    exact (Bool.or_true _).symm
  | _ => exact (s.cancelRequested_step_of_ne (by simp)).trans (Bool.or_false _).symm

/-- What a happening adds, and what comes after it. -/
theorem added_add (asked : Bool) (e : Happening) (es : List Happening) :
    added asked e + (interruptions es + if !(asked || e.asks?.isSome) && stopsTask es then 1 else 0) =
      interruptions (e :: es) + if !asked && stopsTask (e :: es) then 1 else 0 := by
  rw [interruptions_cons]
  cases e with
  | cancel own =>
    rw [stopsTask_cancel]
    cases own <;> cases asked <;> simp [added, Happening.asks?, Happening.isInterrupt, Nat.add_comm]
  | _ =>
    rw [stopsTask_cons rfl]
    simp [added, Happening.asks?, Happening.isInterrupt, Nat.add_assoc]

/-- **The requests in the course of a run**: those that were there, those from outside, and that of the session. -/
theorem cancels_follow (hs : s.Ordered) (ht : s.run = some t) (es : List Happening)
    (ht' : (s.follow es).1.run = some t') :
    t'.cancels = t.cancels + (interruptions es + if !s.cancelRequested && stopsTask es then 1 else 0) := by
  -- The induction is on what happens; the run is under way at its end, so it has been all the time.
  induction es generalizing s t with
  | nil =>
    obtain rfl := Option.some.inj (ht.symm.trans ht')
    simp [interruptions, stopsTask]
  | cons e es ih =>
    have hnext := ordered_of_moves hs (s.moves_step e)
    have hstarted : s.started = true := (hs.waiting t.pending (by simp [pending?, ht])).1
    cases hrun : (s.step e).1.run with
    | none =>
      have hover := (keeps_of_idle (by simp [pending?, hrun]) (started_step hstarted e) es).1.pending
      simp [pending?, hrun, show ((s.step e).1.follow es).1.run = some t' from ht'] at hover
    | some t₁ =>
      rw [ih hnext hrun ht', cancels_step hs ht e hrun, cancelRequested_step_of_run hs ht e, Nat.add_assoc, added_add]

end Session

/-! ## Runs of a system -/

/-- The state that a run returns, and how many requests are left. -/
def Output.closing? : Output → Option (State × Nat)
  | .ended (.ok final) n => some (final, n)
  | _ => none

/-- The state that a run returns, and how many requests are left. -/
def Action.closing? : Action → Option (State × Nat)
  | .returned final n => some (final, n)
  | _ => none

namespace System

variable {s : System} {c : Coordinator} {id : Text} {x : Session} {l : List (Text × Happening)}

theorem shows_closings : Shows Output.closing? Action.closing? where
  action c reported a := by
    cases a with
    | returned state n => exact filterMap_endOutputs (fun _ => rfl) c reported state n
    | _ => rfl
  opened _ _ := rfl
  answered _ := rfl

/-- A state that a run returns in a step is returned by its session. -/
theorem returned_of_mem_step (hx : s.session? id = some x) {e : Happening} {final : State} {m : Nat}
    (h : .ended (.ok final) m ∈ (s.step id e).2) : .returned final m ∈ (x.step e).2 := by
  have hseen := shows_closings.step s id e
  rw [hx] at hseen
  have hmem : (final, m) ∈ (s.step id e).2.filterMap Output.closing? := List.mem_filterMap.mpr ⟨_, h, rfl⟩
  rw [hseen] at hmem
  obtain ⟨a, ha, hclosing⟩ := List.mem_filterMap.mp hmem
  cases a with
  | returned state n =>
    obtain ⟨rfl, rfl⟩ := Prod.mk.inj (Option.some.inj hclosing)
    exact ha
  | _ => cases hclosing

end System

namespace Session

variable {s : Session} {t : Run}

theorem started_follow (h : s.started = true) (es : List Happening) : (s.follow es).1.started = true := by
  induction es generalizing s with
  | nil => exact h
  | cons e es ih => exact ih (started_step h e)

/-- A session that has started returns nothing but when a call has ended that its run waits for. -/
theorem exists_run_of_returned (hs : s.started = true) {e : Happening} {final : State} {m : Nat}
    (h : .returned final m ∈ (s.step e).2) : ∃ r t, e = .finish r ∧ s.run = some t := by
  cases e with
  | «open» => cases h
  | make => cases h
  | start _ n => simp [step, start, hs] at h
  | finish r =>
    cases hr : s.run with
    | none =>
      rw [step, resume_of_idle hr] at h
      cases h
    | some t => exact ⟨r, t, rfl, rfl⟩
  | cancel own =>
    unfold step cancel at h
    dsimp only at h
    split at h
    · cases h
    · split at h
      · cases h
      · split at h
        · split at h <;> simp at h
        · simp at h
  | interrupt =>
    unfold step interrupt at h
    dsimp only at h
    split at h <;> simp at h

/-- A run that is under way after its first steps has not been given up before them. -/
theorem cancelRequested_of_run_start (hs : s.started = false) {n : Nat} (ht : (s.start n).1.run = some t) :
    s.cancelRequested = false := by
  cases hc : s.cancelRequested with
  | false => rfl
  | true =>
    rw [start_of_abandoned hs hc] at ht
    cases ht

/-- What a run returns with, from its beginning on. -/
theorem cancels_of_returned (hs : s.Ordered) (hn : s.started = false) (n : Nat) (es : List Happening) {e : Happening}
    {final : State} {m : Nat} (h : .returned final m ∈ (((s.start n).1.follow es).1.step e).2) :
    ∃ r, e = .finish r ∧ m = n + (interruptions es + if stopsTask es then 1 else 0) -
      if r = .error .cancelled then 1 else 0 := by
  have hbegun : (s.start n).1.Ordered := ordered_of_moves hs (s.moves_step (.start false n))
  have hstarted := s.started_start n
  obtain ⟨r, t', rfl, ht'⟩ := exists_run_of_returned (started_follow hstarted es) h
  cases ht : (s.start n).1.run with
  | none =>
    -- The run was over at once, and cannot be under way later.
    have hover := (keeps_of_idle (by simp [pending?, ht]) hstarted es).1.pending
    simp [pending?, ht, ht'] at hover
  | some t =>
    have hcalm : (s.start n).1.cancelRequested = false :=
      (s.cancelRequested_start n).trans (cancelRequested_of_run_start hn ht)
    have hcancels := cancels_follow hbegun ht es ht'
    have hidle : ∀ t₀ ∈ s.begun.run, t₀.cancels = n := by
      intro t₀ ht₀
      have := (hs.waiting t₀.pending (by simp [pending?, show s.run = some t₀ from ht₀])).1
      cases this.symm.trans hn
    rw [(continues_start hn n).cancels_of_run hidle t ht, hcalm] at hcancels
    refine ⟨r, rfl, ?_⟩
    rw [(continues_resume ht' r).cancels_of_returned h, hcancels]
    simp

end Session

namespace System

variable {c : Coordinator} {id : Text} {x : Session} {l : List (Text × Happening)}

/-- One more and one less, or neither; or one less where there is nothing. -/
theorem add_sub_eq_self_iff {p : Prop} [Decidable p] (n : Nat) (more : Bool) :
    n + (if more then 1 else 0) - (if p then 1 else 0) = n ↔
      (more = true ↔ p) ∨ more = false ∧ p ∧ n = 0 := by
  cases more <;> by_cases hp : p <;> simp [hp]
  omega

/-- **How many requests to cancel a run leaves that returns.** A session is run by a task that has been asked `n` times
to stop. If the run returns at once, just these requests are left. Otherwise it returns when a call has ended. What is
left then are these requests and those from outside, one more if the session has stopped its task, and one less if the
call was cancelled. So the request of the session, and nothing else, is used up exactly if either there is one and the
call ends with a cancellation, or there is none and it does not; or if there is none at all to be used up. -/
theorem leftover_iff (hx : ((init c).run l).1.session? id = some x) (hs : x.started = false) (reported : Bool) (n : Nat)
    (during : List (Text × Happening)) (e : Happening) :
    let begun := ((init c).run l).1.step id (.start reported n)
    let last := (begun.1.run during).1.step id e
    let foreign := interruptions (happeningsAt id during)
    let own := stopsTask (happeningsAt id during)
    (∀ final m, .ended (.ok final) m ∈ begun.2 → m = n) ∧
    ∀ final m, .ended (.ok final) m ∈ last.2 → ∃ r, e = .finish r ∧
      m = n + foreign + (if own then 1 else 0) - (if r = .error .cancelled then 1 else 0) ∧
      (m = n + foreign ↔
        (own = true ↔ r = .error .cancelled) ∨ own = false ∧ r = .error .cancelled ∧ n + foreign = 0) := by
  intro begun last foreign own
  have hordered := Session.ordered_of_reachable (reachable_of_session? hx)
  have hbegun := session?_step_of_session? hx (.start reported n)
  obtain ⟨hnow, -⟩ := shows_closings.run hbegun during
  refine ⟨fun final m h => ?_, fun final m h => ?_⟩
  · exact (Session.continues_start hs n).cancels_of_returned (returned_of_mem_step hx h)
  · obtain ⟨r, he, hm⟩ := Session.cancels_of_returned hordered hs n _ (returned_of_mem_step hnow h)
    rw [← Nat.add_assoc] at hm
    exact ⟨r, he, hm, by rw [hm]; exact add_sub_eq_self_iff _ own⟩

/-- A session comes to wait for its signature, and then other things happen. -/
def whileSigning (later : List (Text × Happening)) : List (Text × Happening) :=
  ("a", .finish (.ok (.backend (some 7)))) :: ("a", .finish (.ok (.certificate ⟨[48], none⟩))) ::
    ("a", .finish (.ok (.reply (.hash ⟨[102, 111, 111], ⟨.sha256, none⟩⟩)))) :: later

/-- A task that has been asked to stop twice is asked once more from outside, and once by its session. The signature is
cancelled: only the request of the session is used up. -/
theorem leftover_iff_whileSigning :
    let opened := ((init ⟨.mode .auto, "en", true⟩).run [("a", .open sampleRequest)]).1
    let during := whileSigning [("b", .interrupt), ("a", .interrupt), ("a", .cancel false), ("a", .cancel true)]
    let last := ((opened.step "a" (.start true 2)).1.run during).1.step "a" (.finish (.error .cancelled))
    (∃ x, opened.session? "a" = some x ∧ x.started = false) ∧
      ∃ m, .ended (.ok (.failed .userCancelled none)) m ∈ last.2 ∧ m = 2 + interruptions (happeningsAt "a" during) := by
  intro opened during last
  obtain ⟨x, hx, hs⟩ : ∃ x, opened.session? "a" = some x ∧ x.started = false := ⟨_, rfl, rfl⟩
  have hended : .ended (.ok (.failed .userCancelled none)) 3 ∈ last.2 :=
    List.mem_of_getElem? (show last.2[3]? = some _ from rfl)
  obtain ⟨-, hleft⟩ :=
    leftover_iff (l := [("a", .open sampleRequest)]) hx hs true 2 during (.finish (.error .cancelled))
  obtain ⟨r, hr, -, hiff⟩ := hleft _ _ hended
  obtain rfl := Happening.finish.inj hr
  exact ⟨⟨x, hx, hs⟩, 3, hended, hiff.mpr (.inl ⟨fun _ => rfl, fun _ => rfl⟩)⟩

/-- Two runs of a task that has not been asked to stop before. In the first the session gives itself up, its task is
cancelled from outside, and the call ends with this cancellation: the request from outside is used up. In the second the
session is given up by somebody else, and the call ends with a value: the request of the session is left. -/
theorem leftover_ne_whileSigning :
    let begun := (((init ⟨.mode .auto, "en", false⟩).run [("a", .open sampleRequest)]).1.step "a" (.start false 0)).1
    let spent := whileSigning [("a", .cancel true), ("a", .interrupt)]
    let kept := whileSigning [("a", .cancel false)]
    (∃ m, .ended (.ok (.failed .userCancelled none)) m ∈
        ((begun.run spent).1.step "a" (.finish (.error .cancelled))).2 ∧
      m ≠ 0 + interruptions (happeningsAt "a" spent)) ∧
    ∃ m, .ended (.ok (.failed .userCancelled none)) m ∈
        ((begun.run kept).1.step "a" (.finish (.ok (.signature ⟨[1], ⟨[102, 111, 111], ⟨.sha256, none⟩⟩⟩)))).2 ∧
      m ≠ 0 + interruptions (happeningsAt "a" kept) := by
  intro begun spent kept
  have hspent : .ended (.ok (.failed .userCancelled none)) 0 ∈
      ((begun.run spent).1.step "a" (.finish (.error .cancelled))).2 := List.mem_of_getElem? (i := 2) rfl
  have hkept : .ended (.ok (.failed .userCancelled none)) 1 ∈
      ((begun.run kept).1.step "a" (.finish (.ok (.signature ⟨[1], ⟨[102, 111, 111], ⟨.sha256, none⟩⟩⟩)))).2 :=
    List.mem_of_getElem? (i := 2) rfl
  exact ⟨⟨0, hspent, by decide⟩, 1, hkept, by decide⟩

end System

end RemoteSigning
