import RemoteSigning.Proofs.Session.Moves

/-!
# Sessions in a system

A system does to the session with a name what would be done to the session alone (`Session.stepAt`), and nothing to the
others. So whatever holds of a session that has just been opened, and is kept by every step, holds of all sessions.

- `System.session?_step_self`, `System.Shows.step`: the session after a step, and what is seen of it;
- `System.reachable_of_session?`: every session of a system is reachable.
-/

namespace RemoteSigning

namespace Session

/-- What a happening makes of the session with a name, if there is one, and what the session does. -/
def stepAt (c : Coordinator) (id : Text) : Option Session → Happening → Option Session × List Action
  | some s, h => (some (s.step h).1, (s.step h).2)
  | none, .open request => (some (fresh id request c.mode c.language), [])
  | none, .make request mode language => (some (fresh id request mode language), [])
  | none, _ => (none, [])

/-- A session that opening it and any happenings lead to. -/
inductive Reachable : Session → Prop
  | fresh (id : Text) (request : Request) (mode : ModeChoice) (language : Text) :
      Reachable (fresh id request mode language)
  | step {s : Session} (h : Happening) : Reachable s → Reachable (s.step h).1

theorem id_step (s : Session) (h : Happening) : (s.step h).1.id = s.id := by
  cases h with
  | «open» => rfl
  | make => rfl
  | start _ n => exact id_start s n
  | finish r => exact id_resume s r
  | cancel own => exact id_cancel s own
  | interrupt => exact id_interrupt s

/-- What happens to whatever has a name keeps it reachable. -/
theorem reachable_stepAt {c : Coordinator} {id : Text} {o : Option Session} (h : ∀ s ∈ o, s.Reachable) (e : Happening) :
    ∀ s ∈ (stepAt c id o e).1, s.Reachable := by
  intro s hs
  cases o with
  | some s' =>
    obtain rfl := Option.some.inj hs
    exact .step e (h s' rfl)
  | none =>
    cases e with
    | «open» request => obtain rfl := Option.some.inj hs; exact .fresh ..
    | make => obtain rfl := Option.some.inj hs; exact .fresh ..
    | _ => cases hs

end Session

namespace System

theorem coordinator_step (s : System) (id : Text) (e : Happening) : (s.step id e).1.coordinator = s.coordinator := by
  unfold step
  split <;> rfl

/-! ## What is seen of a step -/

section Seen

variable {β : Type} {f : Output → Option β} {g : Action → Option β}

/-- What is seen of outputs comes from what is seen of the actions that they stand for. -/
structure Shows (f : Output → Option β) (g : Action → Option β) : Prop where
  action : ∀ c reported a, (outputs c reported a).filterMap f = (g a).toList
  opened : ∀ mobileId n, f (.opened mobileId n) = none
  answered : ∀ b, f (.answered b) = none

/-- What is seen of the end of a run, if reports are not seen. -/
theorem filterMap_endOutputs (hf : ∀ r, f (.report r) = none) (c : Coordinator) (reported : Bool) (state : State)
    (n : Nat) : (endOutputs c reported state n).filterMap f = (f (.ended (.ok state) n)).toList := by
  have hend : [Output.ended (.ok state) n].filterMap f = (f (.ended (.ok state) n)).toList := by
    rw [List.filterMap_cons]
    cases f (.ended (.ok state) n) <;> rfl
  unfold endOutputs
  split
  · cases report? c.language state with
    | none => exact hend
    | some r => exact (List.filterMap_cons_none (hf r)).trans hend
  · exact hend

theorem shows_calls : Shows Output.call? Action.call? where
  action c reported a := by
    cases a with
    | returned state n => exact filterMap_endOutputs (fun _ => rfl) c reported state n
    | _ => rfl
  opened _ _ := rfl
  answered _ := rfl

theorem Shows.actions (h : Shows f g) (c : Coordinator) (reported : Bool) (l : List Action) :
    (l.flatMap (outputs c reported)).filterMap f = l.filterMap g := by
  induction l with
  | nil => rfl
  | cons a l ih =>
    rw [List.flatMap_cons, List.filterMap_append, ih, h.action, List.filterMap_cons]
    cases g a <;> rfl

/-- What is seen of a step at the session with a name. -/
theorem Shows.step (h : Shows f g) (s : System) (id : Text) (e : Happening) :
    (s.step id e).2.filterMap f = (Session.stepAt s.coordinator id (s.session? id) e).2.filterMap g := by
  unfold System.step session?
  cases s.member? id with
  | none => cases e <;> simp [Session.stepAt, h.opened]
  | some m => cases e <;> simp [Session.stepAt, Session.step, h.actions, h.answered]

end Seen

/-! ## Sessions after a step -/

theorem session?_put_self (s : System) {id : Text} {m : Member} (h : m.session.id = id) :
    (s.put m).session? id = some m.session := by
  rw [session?, member?_put, if_pos h]
  rfl

/-- What happens to the session with a name. -/
theorem session?_step_self (s : System) (id : Text) (e : Happening) :
    ((s.step id e).1).session? id = (Session.stepAt s.coordinator id (s.session? id) e).1 := by
  cases hm : s.member? id with
  | none =>
    have hn : s.session? id = none := by rw [session?, hm]; rfl
    unfold step
    rw [hm, hn]
    cases e with
    | «open» request => exact session?_put_self s rfl
    | make => exact session?_put_self s rfl
    | _ => exact hn
  | some m =>
    have hs : s.session? id = some m.session := by rw [session?, hm]; rfl
    have hid (h : Happening) : (m.session.step h).1.id = id := (m.session.id_step h).trans (id_of_member? hm)
    unfold step
    rw [hm, hs]
    cases e with
    | «open» => exact hs
    | make => exact hs
    | start reported n => exact session?_put_self s (hid (.start reported n))
    | finish r => exact session?_put_self s (hid (.finish r))
    | cancel own => exact session?_put_self s (hid (.cancel own))
    | interrupt => exact session?_put_self s (hid .interrupt)

/-- What happens to one session keeps all of them reachable. -/
theorem reachable_step {s : System} (h : ∀ id, ∀ x ∈ s.session? id, x.Reachable) (name : Text) (e : Happening) :
    ∀ id, ∀ x ∈ (s.step name e).1.session? id, x.Reachable := by
  intro id
  by_cases hid : name = id
  · subst hid
    rw [session?_step_self]
    exact Session.reachable_stepAt (h name) e
  · rw [session?_step_of_ne s hid]
    exact h id

theorem reachable_run {s : System} (h : ∀ id, ∀ x ∈ s.session? id, x.Reachable) (hs : List (Text × Happening)) :
    ∀ id, ∀ x ∈ (s.run hs).1.session? id, x.Reachable := by
  induction hs generalizing s with
  | nil => exact h
  | cons e hs ih => exact ih (reachable_step h e.1 e.2)

/-- **All sessions of a system are reachable**, whatever has happened to it. -/
theorem reachable_of_session? {c : Coordinator} {hs : List (Text × Happening)} {id : Text} {x : Session}
    (h : ((init c).run hs).1.session? id = some x) : x.Reachable := by
  have h₀ : ∀ id, ∀ x ∈ (init c).session? id, x.Reachable := fun _ _ hx => by cases hx
  exact reachable_run h₀ hs id x h

end System

/-- The request of the runs that are written out. -/
def sampleRequest : Request := ⟨"document", .localToken, by decide⟩

end RemoteSigning
