import RemoteSigning.Proofs.Session.Conduct
import RemoteSigning.Proofs.Session.Continuation

/-!
# What a session does about the end of a call

When a call has ended, its session writes records first. Then it does one thing more: it makes the next call, or its run
ends. So whoever makes the calls of a session has one thing to do at a time.

- `Action.Closes`: records, and at most one thing more; `Session.closes_resume`: this is what a session does;
- `Session.Proceeds`: what that one thing is, `Session.proceeds_resume`.
-/

namespace RemoteSigning

/-! ## Records, and one thing more -/

/-- A call, or the end of a run, or nothing. -/
inductive Action.IsLast : List Action → Prop
  | nothing : IsLast []
  | call (c : Call) : IsLast [.call c]
  | returned (final : State) (n : Nat) : IsLast [.returned final n]
  | raised (f : Fault) (n : Nat) : IsLast [.raised f n]

/-- There are records first, and then at most one thing more. -/
def Action.Closes (l : List Action) : Prop :=
  ∃ (rs : List SessionRecord) (last : List Action), l = rs.map Action.record ++ last ∧ IsLast last

/-- Records are neither calls nor ends. -/
theorem Action.filterMap_records {α : Type} {f : Action → Option α} (hf : ∀ r, f (.record r) = none)
    (rs : List SessionRecord) (last : List Action) :
    (rs.map Action.record ++ last).filterMap f = last.filterMap f := by
  induction rs with
  | nil => rfl
  | cons r rs ih => exact (List.filterMap_cons_none (hf r)).trans ih

namespace Session

variable {s : Session}

theorem Continues.closes {n : Nat} {x : Session × List Action} (h : s.Continues n x) : Action.Closes x.2 := by
  cases h with
  | rests => exact ⟨[], [], rfl, .nothing⟩
  | @goesOn notes p => exact ⟨notes ++ [.transition s.state p.state], _, by simp, .call (p.call s)⟩
  | @ends notes announcement final =>
    exact ⟨notes ++ [announcement, .transition s.state final], _, by simp, .returned final n⟩
  | @stumbles f m => exact ⟨[], _, rfl, .raised f m⟩

/-- A run that continues writes its records, and then makes a call or ends. -/
theorem closes_resume (s : Session) (r : Except Fault Value) : Action.Closes (s.resume r).2 := by
  cases ht : s.run with
  | none => exact ⟨[], [], congrArg Prod.snd (resume_of_idle ht r), .nothing⟩
  | some t => exact (continues_resume ht r).closes

/-! ## What comes of a call -/

/-- A run that has heard of its call makes the next one, if it waits for one. -/
theorem Moves.calls_eq {s' : Session} {r : Except Fault Value} {calls : List Call}
    {outcomes : List (Except Fault State)} (h : s.Moves (some r) s' calls outcomes) :
    calls = s'.waitsFor?.toList := by
  cases h <;> rfl

/-- What comes of a call, and what the session does about it. -/
inductive Proceeds (s : Session) (p : Pending) (r : Reaction (p.call s)) : Session × List Action → Prop
  | goesOn {p' : Pending} {v : Value} {n : Nat} (rs : List SessionRecord) : r.Brings v → p.Leads v p' →
      Proceeds s p r (s.calling p' n, rs.map .record ++ [.call (p'.call (s.calling p' n))])
  | ends {s' : Session} (rs : List SessionRecord) (n : Nat) :
      p.Settles (!r.cancels.isEmpty) r.result s'.state → s'.pending? = none →
        Proceeds s p r (s', rs.map .record ++ [.returned s'.state n])
  | stumbles {v : Value} {f : Fault} (rs : List SessionRecord) (n : Nat) : r.Brings v → p.Escapes false (.ok v) f →
      Proceeds s p r (s.left, rs.map .record ++ [.raised f n])

/-- **What a session does about the end of a call.** -/
theorem proceeds_resume {p : Pending} (h : s.At p) (r : Reaction (p.call s)) :
    s.Proceeds p r ((s.abandon r.cancels).resume r.result) := by
  have hk := s.keeps_abandon r.cancels
  obtain ⟨t, ht, rfl⟩ := exists_run (hk.pending.trans h.pending)
  have ha : (t.pending.call (s.abandon r.cancels)).accepts r.result = true := by
    rw [Pending.call_congr hk.request hk.mode hk.language]
    exact r.accepts_result
  have hmoves := moves_resume ht ha
  have hprogress := progress_of_moves h hmoves
  have hcalls := hmoves.calls_eq
  obtain ⟨rs, last, hl, hlast⟩ := (s.abandon r.cancels).closes_resume r.result
  generalize (s.abandon r.cancels).resume r.result = x at hprogress hcalls hl
  obtain ⟨s', l⟩ := x
  obtain rfl : l = _ := hl
  rw [Action.filterMap_records (by intro r; rfl)] at hprogress hcalls
  generalize ho : last.filterMap Action.outcome? = outcomes at hprogress
  cases hprogress with
  | @goesOn p' v n hv hl =>
    cases hlast with
    | call c =>
      obtain rfl : c = p'.call (s.calling p' n) := List.singleton_inj.mp hcalls
      exact .goesOn rs hv hl
    | nothing | returned | raised => cases hcalls
  | ends he hn =>
    cases hlast with
    | returned final n =>
      obtain rfl : final = s'.state := Except.ok.inj (List.singleton_inj.mp ho)
      exact .ends rs n he hn
    | nothing | call | raised => cases ho
  | stumbles hv he =>
    cases hlast with
    | raised f n =>
      obtain rfl := Except.error.inj (List.singleton_inj.mp ho)
      exact .stumbles rs n hv he
    | nothing | call | returned => cases ho

end Session

end RemoteSigning
