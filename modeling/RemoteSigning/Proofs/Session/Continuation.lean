import RemoteSigning.Proofs.Session.Transitions

/-!
# How a run goes on

When the call that a run waits for has ended, the run makes some notes. Then it goes on to the next call, or ends in a
state that it announces, or is left by a fault. Here this is said with all that is recorded, and with the requests to
cancel the run.

- `SessionRecord.isNote` and `SessionRecord.Announces` tell the records apart;
- `Session.Continues`: what a run does next;
- `Session.continues_start`, `Session.continues_resume`: this is what it does when it begins, and when a call has ended.
-/

namespace RemoteSigning

namespace SessionRecord

/-- The record is about something that was found out on the way. -/
def isNote : SessionRecord → Bool
  | .usingCertificate _ | .foreignHash => true
  | _ => false

/-- The record announces the end in a state. -/
inductive Announces : SessionRecord → State → Prop
  | fails {reason : FailureReason} {cause : Cause} {detail : Option Text} :
      Announces (.failing reason cause) (.failed reason detail)
  | succeeds {mobileId : Bool} {file : Option Text} : Announces (.succeeding mobileId) (.succeeded mobileId file)

end SessionRecord

namespace Session

/-- **What a run does next**, with so many requests to cancel it if it goes on or returns. -/
inductive Continues (s : Session) (n : Nat) : Session × List Action → Prop
  | rests : Continues s n (s, [])
  | goesOn (notes : List SessionRecord) {p : Pending} : (∀ r ∈ notes, r.isNote = true) →
      Continues s n
        (s.calling p n, notes.map .record ++ [.record (.transition s.state p.state), .call (p.call s)])
  | ends (notes : List SessionRecord) {announcement : SessionRecord} {final : State} :
      (∀ r ∈ notes, r.isNote = true) → announcement.Announces final →
      Continues s n
        (s.ended final, notes.map .record ++
          [.record announcement, .record (.transition s.state final), .returned final n])
  | stumbles {f : Fault} {m : Nat} : Continues s n (s.left, [.raised f m])

variable (s : Session) {t : Run}

theorem continues_proceed (p : Pending) (n : Nat) : s.Continues n (s.proceed p n) := .goesOn [] (List.forall_mem_nil _)

theorem continues_fail (reason : FailureReason) (cause : Cause) (n : Nat) : s.Continues n (s.fail reason cause n) :=
  .ends [] (List.forall_mem_nil _) .fails

theorem continues_complete (mobileId : Bool) (c : Completion) (n : Nat) :
    s.Continues n (s.complete mobileId c n) := by
  unfold complete
  split
  · exact .ends [] (List.forall_mem_nil _) .succeeds
  · exact .ends [] (List.forall_mem_nil _) .fails

theorem continues_takeHash (b : Handle) (c : Certificate) (h : HashToSign) (n : Nat) :
    s.Continues n (s.takeHash b c h n) := by
  unfold takeHash
  split
  · exact .stumbles
  · split
    · exact s.continues_proceed _ n
    · exact s.continues_fail _ _ n

theorem continues_takeSignature (h : HashToSign) (sig : Signature) (n : Nat) :
    s.Continues n (s.takeSignature h sig n) := by
  unfold takeSignature
  split
  · exact s.continues_proceed _ n
  · exact .ends [.foreignHash] (by simp [SessionRecord.isNote]) .fails

theorem continues_take (p : Pending) (v : Value) (n : Nat) : s.Continues n (s.take p v n) := by
  unfold take
  split
  · split
    · exact s.continues_fail _ _ n
    · split
      · exact s.continues_fail _ _ n
      · exact s.continues_proceed _ n
  · split
    · exact s.continues_fail _ _ n
    next c _ => exact .goesOn [.usingCertificate c] (by simp [SessionRecord.isNote])
  · split
    · exact s.continues_fail _ _ n
    · exact s.continues_takeHash _ _ _ n
  · split
    · exact s.continues_fail _ _ n
    · exact s.continues_takeSignature _ _ n
  · exact s.continues_complete _ _ n
  · exact s.continues_complete _ _ n
  · exact .rests

variable {s}

/-- A run that begins makes its first call, or ends at once. -/
theorem continues_start (hs : s.started = false) (n : Nat) : s.begun.Continues n (s.start n) := by
  unfold start
  rw [if_neg (by simp [hs])]
  dsimp only
  split
  · exact s.begun.continues_fail _ _ n
  · split
    · exact s.begun.continues_proceed _ n
    · exact s.begun.continues_proceed _ n

/-- When a call has ended, the requests to cancel the run are those from before, less one if the call was cancelled. -/
theorem continues_resume (ht : s.run = some t) (r : Except Fault Value) :
    s.Continues (t.cancels - if r = .error .cancelled then 1 else 0) (s.resume r) := by
  cases r with
  | ok v =>
    have hresume : s.resume (.ok v) = s.take t.pending v t.cancels := by simp [resume, ht]
    rw [hresume, if_neg (by simp)]
    exact s.continues_take _ _ _
  | error f =>
    by_cases hf : f = .cancelled
    · subst hf
      rw [if_pos rfl]
      cases hc : s.cancelRequested with
      | true =>
        have hresume : s.resume (.error .cancelled) = s.fail .userCancelled .none (t.cancels - 1) := by
          simp [resume, ht, hc]
        rw [hresume]
        exact s.continues_fail _ _ _
      | false =>
        have hresume : s.resume (.error .cancelled) = s.escape .cancelled t.cancels := by simp [resume, ht, hc]
        rw [hresume]
        exact .stumbles
    · have hresume : s.resume (.error f) = s.fail (t.pending.failure f).1 (t.pending.failure f).2 t.cancels := by
        simp [resume, ht]
      rw [hresume, if_neg fun h => hf (Except.error.inj h)]
      exact s.continues_fail _ _ _

end Session

end RemoteSigning
