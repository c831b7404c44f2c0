import RemoteSigning.Session.Machine

/-!
# The course of a run

A run makes one call after another. The end of a call has one of three consequences: the next call follows
(`Pending.Leads`), the run ends in a final state (`Pending.Settles`), or it ends with a fault that escapes
(`Pending.Escapes`). These relations say which, for every pending call and everything that it can end with, and with the
user's request to stop or without it.

- `Leads.not_settles`, `Leads.not_escapes`, `Settles.not_escapes`: there is only one consequence, and `Leads.unique`,
  `Settles.unique`, `Escapes.unique`: it comes in one way;
- `Leads.callsLeft_eq`: with every call there is one less to come.
-/

namespace RemoteSigning

/-- The state in which the word of the service leaves a session. -/
def Completion.state (mobileId : Bool) (c : Completion) : State :=
  if c.succeeded then .succeeded mobileId c.signedFile else .failed .serverRejected (some c.error)

theorem Completion.state_of_error_eq_nil {c : Completion} (h : c.error = []) (mobileId : Bool) :
    c.state mobileId = .succeeded mobileId c.signedFile := by
  simp [state, succeeded, h]

theorem Completion.state_of_error_ne_nil {c : Completion} (h : c.error ≠ []) (mobileId : Bool) :
    c.state mobileId = .failed .serverRejected (some c.error) := by
  simp [state, succeeded, h]

namespace Pending

/-- The first call of a run. -/
def first : Signer → Pending
  | .localToken => .select
  | .mobileId p => .mobileId p

/-- No call follows. -/
def isLast : Pending → Bool
  | .phase2 _ | .mobileId _ => true
  | _ => false

/-- A pending call can have a value. -/
inductive Expects : Pending → Value → Prop
  | backend (handle : Option Handle) : Expects .select (.backend handle)
  | certificate {b : Handle} (c : Certificate) : Expects (.fetch b) (.certificate c)
  | hash {b : Handle} {c : Certificate} (h : HashToSign) : Expects (.phase1 b c) (.reply (.hash h))
  | signature {b : Handle} {c : Certificate} {h : HashToSign} (sig : Signature) :
      Expects (.sign b c h) (.signature sig)
  | completion {sig : Signature} (c : Completion) : Expects (.phase2 sig) (.reply (.completion c))
  | completionByPhone {p : MobileId} (c : Completion) : Expects (.mobileId p) (.reply (.completion c))

/-- A pending call ends with a value, and the next call follows. -/
inductive Leads : Pending → Value → Pending → Prop
  | fetch {b : Handle} : Leads .select (.backend (some b)) (.fetch b)
  | phase1 {b : Handle} {c : Certificate} : Leads (.fetch b) (.certificate c) (.phase1 b c)
  | sign {b : Handle} {c : Certificate} {h : HashToSign} {found : Option KeyType} :
      c.keyType = .ok found → h.algorithm.admits found = true →
        Leads (.phase1 b c) (.reply (.hash h)) (.sign b c h)
  | phase2 {b : Handle} {c : Certificate} {h : HashToSign} {sig : Signature} :
      sig.hash = h → Leads (.sign b c h) (.signature sig) (.phase2 sig)

/-- The end of a pending call ends the run in a state; `abandoned` says that the user has asked for it. -/
inductive Settles (abandoned : Bool) : Pending → Except Fault Value → State → Prop
  | stopped {p : Pending} : abandoned = true → Settles abandoned p (.error .cancelled) (.failed .userCancelled none)
  | tooLate {p : Pending} {v : Value} :
      abandoned = true → p.isLast = false → Settles abandoned p (.ok v) (.failed .userCancelled none)
  | fault {p : Pending} {f : Fault} : f ≠ .cancelled → Settles abandoned p (.error f) (.failed (p.failure f).1 none)
  | noBackend : abandoned = false → Settles abandoned .select (.ok (.backend none)) (.failed .backendUnavailable none)
  | otherKey {b : Handle} {c : Certificate} {h : HashToSign} {found : Option KeyType} :
      abandoned = false → c.keyType = .ok found → h.algorithm.admits found = false →
        Settles abandoned (.phase1 b c) (.ok (.reply (.hash h))) (.failed .phase1Protocol none)
  | foreignHash {b : Handle} {c : Certificate} {h : HashToSign} {sig : Signature} :
      abandoned = false → sig.hash ≠ h →
        Settles abandoned (.sign b c h) (.ok (.signature sig)) (.failed .signatureDeclined none)
  | signed {sig : Signature} {c : Completion} :
      Settles abandoned (.phase2 sig) (.ok (.reply (.completion c))) (c.state false)
  | signedByPhone {p : MobileId} {c : Completion} :
      Settles abandoned (.mobileId p) (.ok (.reply (.completion c))) (c.state true)

/-- The end of a pending call makes the run end with a fault. -/
inductive Escapes (abandoned : Bool) : Pending → Except Fault Value → Fault → Prop
  | cancelled {p : Pending} : abandoned = false → Escapes abandoned p (.error .cancelled) .cancelled
  | key {b : Handle} {c : Certificate} {h : HashToSign} {e : CertificateFault} :
      abandoned = false → c.keyType = .error e → Escapes abandoned (.phase1 b c) (.ok (.reply (.hash h))) e.toFault

/-! ## At most one thing comes of a call -/

/-- The calls of two sessions for the same request, with the same mode and language, are the same. -/
theorem call_congr {s s' : Session} (hrequest : s'.request = s.request) (hmode : s'.mode = s.mode)
    (hlanguage : s'.language = s.language) (p : Pending) : p.call s' = p.call s := by
  cases p <;> simp [call, hrequest, hmode, hlanguage]

/-- A session that waits for a call is not over. -/
theorem isTerminal_state (p : Pending) : p.state.isTerminal = false := by
  cases p <;> rfl

/-- A run ends in a final state. -/
theorem Settles.isTerminal {abandoned : Bool} {p : Pending} {r : Except Fault Value} {final : State}
    (h : p.Settles abandoned r final) : final.isTerminal = true := by
  cases h with
  | @signed _ c => unfold Completion.state; split <;> rfl
  | @signedByPhone _ c => unfold Completion.state; split <;> rfl
  | _ => rfl

/-- So many calls are left when one is pending, itself included. -/
def callsLeft : Pending → Nat
  | .select => 5
  | .fetch _ => 4
  | .phase1 .. => 3
  | .sign .. => 2
  | .phase2 _ | .mobileId _ => 1

theorem callsLeft_pos (p : Pending) : 0 < p.callsLeft := by cases p <;> simp [callsLeft]

theorem callsLeft_first_le (signer : Signer) : (first signer).callsLeft ≤ 5 := by
  cases signer <;> simp [first, callsLeft]

theorem Leads.callsLeft_eq {p p' : Pending} {v : Value} (h : p.Leads v p') : p.callsLeft = p'.callsLeft + 1 := by
  cases h <;> rfl

/-- At most one call follows. -/
theorem Leads.unique {p p' p'' : Pending} {v : Value} (h : p.Leads v p') (h' : p.Leads v p'') : p' = p'' := by
  cases h <;> cases h' <;> rfl

/-- A run that goes on does not end. -/
theorem Leads.not_settles {p p' : Pending} {v : Value} {final : State} (h : p.Leads v p') :
    ¬ p.Settles false (.ok v) final := by
  intro hs
  cases h with
  | fetch => cases hs with | tooLate hn => cases hn
  | phase1 => cases hs with | tooLate hn => cases hn
  | sign hk ha =>
    cases hs with
    | tooLate hn => cases hn
    | otherKey _ hk' ha' =>
      obtain rfl := Except.ok.inj (hk.symm.trans hk')
      exact absurd (ha.symm.trans ha') (by decide)
  | phase2 he =>
    cases hs with
    | tooLate hn => cases hn
    | foreignHash _ hne => exact hne he

/-- A run that goes on does not stumble. -/
theorem Leads.not_escapes {p p' : Pending} {v : Value} {f : Fault} (h : p.Leads v p') :
    ¬ p.Escapes false (.ok v) f := by
  intro he
  cases h with
  | sign hk => cases he with | key _ hk' => exact nomatch hk.symm.trans hk'
  | _ => cases he

/-- A run that ends in a state does not stumble. -/
theorem Settles.not_escapes {p : Pending} {r : Except Fault Value} {final : State} {f : Fault}
    (h : p.Settles false r final) : ¬ p.Escapes false r f := by
  intro he
  cases he with
  | cancelled =>
    cases h with
    | stopped hn => cases hn
    | fault hf => exact hf rfl
  | key _ hk =>
    cases h with
    | tooLate hn => cases hn
    | otherKey _ hk' => exact nomatch hk.symm.trans hk'

/-- A run ends in one state only. -/
theorem Settles.unique {p : Pending} {r : Except Fault Value} {final final' : State} (h : p.Settles false r final)
    (h' : p.Settles false r final') : final = final' := by
  cases h <;> cases h' <;> first | rfl | contradiction

/-- A run stumbles over one fault only. -/
theorem Escapes.unique {p : Pending} {r : Except Fault Value} {f f' : Fault} (h : p.Escapes false r f)
    (h' : p.Escapes false r f') : f = f' := by
  cases h with
  | cancelled => cases h'; rfl
  | key _ hk =>
    cases h' with
    | key _ hk' => rw [Except.error.inj (hk.symm.trans hk')]

end Pending

end RemoteSigning
