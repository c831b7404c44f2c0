import RemoteSigning.Proofs.Session.Moves

/-!
# The dialogue of a session with those that it calls

On the network a session deals with its own calls only. What passes between it and the others is, call by call, the
call itself and its end (`Call.Hears`), and the next call is made because of what the one before ended with
(`Session.Trail`).

- `Call.Hears.exists_of_submit`: what has come in when a call to the service ends with a value;
- `Session.handshake` is the whole of a dialogue with the local token up to the second exchange;
- `Trail.select` to `Trail.mobileId`: all that can have passed when a call is under way.
-/

namespace RemoteSigning

variable {address : Text}

/-! ## Ends of calls -/

/-- What comes in with the end of a call: an answer of the token, or the end of a request and what it means. -/
inductive Call.Hears (address : Text) : Call → Except Fault Value → List Turn → Prop
  | token {c : Call} {r : Except Fault Value} : c.request? = none → c.accepts r = true → Hears address c r [.answered r]
  | service {o : Outgoing} {outcome : Except Fault HttpAnswer} {r : Except Fault Value} :
      r = o.result address outcome → Hears address (.submit o) r (o.echo address outcome ++ [.answered r])

/-- A call ends with something that it can end with. -/
theorem Call.Hears.accepts {c : Call} {r : Except Fault Value} {heard : List Turn} (h : c.Hears address r heard) :
    c.accepts r = true := by
  cases h with
  | token _ ha => exact ha
  | service hr => exact hr ▸ Call.accepts_result ..

/-- A call that needs no request ends with an answer of the token. -/
theorem Call.Hears.eq_of_request?_eq_none {c : Call} {r : Except Fault Value} {heard : List Turn}
    (h : c.Hears address r heard) (hc : c.request? = none) : heard = [.answered r] := by
  cases h with
  | token => rfl
  | service => cases hc

/-- A call to the service ends with a value if its request went out and brought an answer that could be read. -/
theorem Call.Hears.exists_of_submit {o : Outgoing} {v : Value} {heard : List Turn}
    (h : (Call.submit o).Hears address (.ok v) heard) :
    ∃ url body a reply, o.prepare address = .ok (url, body) ∧ readHttpAnswer o.endpoint a = .ok reply ∧
      v = .reply reply ∧ heard = [.received (.ok a), .answered (.ok v)] := by
  cases h with
  | token hc => cases hc
  | @service _ outcome _ hr =>
    unfold Outgoing.result at hr
    cases hc : o.conclude address outcome with
    | error f => simp [hc, Except.map] at hr
    | ok reply =>
      obtain ⟨url, body, a, hp, rfl, -, ha⟩ := Outgoing.conclude_eq_ok_iff.mp hc
      rw [hc] at hr
      exact ⟨url, body, a, reply, hp, ha, Except.ok.inj hr, by rw [Outgoing.echo_of_prepared hp]; rfl⟩

namespace Session

/-! ## Dialogues -/

/-- What comes in with what a session hears from its pending call. -/
inductive Overhears (address : Text) (s : Session) : Option (Except Fault Value) → List Turn → Prop
  | nothing : Overhears address s none []
  | answer {p : Pending} {r : Except Fault Value} {heard : List Turn} :
      s.pending? = some p → (p.call s).Hears address r heard → Overhears address s (some r) heard

/-- All that passes until a call is under way. -/
inductive Trail (address : Text) (s : Session) : Pending → List Turn → Prop
  | first {p : Pending} : p = .first s.request.signer → Trail address s p ((p.call s).opening address)
  | next {p p' : Pending} {v : Value} {d heard : List Turn} :
      Trail address s p d → (p.call s).Hears address (.ok v) heard → p.Leads v p' →
        Trail address s p' (d ++ heard ++ (p'.call s).opening address)

theorem Trail.congr {s : Session} {p : Pending} {d : List Turn} (h : s.Trail address p d) (s' : Session)
    (hrequest : s'.request = s.request) (hmode : s'.mode = s.mode) (hlanguage : s'.language = s.language) :
    s'.Trail address p d := by
  have hcall := Pending.call_congr hrequest hmode hlanguage
  induction h with
  | first hp =>
    rw [← hcall]
    exact .first (hrequest ▸ hp)
  | next _ hh hl ih =>
    rw [← hcall] at hh ⊢
    exact .next ih hh hl

/-! ## What has passed when a call is under way -/

section Trails

variable {s : Session} {d : List Turn} {b : Handle} {c : Certificate} {h : HashToSign} {sig : Signature}

/-- All that passes on the way of a session with the local token to the second exchange. -/
def handshake (s : Session) (b : Handle) (c : Certificate) (url : Url) (body : Text) (a : HttpAnswer)
    (sig : Signature) : List Turn :=
  [.asked (.select s.mode), .answered (.ok (.backend (some b))),
    .asked (.fetch b s.language), .answered (.ok (.certificate c)),
    .asked (.submit (.phase1 s.request.document (some c))), .posted .phase1 url body, .received (.ok a),
    .answered (.ok (.reply (.hash sig.hash))),
    .asked (.sign b c sig.hash s.language), .answered (.ok (.signature sig)),
    .asked (.submit (.phase2 sig))]

theorem Trail.select (ht : s.Trail address .select d) :
    s.request.signer = .localToken ∧ d = [.asked (.select s.mode)] := by
  cases ht with
  | first hp =>
    cases hs : s.request.signer with
    | localToken => exact ⟨rfl, rfl⟩
    | mobileId p => rw [hs] at hp; cases hp
  | next _ _ hl => cases hl

theorem Trail.fetch (ht : s.Trail address (.fetch b) d) :
    s.request.signer = .localToken ∧
      d = [.asked (.select s.mode), .answered (.ok (.backend (some b))), .asked (.fetch b s.language)] := by
  cases ht with
  | first hp => cases hs : s.request.signer <;> rw [hs] at hp <;> cases hp
  | next ht hh hl =>
    cases hl
    obtain ⟨hs, rfl⟩ := ht.select
    obtain rfl := hh.eq_of_request?_eq_none rfl
    exact ⟨hs, rfl⟩

theorem Trail.phase1 (ht : s.Trail address (.phase1 b c) d) :
    s.request.signer = .localToken ∧
      d = [.asked (.select s.mode), .answered (.ok (.backend (some b))), .asked (.fetch b s.language),
        .answered (.ok (.certificate c))] ++
        (Call.submit (.phase1 s.request.document (some c))).opening address := by
  cases ht with
  | first hp => cases hs : s.request.signer <;> rw [hs] at hp <;> cases hp
  | next ht hh hl =>
    cases hl
    obtain ⟨hs, rfl⟩ := ht.fetch
    obtain rfl := hh.eq_of_request?_eq_none rfl
    exact ⟨hs, rfl⟩

theorem Trail.sign (ht : s.Trail address (.sign b c h) d) :
    s.request.signer = .localToken ∧ ∃ url body a,
      (Outgoing.phase1 s.request.document (some c)).prepare address = .ok (url, body) ∧
      readHttpAnswer .phase1 a = .ok (.hash h) ∧
      d = [.asked (.select s.mode), .answered (.ok (.backend (some b))), .asked (.fetch b s.language),
        .answered (.ok (.certificate c)), .asked (.submit (.phase1 s.request.document (some c))),
        .posted .phase1 url body, .received (.ok a), .answered (.ok (.reply (.hash h))),
        .asked (.sign b c h s.language)] := by
  cases ht with
  | first hp => cases hs : s.request.signer <;> rw [hs] at hp <;> cases hp
  | next ht hh hl =>
    cases hl
    obtain ⟨hs, rfl⟩ := ht.phase1
    obtain ⟨url, body, a, reply, hp, ha, hr, rfl⟩ := hh.exists_of_submit
    obtain rfl := Value.reply.inj hr
    refine ⟨hs, url, body, a, hp, ha, ?_⟩
    rw [Call.opening_submit hp]
    rfl

/-- A session that is about to send a signature has got it for its own hash, in a dialogue of its own. -/
theorem Trail.phase2 (ht : s.Trail address (.phase2 sig) d) :
    s.request.signer = .localToken ∧ ∃ b c url body a,
      (Outgoing.phase1 s.request.document (some c)).prepare address = .ok (url, body) ∧
      readHttpAnswer .phase1 a = .ok (.hash sig.hash) ∧
      d = s.handshake b c url body a sig ++ ((Call.submit (.phase2 sig)).opening address).tail := by
  cases ht with
  | first hp => cases hs : s.request.signer <;> rw [hs] at hp <;> cases hp
  | next ht hh hl =>
    cases hl with
    | @phase2 b c h _ hsig =>
      subst hsig
      obtain ⟨hs, url, body, a, hp, ha, rfl⟩ := ht.sign
      obtain rfl := hh.eq_of_request?_eq_none rfl
      exact ⟨hs, b, c, url, body, a, hp, ha, rfl⟩

theorem Trail.mobileId {p : MobileId} (ht : s.Trail address (.mobileId p) d) :
    s.request.signer = .mobileId p ∧
      d = (Call.submit (.mobileId p.personalCode p.phoneNumber s.request.document)).opening address := by
  cases ht with
  | first hp =>
    cases hs : s.request.signer with
    | localToken => rw [hs] at hp; cases hp
    | mobileId q => rw [hs] at hp; obtain rfl := Pending.mobileId.inj hp; exact ⟨rfl, rfl⟩
  | next _ _ hl => cases hl

end Trails

end Session

end RemoteSigning
