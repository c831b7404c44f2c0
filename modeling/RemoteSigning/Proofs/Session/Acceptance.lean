import RemoteSigning.Proofs.Session.Isolation

/-!
# Success is the word of the service

A session ends in success when its last call has brought a completion without an error, and not otherwise: neither a
request to stop nor anything else that happens while the last call is under way changes it. What stands in the state
is then what stands in the answer of the service.

- `lastCall?` is the last call of a dialogue, with what it has ended with;
- `Settles.of_isSuccess`, `Settles.isSuccess`: what a run ends with, for success;
- `Network.isSuccess_iff_accepted`: the agreement for every session of a network.
-/

namespace RemoteSigning

variable {address : Text}

/-! ## The last call -/

/-- The last call so far and what it has ended with, after one more turn. -/
def Turn.track : Option (Call × Option (Except Fault Value)) → Turn → Option (Call × Option (Except Fault Value))
  | _, .asked c => some (c, none)
  | some (c, _), .answered r => some (c, some r)
  | last, _ => last

/-- The last call of a dialogue and what it has ended with, if it has ended. -/
def lastCall? (d : List Turn) : Option (Call × Option (Except Fault Value)) := d.foldl Turn.track none

/-- The service completes a signature in this exchange. -/
def Request.lastEndpoint (r : Request) : Endpoint := if r.usesMobileId then .mobileId else .phase2

theorem foldl_track_opening (last : Option (Call × Option (Except Fault Value))) (c : Call) :
    (c.opening address).foldl Turn.track last = some (c, none) := by
  unfold Call.opening
  split
  · rfl
  · split <;> rfl

theorem Call.Hears.foldl_track {c : Call} {r : Except Fault Value} {heard : List Turn} (h : c.Hears address r heard) :
    heard.foldl Turn.track (some (c, none)) = some (c, some r) := by
  cases h with
  | token => rfl
  | @service o outcome _ _ =>
    unfold Outgoing.echo
    split <;> rfl

namespace Session

theorem Trail.lastCall? {s : Session} {p : Pending} {d : List Turn} (ht : s.Trail address p d) :
    lastCall? d = some (p.call s, none) := by
  unfold RemoteSigning.lastCall?
  cases ht with
  | first => exact foldl_track_opening none _
  | next => rw [List.foldl_append]; exact foldl_track_opening _ _

theorem Trail.lastCall?_append {s : Session} {p : Pending} {r : Except Fault Value} {d heard : List Turn}
    (ht : s.Trail address p d) (hh : (p.call s).Hears address r heard) :
    RemoteSigning.lastCall? (d ++ heard) = some (p.call s, some r) := by
  have hd : d.foldl Turn.track none = _ := ht.lastCall?
  rw [RemoteSigning.lastCall?, List.foldl_append, hd, hh.foldl_track]

end Session

/-! ## Ends of runs -/

namespace Pending

theorem isSuccess_state (p : Pending) : p.state.isSuccess = false := by cases p <;> rfl

/-- No call follows the one in which the service completes a signature. -/
theorem isLast_of_call {s : Session} {p : Pending} {o : Outgoing} (hc : p.call s = .submit o)
    (ho : o.endpoint = s.request.lastEndpoint) : p.isLast = true := by
  cases p with
  | phase1 b c =>
    obtain rfl := Call.submit.inj hc
    unfold Request.lastEndpoint at ho
    split at ho <;> cases ho
  | phase2 => rfl
  | mobileId => rfl
  | _ => cases hc

/-- A run that ends in success has heard of it with its last call. -/
theorem Settles.of_isSuccess {abandoned : Bool} {p : Pending} {r : Except Fault Value} {final : State}
    (h : p.Settles abandoned r final) (hf : final.isSuccess = true) :
    ∃ done : Completion, r = .ok (.reply (.completion done)) ∧ done.error = [] ∧
      ((∃ sig, p = .phase2 sig ∧ final = .succeeded false done.signedFile) ∨
        ∃ m, p = .mobileId m ∧ final = .succeeded true done.signedFile) := by
  cases h with
  | @signed sig done =>
    by_cases he : done.error = []
    · exact ⟨done, rfl, he, .inl ⟨sig, rfl, done.state_of_error_eq_nil he false⟩⟩
    · rw [done.state_of_error_ne_nil he] at hf
      cases hf
  | @signedByPhone m done =>
    by_cases he : done.error = []
    · exact ⟨done, rfl, he, .inr ⟨m, rfl, done.state_of_error_eq_nil he true⟩⟩
    · rw [done.state_of_error_ne_nil he] at hf
      cases hf
  | _ => cases hf

/-- A run that hears of success with its last call ends in it. -/
theorem Settles.isSuccess {abandoned : Bool} {p : Pending} {done : Completion} {final : State}
    (h : p.Settles abandoned (.ok (.reply (.completion done))) final) (hp : p.isLast = true) (he : done.error = []) :
    final.isSuccess = true := by
  cases h with
  | tooLate _ hl => exact absurd (hp.symm.trans hl) (by decide)
  | signed => rw [done.state_of_error_eq_nil he]; rfl
  | signedByPhone => rw [done.state_of_error_eq_nil he]; rfl

end Pending

/-! ## Acceptance -/

/-- The answer of the service which says that a document has been signed, and the name of the signed file in it. -/
structure HttpAnswer.Accepts (a : HttpAnswer) (e : Endpoint) (file : Option Text) : Prop where
  status : 200 ≤ a.status ∧ a.status ≤ 299
  body : ∃ members, readBody e a.body = .ok (.object members) ∧ Json.get? members "error" = some (.text []) ∧
    ((Json.get? members "signedfile" = none ∨ Json.get? members "signedfile" = some .null) ∧ file = none ∨
      ∃ t, Json.get? members "signedfile" = some (.text t) ∧ file = some t)

/-- A completion is read from its members, and in no other exchange than the last one. -/
theorem read_of_readMembers {e : Endpoint} {members : List (Text × Json)} {done : Completion}
    (h : readMembers e members = .ok (.completion done)) : Completion.read members = .ok done := by
  cases e with
  | phase1 =>
    unfold readMembers at h
    dsimp only at h
    split at h
    · cases h
    · split at h <;> cases h
  | phase2 | mobileId =>
    unfold readMembers at h
    dsimp only at h
    split at h
    · cases h
    next hr => cases h; exact hr

/-- A completion without an error stands in an answer that accepts. -/
theorem HttpAnswer.accepts_of_read {a : HttpAnswer} {e : Endpoint} {done : Completion}
    (h : readHttpAnswer e a = .ok (.completion done)) (herror : done.error = []) : a.Accepts e done.signedFile := by
  obtain ⟨hstatus, members, hbody, hm⟩ := object_of_readHttpAnswer h
  obtain ⟨hmember, hfile⟩ := Completion.of_read (read_of_readMembers hm)
  rw [herror] at hmember
  exact ⟨by simpa [isSuccess] using hstatus, members, hbody, hmember, hfile⟩

namespace Session

/-- The last exchange of a session in which the service accepts, and what came before it. -/
structure Accepted (s : Session) (o : Outgoing) (a : HttpAnswer) (done : Completion) (way : List Turn) : Prop where
  endpoint : o.endpoint = s.request.lastEndpoint
  answer : readHttpAnswer o.endpoint a = .ok (.completion done)
  error : done.error = []
  state : s.state = .succeeded s.request.usesMobileId done.signedFile
  way_mobileId : s.request.usesMobileId = true → way = []
  way_localToken : s.request.usesMobileId = false →
    ∃ b cert url body a sig, way ++ [.asked (.submit o)] = s.handshake b cert url body a sig

/-- What has passed in a session that ended in success. -/
theorem Life.of_isSuccess {s : Session} {d : List Turn} (h : s.Life address d) (hs : s.state.isSuccess = true) :
    ∃ o url body a done way, s.Accepted o a done way ∧
      d = way ++ [.asked (.submit o), .posted o.endpoint url body, .received (.ok a),
        .answered (.ok (.reply (.completion done)))] := by
  cases h with
  | unstarted _ _ hstate => rw [hstate] at hs; cases hs
  | gaveUp _ _ hstate => rw [hstate] at hs; cases hs
  | waiting _ _ hstate => rw [hstate, Pending.isSuccess_state] at hs; cases hs
  | escaped _ _ hstate => rw [hstate, Pending.isSuccess_state] at hs; cases hs
  | settled _ _ ht hh he =>
    obtain ⟨done, rfl, herror, hp⟩ := he.of_isSuccess hs
    rcases hp with ⟨sig, rfl, hstate⟩ | ⟨m, rfl, hstate⟩
    · obtain ⟨hsigner, b, cert, url₁, body₁, a₁, -, -, rfl⟩ := ht.phase2
      obtain ⟨url, body, a, reply, hp, ha, hr, rfl⟩ := hh.exists_of_submit
      obtain rfl := Value.reply.inj hr
      have hm := Request.usesMobileId_of_localToken hsigner
      refine ⟨.phase2 sig, url, body, a, done, (s.handshake b cert url₁ body₁ a₁ sig).dropLast,
        ⟨?_, ha, herror, ?_, ?_, ?_⟩, ?_⟩
      · rw [Request.lastEndpoint, hm]; rfl
      · rw [hm, hstate]
      · intro hn; exact absurd (hm.symm.trans hn) (by decide)
      · intro _; exact ⟨b, cert, url₁, body₁, a₁, sig, rfl⟩
      · rw [Call.opening_submit hp]; rfl
    · obtain ⟨hsigner, rfl⟩ := ht.mobileId
      obtain ⟨url, body, a, reply, hp, ha, hr, rfl⟩ := hh.exists_of_submit
      obtain rfl := Value.reply.inj hr
      have hm := Request.usesMobileId_of_mobileId hsigner
      refine ⟨.mobileId m.personalCode m.phoneNumber s.request.document, url, body, a, done, [],
        ⟨?_, ha, herror, ?_, ?_, ?_⟩, ?_⟩
      · rw [Request.lastEndpoint, hm]; rfl
      · rw [hm, hstate]
      · intro _; rfl
      · intro hn; exact absurd (hm.symm.trans hn) (by decide)
      · rw [Call.opening_submit hp]; rfl

/-- A session whose last call has brought a completion without an error has ended in success. -/
theorem Life.isSuccess {s : Session} {d : List Turn} (h : s.Life address d) {o : Outgoing} {done : Completion}
    (hl : lastCall? d = some (.submit o, some (.ok (.reply (.completion done)))))
    (ho : o.endpoint = s.request.lastEndpoint) (he : done.error = []) : s.state.isSuccess = true := by
  cases h with
  | unstarted => cases hl
  | gaveUp => cases hl
  | waiting _ _ _ ht =>
    rw [ht.lastCall?] at hl
    exact nomatch (Prod.mk.inj (Option.some.inj hl)).2
  | settled _ _ ht hh hp =>
    rw [ht.lastCall?_append hh] at hl
    obtain ⟨hc, hr⟩ := Prod.mk.inj (Option.some.inj hl)
    obtain rfl := Option.some.inj hr
    exact hp.isSuccess (Pending.isLast_of_call hc ho) he
  | escaped _ _ _ ht hh hp =>
    rw [ht.lastCall?_append hh] at hl
    obtain ⟨-, hr⟩ := Prod.mk.inj (Option.some.inj hl)
    obtain rfl := Option.some.inj hr
    cases hp

end Session

namespace Network

/-- **Success is the word of the service.** A session ends in success exactly if its last call is the one in which the
service completes a signature, and has ended with a completion without an error. Then the last thing on the network is
an answer that accepts, with the file and the signer that stand in the state. A person with Mobile-ID needs no other
exchange; with the local token the handshake comes before, which has one other exchange and one signature. -/
theorem isSuccess_iff_accepted {c : Coordinator} {l : List (Text × Incident)} {id : Text} {s : Session}
    (h : ((init address c).run l).1.session? id = some s) :
    let d := turnsOf id ((init address c).run l).2
    (s.state.isSuccess = true ↔
      ∃ o done, lastCall? d = some (.submit o, some (.ok (.reply (.completion done)))) ∧
        o.endpoint = s.request.lastEndpoint ∧ done.error = []) ∧
    (s.state.isSuccess = true →
      ∃ o url body a file way, o.endpoint = s.request.lastEndpoint ∧
        d = way ++ [.asked (.submit o), .posted o.endpoint url body, .received (.ok a),
          .answered (.ok (.reply (.completion ⟨[], file⟩)))] ∧
        a.Accepts o.endpoint file ∧ s.state = .succeeded s.request.usesMobileId file ∧
        (s.request.usesMobileId = true → way = []) ∧
        (s.request.usesMobileId = false → ∃ b cert url₁ body₁ a₁ sig,
          way ++ [.asked (.submit o)] = s.handshake b cert url₁ body₁ a₁ sig)) := by
  intro d
  have hl := life_of_session? h
  refine ⟨⟨fun hs => ?_, ?_⟩, fun hs => ?_⟩
  · obtain ⟨o, url, body, a, done, way, ha, hd⟩ := hl.of_isSuccess hs
    refine ⟨o, done, ?_, ha.endpoint, ha.error⟩
    have hd : d = _ := hd
    rw [hd, lastCall?, List.foldl_append]
    rfl
  · rintro ⟨o, done, hlast, ho, he⟩
    exact hl.isSuccess hlast ho he
  · obtain ⟨o, url, body, a, ⟨error, file⟩, way, ha, hd⟩ := hl.of_isSuccess hs
    obtain rfl : error = [] := ha.error
    exact ⟨o, url, body, a, file, way, ha.endpoint, hd, HttpAnswer.accepts_of_read ha.answer rfl, ha.state,
      ha.way_mobileId, ha.way_localToken⟩

/-- The run in which the token has signed, and then the service accepts. -/
def acceptedRun : List (Text × Incident) :=
  signedRun.append [("a", .plain (.cancel false)),
    ("a", .http (.ok ⟨200, "\x7b\"error\":\"\",\"signedfile\":\"container.asice\"\x7d".toUTF8.toList⟩))]

theorem isSuccess_iff_accepted_acceptedRun :
    ∃ s o a way, (sampleNetwork.run acceptedRun).1.session? "a" = some s ∧
      s.state = .succeeded false (some "container.asice") ∧ a.Accepts .phase2 (some "container.asice") ∧
      ∃ url body, turnsOf "a" (sampleNetwork.run acceptedRun).2 =
        way ++ [.asked (.submit o), .posted .phase2 url body, .received (.ok a),
          .answered (.ok (.reply (.completion ⟨[], some "container.asice"⟩)))] := by
  have hstate : ((sampleNetwork.run acceptedRun).1.session? "a").map
      (fun s => (s.state, s.request.usesMobileId)) = some (.succeeded false (some "container.asice"), false) := by
    decide +kernel
  obtain ⟨s, hs, hp⟩ := Option.map_eq_some_iff.mp hstate
  obtain ⟨hstate, hm⟩ := Prod.mk.inj hp
  obtain ⟨o, url, body, a, file, way, he, hd, ha, hs', -⟩ :=
    (isSuccess_iff_accepted hs).2 (by rw [hstate]; rfl)
  obtain ⟨-, rfl⟩ := State.succeeded.inj (hs'.symm.trans hstate)
  have he : o.endpoint = .phase2 := by rw [he, Request.lastEndpoint, hm]; rfl
  rw [he] at hd ha
  exact ⟨s, o, a, way, hs, hstate, ha, url, body, hd⟩

end Network

end RemoteSigning
