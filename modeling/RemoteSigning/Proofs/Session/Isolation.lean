import RemoteSigning.Proofs.Session.Alone

/-!
# Sessions do not mix

A signature goes to the service only in the session that has asked for it, and for the hash, the certificate and the
backend of that session: whatever goes out belongs to a call of the session (`Trail.exists_of_outgoing`), and the call
that sends a signature comes last in a dialogue of fixed shape (`Session.handshake`). The dialogue itself is the one
that the session would have alone.

- `Session.Life.exists_trail`: what has passed is the way to a call, and then at most its end;
- `Network.handshake_of_submit`: all of this for every session of a network.
-/

namespace RemoteSigning

variable {address : Text}

/-! ## What goes out -/

def Turn.isIncoming : Turn → Bool
  | .received _ | .answered _ => true
  | .asked _ | .posted .. => false

/-- What goes out with a call is the call and perhaps its request. -/
theorem Call.mem_opening {c : Call} {t : Turn} (h : t ∈ c.opening address) :
    t = .asked c ∨
      ∃ o url body, c = .submit o ∧ o.prepare address = .ok (url, body) ∧ t = .posted o.endpoint url body := by
  cases c with
  | submit o =>
    cases hp : o.prepare address with
    | ok sent =>
      obtain ⟨url, body⟩ := sent
      rw [opening_submit hp, List.mem_cons, List.mem_singleton] at h
      exact h.imp_right fun h => ⟨o, url, body, rfl, hp, h⟩
    | error f => exact .inl (by simpa [opening, request?, hp] using h)
  | _ => exact .inl (List.mem_singleton.mp h)

/-- With the end of a call everything comes in. -/
theorem Call.Hears.isIncoming {c : Call} {r : Except Fault Value} {heard : List Turn} (h : c.Hears address r heard) :
    ∀ t ∈ heard, t.isIncoming = true := by
  cases h with
  | token => simp [Turn.isIncoming]
  | @service o outcome _ _ =>
    intro t ht
    unfold Outgoing.echo at ht
    rcases List.mem_append.mp ht with ht | ht
    · split at ht
      · rw [List.mem_singleton.mp ht]; rfl
      · cases ht
    · rw [List.mem_singleton.mp ht]; rfl

theorem filterMap_call?_of_isIncoming {l : List Turn} (h : ∀ t ∈ l, t.isIncoming = true) :
    l.filterMap Turn.call? = [] := by
  rw [List.filterMap_eq_nil_iff]
  intro t ht
  cases t with
  | asked => cases h _ ht
  | _ => rfl

/-- After the call itself nothing else is called when it goes out. -/
theorem Call.filterMap_call?_tail_opening (c : Call) : (c.opening address).tail.filterMap Turn.call? = [] := by
  unfold opening
  split
  · rfl
  · split <;> rfl

theorem Pending.eq_phase2_of_call {s : Session} {p : Pending} {sig : Signature}
    (h : p.call s = .submit (.phase2 sig)) : p = .phase2 sig := by
  cases p <;> simp_all [call]

namespace Session

/-- What goes out on the way to a call belongs to this call or to one that another has followed. -/
theorem Trail.exists_of_outgoing {s : Session} {p : Pending} {d : List Turn} (ht : s.Trail address p d) {t : Turn}
    (hm : t ∈ d) (ho : t.isIncoming = false) :
    ∃ q : Pending, t ∈ (q.call s).opening address ∧ (q = p ∨ ∃ v q', q.Leads v q') := by
  -- The induction is on the way to the call; the end of each call on it only comes in.
  induction ht with
  | first => exact ⟨_, hm, .inl rfl⟩
  | next _ hh hl ih =>
    rcases List.mem_append.mp hm with hm | hm
    · rcases List.mem_append.mp hm with hm | hm
      · obtain ⟨q, hq, hlast⟩ := ih hm
        refine ⟨q, hq, .inr ?_⟩
        rcases hlast with rfl | hlast
        · exact ⟨_, _, hl⟩
        · exact hlast
      · exact absurd ((hh.isIncoming t hm).symm.trans ho) (by decide)
    · exact ⟨_, hm, .inl rfl⟩

/-- What goes out does so before the end of the last call. -/
theorem mem_way {way heard : List Turn} {t : Turn} (hh : ∀ t ∈ heard, t.isIncoming = true) (ho : t.isIncoming = false)
    (hm : t ∈ way ++ heard) : t ∈ way := by
  rcases List.mem_append.mp hm with hm | hm
  · exact hm
  · exact absurd ((hh t hm).symm.trans ho) (by decide)

/-- What has passed is the way to a call and then at most its end. -/
theorem Life.exists_trail {s : Session} {d : List Turn} (h : s.Life address d) (hd : d ≠ []) :
    ∃ p way heard, s.Trail address p way ∧ d = way ++ heard ∧ ∀ t ∈ heard, t.isIncoming = true := by
  cases h with
  | unstarted => exact absurd rfl hd
  | gaveUp => exact absurd rfl hd
  | waiting _ _ _ ht => exact ⟨_, d, [], ht, by simp, by simp⟩
  | settled _ _ ht hh => exact ⟨_, _, _, ht, rfl, hh.isIncoming⟩
  | escaped _ _ _ ht hh => exact ⟨_, _, _, ht, rfl, hh.isIncoming⟩

/-- No call follows the one that sends a signature. -/
theorem Trail.eq_phase2_of_asked {s : Session} {p : Pending} {d : List Turn} (ht : s.Trail address p d)
    {sig : Signature} (hm : .asked (.submit (.phase2 sig)) ∈ d) : p = .phase2 sig := by
  obtain ⟨q, hq, hlast⟩ := ht.exists_of_outgoing hm rfl
  rcases Call.mem_opening hq with hc | ⟨_, _, _, -, -, hc⟩
  · obtain rfl := Pending.eq_phase2_of_call (Turn.asked.inj hc).symm
    rcases hlast with rfl | ⟨_, _, hl⟩
    · rfl
    · cases hl
  · cases hc

/-- A request for the second exchange is that of the pending call. -/
theorem Trail.exists_of_posted {s : Session} {p : Pending} {d : List Turn} (ht : s.Trail address p d) {url : Url}
    {body : Text} (hm : .posted .phase2 url body ∈ d) :
    ∃ sig, p = .phase2 sig ∧ (Outgoing.phase2 sig).prepare address = .ok (url, body) := by
  obtain ⟨q, hq, hlast⟩ := ht.exists_of_outgoing hm rfl
  rcases Call.mem_opening hq with hc | ⟨o, _, _, hs, hp, hc⟩
  · cases hc
  · obtain ⟨he, rfl, rfl⟩ := Turn.posted.inj hc
    cases o with
    | phase2 sig =>
      obtain rfl := Pending.eq_phase2_of_call hs
      rcases hlast with rfl | ⟨_, _, hl⟩
      · exact ⟨sig, rfl, hp⟩
      · cases hl
    | _ => cases he

end Session

/-! ## Isolation -/

namespace Network

/-- **Sessions do not mix.** The turns of a session are those that it would have alone. A request for the second
exchange carries a signature which the session itself passes on, and a session passes one on at the end of its own
handshake: the token has made it, at the session's only request, with the session's backend and certificate, over the
hash in the answer to the session's own first request, which carries the same certificate. -/
theorem handshake_of_submit (address : Text) (c : Coordinator) (l : List (Text × Incident)) (id : Text) :
    let d := turnsOf id ((init address c).run l).2
    d = turnsOf id ((init address c).run (l.filter (·.1 = id))).2 ∧
      (∀ url body, .posted .phase2 url body ∈ d →
        ∃ sig, .submit (.phase2 sig) ∈ d.filterMap Turn.call? ∧ body = (Outgoing.phase2 sig).text) ∧
      ∀ sig, .submit (.phase2 sig) ∈ d.filterMap Turn.call? →
        ∃ s b cert url body a, ((init address c).run l).1.session? id = some s ∧
          s.handshake b cert url body a sig <+: d ∧
          body = (Outgoing.phase1 s.request.document (some cert)).text ∧
          readHttpAnswer .phase1 a = .ok (.hash sig.hash) ∧
          d.filterMap Turn.call? = [.select s.mode, .fetch b s.language,
            .submit (.phase1 s.request.document (some cert)), .sign b cert sig.hash s.language,
            .submit (.phase2 sig)] := by
  intro d
  refine ⟨?_, ?_, ?_⟩
  · have ha := (init address c).run_alone id l
    have hb := (init address c).run_alone id (l.filter (·.1 = id))
    rw [incidentsAt_filter, ← ha] at hb
    exact (Prod.mk.inj hb).2.symm
  · intro url body hm
    obtain ⟨s, -, hl⟩ := exists_life hm
    obtain ⟨p, way, heard, ht, hd, hh⟩ := hl.exists_trail (List.ne_nil_of_mem hm)
    have hway : .posted .phase2 url body ∈ way := Session.mem_way hh rfl (hd ▸ hm)
    obtain ⟨sig, rfl, hp⟩ := ht.exists_of_posted hway
    refine ⟨sig, ?_, Outgoing.eq_text_of_prepare hp⟩
    obtain ⟨-, b, cert, url₁, body₁, a, -, -, rfl⟩ := ht.phase2
    have : d = _ := hd
    rw [this]
    simp [Session.handshake, Turn.call?]
  · intro sig hm
    obtain ⟨t, htd, hc⟩ := List.mem_filterMap.mp hm
    obtain rfl := Turn.eq_asked_of_call? hc
    obtain ⟨s, hs, hl⟩ := exists_life htd
    obtain ⟨p, way, heard, ht, hd, hh⟩ := hl.exists_trail (List.ne_nil_of_mem htd)
    have hway : .asked (.submit (.phase2 sig)) ∈ way := Session.mem_way hh rfl (hd ▸ htd)
    obtain rfl := ht.eq_phase2_of_asked hway
    obtain ⟨-, b, cert, url, body, a, hp, ha, rfl⟩ := ht.phase2
    have hd : d = _ := hd
    refine ⟨s, b, cert, url, body, a, hs, ?_, Outgoing.eq_text_of_prepare hp, ha, ?_⟩
    · rw [hd, List.append_assoc]
      exact List.prefix_append ..
    · rw [hd, List.filterMap_append, List.filterMap_append, Call.filterMap_call?_tail_opening,
        filterMap_call?_of_isIncoming hh]
      rfl

/-- A network without any sessions yet. -/
def sampleNetwork : Network := init "https://signing.test" ⟨.mode .auto, "en", false⟩

/-- The signature in the run below. -/
def sampleSignature : Signature := ⟨[1, 2, 3], ⟨[97, 98, 99], ⟨.sha256, none⟩⟩⟩

/-- Two sessions side by side, of which the first is signed by the token and the second has no backend. -/
def signedRun : List (Text × Incident) :=
  [("a", .plain (.open sampleRequest)), ("a", .plain (.start false 0)),
    ("b", .plain (.open sampleRequest)), ("b", .plain (.start false 0)),
    ("a", .plain (.finish (.ok (.backend (some 7))))), ("b", .plain (.finish (.ok (.backend none)))),
    ("a", .plain (.finish (.ok (.certificate ⟨[48], none⟩)))),
    ("a", .http (.ok ⟨200, "\x7b\"hash\":\"YWJj\",\"algo\":\"SHA-256\"\x7d".toUTF8.toList⟩)),
    ("a", .plain (.finish (.ok (.signature sampleSignature))))]

theorem handshake_of_submit_signedRun :
    ∃ s b cert url body a, (sampleNetwork.run signedRun).1.session? "a" = some s ∧
      s.handshake b cert url body a sampleSignature <+:
        turnsOf "a" (sampleNetwork.run signedRun).2 := by
  have hm : .submit (.phase2 sampleSignature) ∈
      (turnsOf "a" (sampleNetwork.run signedRun).2).filterMap Turn.call? := by
    decide +kernel
  obtain ⟨s, b, cert, url, body, a, hs, hd, -⟩ := (handshake_of_submit _ _ signedRun "a").2.2 _ hm
  exact ⟨s, b, cert, url, body, a, hs, hd⟩

end Network

end RemoteSigning
