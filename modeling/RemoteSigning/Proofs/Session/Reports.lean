import RemoteSigning.Proofs.Session.Acceptance
import RemoteSigning.Proofs.Session.Refusal

/-!
# What a report gives away

The presenter is told one sentence about a run that has returned. If the service has rejected the document, it is the
word of the service itself; in all other cases it is a fixed sentence, which depends on the category of the outcome and
the language only. No fault, answer, certificate or document can be told from it.

- `HttpAnswer.Rejects` is the answer that rejects, `Session.Life.of_rejected`: where a session has it from;
- `State.Announces` says which outcome has which sentence, `State.Announces.report?`: it is the one that is reported;
- `CoordinatedRun` is a run that the coordinator starts on a network, `CoordinatedRun.reports_determined`: what the
  presenter is told of it.
-/

namespace RemoteSigning

variable {address : Text}

/-! ## Rejection -/

/-- The answer of the service which says, in a word, why a document is not signed. -/
structure HttpAnswer.Rejects (a : HttpAnswer) (e : Endpoint) (word : Text) : Prop where
  status : 200 ≤ a.status ∧ a.status ≤ 299
  body : ∃ members, readBody e a.body = .ok (.object members) ∧ Json.get? members "error" = some (.text word)
  ne_nil : word ≠ []

/-- A completion with an error stands in an answer that rejects. -/
theorem HttpAnswer.rejects_of_read {a : HttpAnswer} {e : Endpoint} {done : Completion}
    (h : readHttpAnswer e a = .ok (.completion done)) (herror : done.error ≠ []) : a.Rejects e done.error := by
  obtain ⟨hstatus, members, hbody, hm⟩ := object_of_readHttpAnswer h
  obtain ⟨hmember, -⟩ := Completion.of_read (read_of_readMembers hm)
  exact ⟨by simpa [isSuccess] using hstatus, ⟨members, hbody, hmember⟩, herror⟩

namespace Pending

/-- No fault of a call counts as a rejection. -/
theorem failure_ne_serverRejected (p : Pending) (f : Fault) : (p.failure f).1 ≠ .serverRejected := by
  intro h
  have hm := p.failure_mem_failures f
  rw [h] at hm
  cases p <;> simp [state, State.failures] at hm

/-- A run that ends with a rejection has heard of it with its last call. -/
theorem Settles.of_rejected {abandoned : Bool} {p : Pending} {r : Except Fault Value} {detail : Option Text}
    (h : p.Settles abandoned r (.failed .serverRejected detail)) :
    ∃ done : Completion, r = .ok (.reply (.completion done)) ∧ done.error ≠ [] ∧ detail = some done.error ∧
      ((∃ sig, p = .phase2 sig) ∨ ∃ m, p = .mobileId m) := by
  generalize hfinal : State.failed .serverRejected detail = final at h
  cases h with
  | fault =>
    obtain ⟨hreason, -⟩ := State.failed.inj hfinal
    exact absurd hreason.symm (failure_ne_serverRejected _ _)
  | @signed sig done =>
    by_cases he : done.error = []
    · rw [done.state_of_error_eq_nil he] at hfinal
      cases hfinal
    · rw [done.state_of_error_ne_nil he] at hfinal
      exact ⟨done, rfl, he, (State.failed.inj hfinal).2, .inl ⟨sig, rfl⟩⟩
  | @signedByPhone m done =>
    by_cases he : done.error = []
    · rw [done.state_of_error_eq_nil he] at hfinal
      cases hfinal
    · rw [done.state_of_error_ne_nil he] at hfinal
      exact ⟨done, rfl, he, (State.failed.inj hfinal).2, .inr ⟨m, rfl⟩⟩
  | _ => cases hfinal

theorem state_ne_failed (p : Pending) (reason : FailureReason) (detail : Option Text) :
    p.state ≠ .failed reason detail := by
  cases p <;> simp [state]

end Pending

/-- What has passed in a session that was rejected: the word in its state is that of the last answer. -/
theorem Session.Life.of_rejected {s : Session} {d : List Turn} (h : s.Life address d) {detail : Option Text}
    (hs : s.state = .failed .serverRejected detail) :
    ∃ o url body a done way, detail = some done.error ∧ done.error ≠ [] ∧
      readHttpAnswer o.endpoint a = .ok (.completion done) ∧
      d = way ++ [.asked (.submit o), .posted o.endpoint url body, .received (.ok a),
        .answered (.ok (.reply (.completion done)))] := by
  cases h with
  | unstarted _ _ hstate => rw [hstate] at hs; cases hs
  | gaveUp _ _ hstate => rw [hstate] at hs; cases hs
  | waiting _ _ hstate => exact absurd (hstate.symm.trans hs) (Pending.state_ne_failed _ _ _)
  | escaped _ _ hstate => exact absurd (hstate.symm.trans hs) (Pending.state_ne_failed _ _ _)
  | settled _ _ ht hh he =>
    rw [hs] at he
    obtain ⟨done, rfl, herror, hdetail, ⟨sig, rfl⟩ | ⟨m, rfl⟩⟩ := he.of_rejected
    · obtain ⟨-, b, cert, url₁, body₁, a₁, -, -, rfl⟩ := ht.phase2
      obtain ⟨url, body, a, reply, hp, ha, hr, rfl⟩ := hh.exists_of_submit
      obtain rfl := Value.reply.inj hr
      refine ⟨.phase2 sig, url, body, a, done, (s.handshake b cert url₁ body₁ a₁ sig).dropLast, hdetail, herror, ha, ?_⟩
      rw [Call.opening_submit hp]
      rfl
    · obtain ⟨-, rfl⟩ := ht.mobileId
      obtain ⟨url, body, a, reply, hp, ha, hr, rfl⟩ := hh.exists_of_submit
      obtain rfl := Value.reply.inj hr
      refine ⟨.mobileId m.personalCode m.phoneNumber s.request.document, url, body, a, done, [], hdetail, herror, ha,
        ?_⟩
      rw [Call.opening_submit hp]
      rfl

/-! ## Sentences -/

/-- The sentence for an outcome that is not a rejection. -/
inductive State.Announces : State → Sentence → Prop
  | signed {file : Option Text} : Announces (.succeeded false file) .signed
  | signedMobileId {file : Option Text} : Announces (.succeeded true file) .signedMobileId
  | backendUnavailable {detail : Option Text} : Announces (.failed .backendUnavailable detail) .backendUnavailable
  | certificateUnavailable {detail : Option Text} :
      Announces (.failed .certificateUnavailable detail) .certificateUnavailable
  | phase1Transport {detail : Option Text} : Announces (.failed .phase1Transport detail) .requestFailed
  | phase1Protocol {detail : Option Text} : Announces (.failed .phase1Protocol detail) .requestFailed
  | phase2Transport {detail : Option Text} : Announces (.failed .phase2Transport detail) .requestFailed
  | signatureDeclined {detail : Option Text} : Announces (.failed .signatureDeclined detail) .signatureDeclined
  | userCancelled {detail : Option Text} : Announces (.failed .userCancelled detail) .userCancelled

namespace State

variable {final final' : State} {m : Sentence}

/-- The message is the sentence. -/
theorem Announces.outcomeMessage (h : final.Announces m) (code : Text) :
    RemoteSigning.outcomeMessage code final = .ok (Text.ofString (m.text (Language.ofCode code))) := by
  cases h <;> rfl

/-- The report of an outcome with a sentence. -/
theorem Announces.report? (h : final.Announces m) (code : Text) :
    RemoteSigning.report? code final = some ⟨final.isSuccess, Text.ofString (m.text (Language.ofCode code))⟩ := by
  rw [RemoteSigning.report?, h.outcomeMessage]

/-- A rejection is passed on as it is. -/
theorem outcomeMessage_rejected {word : Text} (h : word ≠ []) (code : Text) :
    RemoteSigning.outcomeMessage code (.failed .serverRejected (some word)) = .ok word := by
  cases word with
  | nil => exact absurd rfl h
  | cons c t => rfl

/-- The same sentence comes with the same news. -/
theorem Announces.isSuccess_eq (h : final.Announces m) (h' : final'.Announces m) :
    final.isSuccess = final'.isSuccess := by
  cases h <;> cases h' <;> rfl

/-- Every end that is not a rejection has a sentence. -/
theorem announces_of_isTerminal (h : final.isTerminal = true) :
    (∃ m, final.Announces m) ∨ ∃ detail, final = .failed .serverRejected detail := by
  cases final with
  | succeeded mobileId file =>
    cases mobileId with
    | false => exact .inl ⟨_, .signed⟩
    | true => exact .inl ⟨_, .signedMobileId⟩
  | failed reason detail =>
    cases reason with
    | backendUnavailable => exact .inl ⟨_, .backendUnavailable⟩
    | certificateUnavailable => exact .inl ⟨_, .certificateUnavailable⟩
    | phase1Transport => exact .inl ⟨_, .phase1Transport⟩
    | phase1Protocol => exact .inl ⟨_, .phase1Protocol⟩
    | signatureDeclined => exact .inl ⟨_, .signatureDeclined⟩
    | phase2Transport => exact .inl ⟨_, .phase2Transport⟩
    | serverRejected => exact .inr ⟨detail, rfl⟩
    | userCancelled => exact .inl ⟨_, .userCancelled⟩
  | _ => cases h

end State

/-! ## Runs of a coordinator -/

/-- A run that the coordinator starts on a network: what has happened before, the session, how often its task has been
cancelled already, and what happens afterwards. -/
structure CoordinatedRun where
  address : Text
  coordinator : Coordinator
  before : List (Text × Incident)
  id : Text
  cancels : Nat
  after : List (Text × Incident)

namespace CoordinatedRun

variable (r : CoordinatedRun)

def network : Network := ((Network.init r.address r.coordinator).run r.before).1

/-- The start and what follows it. -/
def incidents : List (Text × Incident) := (r.id, .plain (.start true r.cancels)) :: r.after

/-- What leaves the system from the start on. -/
def outputs : List (Text × Output) := (r.network.system.run (r.network.happenings r.incidents)).2

def returned : List State := returnsOf (endsOf r.id r.outputs)

/-- What the presenter has been told about the session. -/
def reports : List Report := reportsOf r.id r.outputs

/-- All that has passed between the session and those that it calls. -/
def turns : List Turn :=
  turnsOf r.id ((Network.init r.address r.coordinator).run (r.before ++ r.incidents)).2

variable {r} {s : Session} {final : State}

/-- A session that has run already is refused. -/
theorem refused_of_started (hs : r.network.session? r.id = some s) (hstarted : s.started = true) :
    ∃ f, (r.network.system.step r.id (.start true r.cancels)).2 = [.ended (.error f) r.cancels] := by
  rw [System.step_start_of_started hs hstarted]
  exact ⟨refusal r.id, rfl⟩

/-- The presenter is told once of a run that has returned, and the session stays in the state that it has returned. -/
theorem reports_eq (hc : r.coordinator.presents = true) (hs : r.network.session? r.id = some s)
    (hstarted : s.started = false) :
    r.reports = r.returned.filterMap (report? r.coordinator.language) ∧
      (r.returned = [] ∨ ∃ final y, r.returned = [final] ∧ final.isTerminal = true ∧
        ((Network.init r.address r.coordinator).run (r.before ++ r.incidents)).1.session? r.id = some y ∧
        y.state = final) := by
  have hsystem : r.network.system = _ := Network.system_run _ r.before
  have hcoordinator : r.network.system.coordinator = r.coordinator := Network.coordinator_run _ r.before
  have hordered : s.Ordered := by
    rw [Network.session?, hsystem] at hs
    exact Session.ordered_of_reachable (System.reachable_of_session? hs)
  have hrun : ((Network.init r.address r.coordinator).run (r.before ++ r.incidents)).1.system =
      (r.network.system.run (r.network.happenings r.incidents)).1 := by
    rw [Network.run_append]
    exact Network.system_run _ _
  have hpresents : r.network.system.coordinator.presents = true := hcoordinator ▸ hc
  have hreports := System.reports_run_start hpresents hs hordered hstarted r.cancels
    ((r.network.step r.id (.plain (.start true r.cancels))).1.happenings r.after)
  rw [← Network.happenings_start, hcoordinator] at hreports
  unfold Network.session?
  rw [hrun]
  exact hreports

/-- The message for a run that has returned: the word of the service, or a sentence. -/
theorem message_of_returned (hc : r.coordinator.presents = true) (hs : r.network.session? r.id = some s)
    (hstarted : s.started = false) (hreturned : r.returned = [final]) :
    ∃ message, r.reports = [⟨final.isSuccess, message⟩] ∧ outcomeMessage r.coordinator.language final = .ok message ∧
      ((∃ o url body a file way, final = .failed .serverRejected (some message) ∧ a.Rejects o.endpoint message ∧
          r.turns = way ++ [.asked (.submit o), .posted o.endpoint url body, .received (.ok a),
            .answered (.ok (.reply (.completion ⟨message, file⟩)))]) ∨
        ∃ m, final.Announces m ∧ message = m.text (Language.ofCode r.coordinator.language)) := by
  obtain ⟨hreports, hnone | ⟨final', y, hreturned', hterminal, hy, hstate⟩⟩ := reports_eq hc hs hstarted
  · rw [hreturned] at hnone
    cases hnone
  · obtain rfl : final = final' := by simpa [hreturned] using hreturned'
    obtain ⟨m, hm⟩ | ⟨detail, hrejected⟩ := State.announces_of_isTerminal hterminal
    · refine ⟨_, ?_, hm.outcomeMessage _, .inr ⟨m, hm, rfl⟩⟩
      simp [hreports, hreturned, hm.report?]
    · have hlife := Network.life_of_session? hy
      obtain ⟨o, url, body, a, ⟨word, file⟩, way, hdetail, hword, ha, hturns⟩ :=
        hlife.of_rejected (hstate.trans hrejected)
      subst hdetail
      have hmessage := State.outcomeMessage_rejected hword r.coordinator.language
      refine ⟨word, ?_, by rw [hrejected]; exact hmessage, .inl ⟨o, url, body, a, file, way, hrejected, ?_, hturns⟩⟩
      · simp [hreports, hreturned, hrejected, report?, hmessage, State.isSuccess]
      · exact HttpAnswer.rejects_of_read ha hword

/-- The report on an outcome with a sentence. -/
theorem reports_of_announces (hc : r.coordinator.presents = true) (hs : r.network.session? r.id = some s)
    (hstarted : s.started = false) (hreturned : r.returned = [final]) {m : Sentence} (hm : final.Announces m) :
    r.reports = [⟨final.isSuccess, m.text (Language.ofCode r.coordinator.language)⟩] := by
  rw [(reports_eq hc hs hstarted).1, hreturned]
  simp [hm.report?]

/-- **What the presenter is told.** A run of a session that has run already is refused. Any other run is reported once
if it returns, and not otherwise. If the service has rejected the document, the message is the word in its last answer;
else it is the sentence for the outcome, in English for the code of English and in Estonian for all other codes. So two
runs with the same sentence and the same language are reported alike. -/
theorem reports_determined (hc : r.coordinator.presents = true) (hs : r.network.session? r.id = some s) :
    (s.started = true →
      ∃ f, (r.network.system.step r.id (.start true r.cancels)).2 = [.ended (.error f) r.cancels]) ∧
    (s.started = false →
      (r.returned = [] ∧ r.reports = [] ∨
        ∃ final message, r.returned = [final] ∧ r.reports = [⟨final.isSuccess, message⟩] ∧
          outcomeMessage r.coordinator.language final = .ok message ∧
          ((∃ o url body a file way, final = .failed .serverRejected (some message) ∧ a.Rejects o.endpoint message ∧
              r.turns = way ++ [.asked (.submit o), .posted o.endpoint url body, .received (.ok a),
                .answered (.ok (.reply (.completion ⟨message, file⟩)))]) ∨
            ∃ m, final.Announces m ∧
              message = m.text (if r.coordinator.language = "en" then .english else .estonian))) ∧
      ∀ (r' : CoordinatedRun) (s' : Session), r'.coordinator.presents = true →
        r'.network.session? r'.id = some s' → s'.started = false →
        ∀ final final' m, r.returned = [final] → r'.returned = [final'] → final.Announces m → final'.Announces m →
          (r.coordinator.language = "en" ↔ r'.coordinator.language = "en") → r.reports = r'.reports) := by
  refine ⟨refused_of_started hs, fun hstarted => ⟨?told, ?alike⟩⟩
  case told =>
    obtain ⟨hreports, hnone | ⟨final, -, hreturned, -⟩⟩ := reports_eq hc hs hstarted
    · exact .inl ⟨hnone, by rw [hreports, hnone]; rfl⟩
    · obtain ⟨message, hmessage⟩ := message_of_returned hc hs hstarted hreturned
      exact .inr ⟨final, message, hreturned, hmessage⟩
  case alike =>
    intro r' s' hc' hs' hstarted' final final' m hreturned hreturned' hm hm' hlanguage
    have hcode : Language.ofCode r.coordinator.language = Language.ofCode r'.coordinator.language := by
      unfold Language.ofCode
      exact if_congr hlanguage rfl rfl
    rw [reports_of_announces hc hs hstarted hreturned hm, reports_of_announces hc' hs' hstarted' hreturned' hm', hcode,
      hm.isSuccess_eq hm']

/-- A run of an English coordinator, up to the first request to the service. -/
def englishRun (after : List (Text × Incident)) : CoordinatedRun where
  address := "https://signing.test"
  coordinator := ⟨.mode .auto, "en", true⟩
  before := [("a", .plain (.open sampleRequest))]
  id := "a"
  cancels := 0
  after := ("a", .plain (.finish (.ok (.backend (some 7))))) ::
    ("a", .plain (.finish (.ok (.certificate ⟨[48], none⟩)))) :: after

/-- The service rejects the signature. -/
def rejectedRun : CoordinatedRun := englishRun
  [("a", .http (.ok ⟨200, "\x7b\"hash\":\"YWJj\",\"algo\":\"SHA-256\"\x7d".toUTF8.toList⟩)),
    ("a", .plain (.finish (.ok (.signature Network.sampleSignature)))),
    ("a", .http (.ok ⟨200, "\x7b\"error\":\"revoked\"\x7d".toUTF8.toList⟩))]

/-- The service is out of order. -/
def unansweredRun : CoordinatedRun := englishRun [("a", .http (.ok ⟨500, []⟩))]

/-- The service answers with nonsense. -/
def garbledRun : CoordinatedRun := englishRun [("a", .http (.ok ⟨200, "[]".toUTF8.toList⟩))]

/-- A service that is out of order, and a coordinator with a language that has no texts of its own. -/
def finnishRun : CoordinatedRun := { unansweredRun with coordinator := ⟨.mode .auto, "fi", true⟩ }

/-- The word of a rejection is passed on; a service that is out of order and one that answers with nonsense sound
alike, and in Estonian to those who speak another language. -/
theorem reports_determined_englishRun :
    rejectedRun.reports = [⟨false, "revoked"⟩] ∧ (∃ e a, HttpAnswer.Rejects a e "revoked") ∧
      unansweredRun.reports = garbledRun.reports ∧ unansweredRun.reports = [⟨false, "Request failed"⟩] ∧
      finnishRun.reports = [⟨false, "Päring ebaõnnestus"⟩] := by
  have hfresh : (rejectedRun.network.session? "a").map Session.started = some false := by decide +kernel
  obtain ⟨s, hs, hstarted⟩ := Option.map_eq_some_iff.mp hfresh
  have hrejected : rejectedRun.returned = [.failed .serverRejected (some "revoked")] := by decide +kernel
  have hunanswered : unansweredRun.returned = [.failed .phase1Transport none] := by decide +kernel
  have hgarbled : garbledRun.returned = [.failed .phase1Protocol none] := by decide +kernel
  have henglish : unansweredRun.reports = [⟨false, "Request failed"⟩] := by decide +kernel
  have hestonian : finnishRun.reports = [⟨false, "Päring ebaõnnestus"⟩] := by decide +kernel
  obtain ⟨-, htold⟩ := reports_determined (r := rejectedRun) rfl hs
  obtain ⟨-, halike⟩ := (reports_determined (r := unansweredRun) rfl hs).2 hstarted
  have halike := halike garbledRun s rfl hs hstarted _ _ _ hunanswered hgarbled .phase1Transport .phase1Protocol Iff.rfl
  obtain ⟨hnone, -⟩ | ⟨final, message, hfinal, hreports, -, hword | ⟨m, hm, -⟩⟩ := (htold hstarted).1
  · exact nomatch hrejected.symm.trans hnone
  · obtain ⟨o, -, -, a, -, -, hstate, ha, -⟩ := hword
    obtain rfl := List.singleton_inj.mp (hrejected.symm.trans hfinal)
    obtain rfl := Option.some.inj (State.failed.inj hstate).2
    exact ⟨hreports, ⟨_, a, ha⟩, halike, henglish, hestonian⟩
  · obtain rfl := List.singleton_inj.mp (hrejected.symm.trans hfinal)
    cases hm

end CoordinatedRun

end RemoteSigning
