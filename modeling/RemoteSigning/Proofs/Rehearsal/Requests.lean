import RemoteSigning.Proofs.Rehearsal.Backstage
import RemoteSigning.Proofs.Session.Conduct
import RemoteSigning.Proofs.Session.Observed
import RemoteSigning.Rehearsal.Play

/-!
# What the service is asked for on a stage

On a stage on which one session runs, every request that goes out is one of this session: it sends the document that was
to be signed, or a signature. Whatever anybody does in the meantime, and whether or not the run comes to an end, nothing
that has been noted is lost.

- `Outgoing.IsFor`: the requests of a session, `Session.Moves.isFor`: it makes no others;
- `Stage.Sends`: between two stages the session with a name has made such requests only;
- `Stage.proceed_sends`: what a session does, until its run ends or waits;
- `Stage.openAndRun_eq`: how the run of a session begins, `Stage.openAndRun_sends`: all of its requests;
- `Stage.mem_notes_of_mobileId`: the one by which a session with Mobile-ID begins.
-/

namespace RemoteSigning

/-- The requests that a session can make for what it was opened for. -/
inductive Outgoing.IsFor (r : Request) : Outgoing → Prop
  | phase1 (c : Certificate) : IsFor r (.phase1 r.document (some c))
  | phase2 (s : Signature) : IsFor r (.phase2 s)
  | mobileId (p : MobileId) : IsFor r (.mobileId p.personalCode p.phoneNumber r.document)

/-- A call is no request, or one of those. -/
def Call.IsFor (r : Request) (c : Call) : Prop := ∀ o, c = .submit o → o.IsFor r

namespace Session

theorem isFor_call (s : Session) (p : Pending) : (p.call s).IsFor s.request := by
  intro o ho
  cases p with
  | phase1 b c => obtain rfl := Call.submit.inj ho; exact .phase1 c
  | phase2 sig => obtain rfl := Call.submit.inj ho; exact .phase2 sig
  | mobileId p => obtain rfl := Call.submit.inj ho; exact .mobileId p
  | select | fetch | sign => cases ho

/-- A session keeps its request, and makes calls for it. -/
theorem Moves.isFor {s s' : Session} {heard : Option (Except Fault Value)} {calls : List Call}
    {outcomes : List (Except Fault State)} (h : s.Moves heard s' calls outcomes) :
    s'.request = s.request ∧ ∀ c ∈ calls, c.IsFor s.request := by
  cases h with
  | rests hk => exact ⟨hk.request, List.forall_mem_nil _⟩
  | begins => exact ⟨rfl, fun c hc => List.mem_singleton.mp hc ▸ s.isFor_call _⟩
  | goesOn => exact ⟨rfl, fun c hc => List.mem_singleton.mp hc ▸ s.isFor_call _⟩
  | refuses | givesUp | ends | escapes => exact ⟨rfl, List.forall_mem_nil _⟩

end Session

namespace Rehearsal.Stage

variable {st st' st'' : Stage} {id : Text} {r : Request}

/-! ## Requests between two stages -/

/-- The session with a name is there; it was opened for a request, and has gone its way in order. -/
def Signs (st : Stage) (id : Text) (r : Request) : Prop :=
  ∃ s, st.system.session? id = some s ∧ s.request = r ∧ s.Ordered

/-- The event is no request to the service, or one that a session makes for what it was opened for. -/
def Proper (address : Text) (r : Request) (e : Event) : Prop :=
  ∀ exchange url body, e = .cue (.http exchange url body) →
    ∃ o : Outgoing, o.IsFor r ∧ o.endpoint = exchange ∧ o.prepare address = .ok (url, body)

/-- The second stage comes from the first one by what the session with a name, and nobody else, asks of others. -/
structure Sends (id : Text) (r : Request) (st st' : Stage) : Prop where
  cast : st'.cast = st.cast
  signs : st'.Signs id r
  notes : ∃ ns, st'.notes = st.notes ++ ns ∧ ∀ n ∈ ns, Proper st.cast.address r n.event

namespace Sends

theorem refl (hs : st.Signs id r) : Sends id r st st := ⟨rfl, hs, [], by rw [List.append_nil], List.forall_mem_nil _⟩

theorem trans (h : Sends id r st st') (h' : Sends id r st' st'') : Sends id r st st'' := by
  obtain ⟨ns, hns, hproper⟩ := h.notes
  obtain ⟨ns', hns', hproper'⟩ := h'.notes
  rw [h.cast] at hproper'
  refine ⟨h'.cast.trans h.cast, h'.signs, ns ++ ns', ?_, List.forall_mem_append.mpr ⟨hproper, hproper'⟩⟩
  rw [hns', hns, List.append_assoc]

theorem of_backstage (h : st.Backstage st') (hs : st.Signs id r) : Sends id r st st' := by
  obtain ⟨ns, hns, haside⟩ := h.notes
  refine ⟨h.cast, ?_, ns, hns, fun n hn exchange url body he => ?_⟩
  · rw [Signs, h.system]
    exact hs
  · have := haside n hn
    rw [he] at this
    cases this

/-- What is noted stays noted. -/
theorem mem_notes (h : Sends id r st st') {n : Note} (hn : n ∈ st.notes) : n ∈ st'.notes := by
  obtain ⟨ns, hns, -⟩ := h.notes
  rw [hns]
  exact List.mem_append_left ns hn

end Sends

theorem write_sends (hs : st.Signs id r) (lines : List LogLine) : Sends id r st (st.write lines) :=
  .of_backstage (write_backstage st lines) hs

theorem note_sends (hs : st.Signs id r) {e : Event} (he : Proper st.cast.address r e) (session : Option Text) :
    Sends id r st (st.note session e) :=
  ⟨rfl, hs, [⟨session, e⟩], rfl, fun _ hn => List.mem_singleton.mp hn ▸ he⟩

/-- Something happens to the session: it goes on with its request. -/
theorem step_sends (hs : st.Signs id r) (e : Happening) :
    Sends id r st { st with system := (st.system.step id e).1 } ∧
      ∀ c, Output.call c ∈ (st.system.step id e).2 → c.IsFor r := by
  obtain ⟨s, hsession, rfl, hordered⟩ := hs
  obtain ⟨hrequest, hcalls⟩ := (s.moves_step e).isFor
  have hsigns : Signs { st with system := (st.system.step id e).1 } id s.request :=
    ⟨_, System.session?_step_of_session? hsession e, hrequest, Session.ordered_of_moves hordered (s.moves_step e)⟩
  refine ⟨⟨rfl, hsigns, [], (List.append_nil _).symm, List.forall_mem_nil _⟩, fun c hc => hcalls c ?_⟩
  have hshown := System.shows_calls.step st.system id e
  rw [hsession, Session.stepAt] at hshown
  rw [← hshown]
  exact List.mem_filterMap.mpr ⟨_, hc, rfl⟩

/-! ## Calls -/

/-- Only a request that can be sent is one that has to be played. -/
theorem exists_of_perform_http {way : Route} {c : Call} {exchange : Endpoint} {url : Url} {body : Text}
    (h : (st.perform way c).2 = .cue (.http exchange url body)) :
    ∃ o, c = .submit o ∧ o.endpoint = exchange ∧ o.prepare st.cast.address = .ok (url, body) := by
  have hhealth (u : Stage) (b : Handle) : (u.askHealth way b).2 ≠ .cue (.http exchange url body) := by
    unfold askHealth
    split
    · nofun
    · split <;> nofun
    · nofun
  cases c with
  | submit o =>
    simp only [perform] at h
    split at h
    · cases h
    next hp =>
      cases h
      exact ⟨o, rfl, rfl, hp⟩
  | select choice =>
    simp only [perform] at h
    split at h
    · cases h
    · rw [performSelect_eq, takeUp] at h
      split at h
      · exact absurd h (hhealth _ _)
      · cases h
  | fetch b language =>
    simp only [perform] at h
    split at h
    · cases h
    · unfold performFetch askCertificate at h
      dsimp only at h
      split at h
      · split at h <;> cases h
      · cases h
  | sign b d hash language =>
    simp only [perform] at h
    split at h
    · cases h
    · unfold performSign askSignature at h
      dsimp only at h
      split at h
      · split at h
        · split at h <;> cases h
        · cases h
        · cases h
        · cases h
      · cases h

/-- A scripted call of the session is noted. -/
theorem meeting_sends (hs : st.Signs id r) {c : Cue} (hc : Proper st.cast.address r (.cue c)) :
    Sends id r st (st.meeting id c) ∧ ⟨some id, .cue c⟩ ∈ (st.meeting id c).notes := by
  have hnoted : Sends id r st ((st.take c.role).1.note (some id) (.cue c)) :=
    ⟨rfl, hs, [⟨some id, .cue c⟩], rfl, fun _ hn => List.mem_singleton.mp hn ▸ hc⟩
  have hmem : ⟨some id, .cue c⟩ ∈ ((st.take c.role).1.note (some id) (.cue c)).notes :=
    List.mem_append_right _ (List.mem_singleton_self _)
  unfold meeting
  split
  · have hstep := (step_sends hnoted.signs (.cancel true)).1
    have hcancelled := hstep.trans (.of_backstage (cancelWithin_backstage _ id) hstep.signs)
    exact ⟨hnoted.trans hcancelled, hcancelled.mem_notes hmem⟩
  · exact ⟨hnoted, hmem⟩

theorem play_sends (hs : st.Signs id r) {c : Cue} (hc : Proper st.cast.address r (.cue c)) :
    Sends id r st (st.play (.ofSession id) c).1 ∧ ⟨some id, .cue c⟩ ∈ (st.play (.ofSession id) c).1.notes := by
  obtain ⟨hmeeting, hmem⟩ := meeting_sends hs hc
  rw [play_ofSession]
  split
  · exact ⟨⟨hmeeting.cast, hmeeting.signs, hmeeting.notes⟩, hmem⟩
  · have hended := Sends.of_backstage (conclude_backstage (st.meeting id c) (.ofSession id) c
      (st.take c.role).2.result) hmeeting.signs
    exact ⟨hmeeting.trans hended, hended.mem_notes hmem⟩

theorem call_sends (hs : st.Signs id r) {c : Call} (hc : c.IsFor r) :
    Sends id r st (st.call (.ofSession id) c).1 := by
  have hperform := Sends.of_backstage (perform_backstage st (.ofSession id) c) hs
  unfold call
  generalize hp : st.perform (.ofSession id) c = p at hperform
  obtain ⟨u, progress⟩ := p
  cases progress with
  | ended r => exact hperform
  | cue cue =>
    have hproper : Proper u.cast.address r (.cue cue) := by
      intro exchange url body he
      obtain rfl := Event.cue.inj he
      obtain ⟨o, rfl, he, hprepare⟩ := exists_of_perform_http (congrArg Prod.snd hp)
      rw [hperform.cast]
      exact ⟨o, hc o rfl, he, hprepare⟩
    exact hperform.trans (play_sends hperform.signs hproper).1

theorem stop_sends (hs : st.Signs id r) (w : Held) : Sends id r st (st.stop w).1 := by
  have hunheld : Sends id r st (st.unhold w.session) := ⟨rfl, hs, [], (List.append_nil _).symm, List.forall_mem_nil _⟩
  have haside : (Event.interrupted w.cue).isAside = true := rfl
  have hnoted := Sends.of_backstage (note_backstage (st.unhold w.session) (some w.session) haside) hunheld.signs
  exact (hunheld.trans hnoted).trans (.of_backstage (conclude_backstage _ _ w.cue _) hnoted.signs)

/-! ## Runs -/

/-- **What a session does**, until its run ends or waits. The induction is on the calls that can still end at once, and
for each number of them on what is left to be done. -/
theorem proceed_sends (fuel : Nat) (hs : st.Signs id r) {out : List Output}
    (hout : ∀ c, Output.call c ∈ out → c.IsFor r) : Sends id r st (proceed fuel st id out) := by
  induction fuel using Nat.strong_induction_on generalizing st out with
  | _ fuel ih =>
  induction out generalizing st with
  | nil =>
    rw [proceed]
    exact .refl hs
  | cons o rest ihrest =>
    have hrest : ∀ c, Output.call c ∈ rest → c.IsFor r := fun c hc => hout c (List.mem_cons_of_mem o hc)
    have hresumed {u : Stage} (hu : Sends id r st u) (v : Except Fault Value) {n : Nat} (hn : n < fuel) : Sends id r st
        (proceed n { u with system := (u.system.step id (.finish v)).1 } id ((u.system.step id (.finish v)).2 ++ rest)) := by
      obtain ⟨hstep, hcalls⟩ := step_sends hu.signs (.finish v)
      exact hu.trans (hstep.trans (ih n hn hstep.signs fun c hc => (List.mem_append.mp hc).elim (hcalls c) (hrest c)))
    cases o with
    | record r => rw [proceed]; exact (write_sends hs _).trans (ihrest hs hrest)
    | report told =>
      have hproper : Proper st.cast.address r (.report told) := by rintro _ _ _ ⟨⟩
      rw [proceed]
      exact (note_sends hs hproper _).trans (ihrest hs hrest)
    | ended outcome n =>
      have hproper : Proper st.cast.address r (.finished outcome) := by rintro _ _ _ ⟨⟩
      rw [proceed]
      exact (note_sends hs hproper _).trans (ihrest hs hrest)
    | «opened» mobileId length => rw [proceed]; exact (write_sends hs _).trans (ihrest hs hrest)
    | answered b => rw [proceed]; exact ihrest hs hrest
    | call c =>
      rw [proceed]
      have hcalled := call_sends hs (hout c List.mem_cons_self)
      generalize st.call (.ofSession id) c = x at hcalled ⊢
      obtain ⟨u, _ | v⟩ := x
      · exact hcalled.trans (ihrest hcalled.signs hrest)
      · cases fuel with
        | zero => exact hcalled
        | succ fuel => exact hresumed hcalled v fuel.lt_succ_self
    | interrupt =>
      rw [proceed]
      cases st.heldOf? id with
      | none => exact ihrest hs hrest
      | some w =>
        cases fuel with
        | zero => exact stop_sends hs w
        | succ fuel => exact hresumed (stop_sends hs w) _ fuel.lt_succ_self

/-- What follows a call of the session. -/
theorem proceed_call_sends (fuel : Nat) (hs : st.Signs id r) {c : Call} (hc : c.IsFor r) {rest : List Output}
    (hrest : ∀ c, Output.call c ∈ rest → c.IsFor r) :
    Sends id r (st.call (.ofSession id) c).1 (proceed fuel st id (.call c :: rest)) := by
  have hcalled := call_sends hs hc
  rw [proceed]
  generalize st.call (.ofSession id) c = x at hcalled ⊢
  obtain ⟨u, _ | v⟩ := x
  · exact proceed_sends fuel hcalled.signs hrest
  · cases fuel with
    | zero => exact .refl hcalled.signs
    | succ fuel =>
      obtain ⟨hstep, hcalls⟩ := step_sends hcalled.signs (.finish v)
      exact hstep.trans (proceed_sends fuel hstep.signs fun c hc => (List.mem_append.mp hc).elim (hcalls c) (hrest c))

/-- Something happens to the session, and it carries on. -/
theorem stepped_sends (fuel : Nat) (hs : st.Signs id r) (e : Happening) :
    Sends id r st (proceed fuel { st with system := (st.system.step id e).1 } id (st.system.step id e).2) := by
  obtain ⟨hstep, hcalls⟩ := step_sends hs e
  exact hstep.trans (proceed_sends fuel hstep.signs hcalls)

theorem deliverInterrupts_sends (hs : st.Signs id r) (fuel : Nat) : Sends id r st (st.deliverInterrupts id fuel) := by
  induction fuel generalizing st with
  | zero => exact .refl hs
  | succ fuel ih =>
    unfold deliverInterrupts
    split
    · split
      · have hstepped := stepped_sends (mostCalls + 1) hs (.cancel false)
        exact hstepped.trans (ih hstepped.signs)
      · exact .refl hs
    · exact .refl hs

/-! ## The run of a session from its beginning -/

/-- The stage when a session has been opened on it. -/
def opened (c : Cast) (files : FileTree) (id : Text) (r : Request) : Stage :=
  { cast := c, files := files
    system := ⟨c.coordinator, [⟨.fresh id r c.coordinator.mode c.coordinator.language, false⟩]⟩
    log := [⟨.info, "Opened session <id> (" ++ Text.ofString (if r.usesMobileId then "Mobile-ID" else "ID card") ++
      ", " ++ Text.ofNat r.document.length ++ " chars)"⟩] }

theorem happen_open (c : Cast) (files : FileTree) (id : Text) (r : Request) :
    (init c files).happen id (.open r) = opened c files id r := by
  have hproceed : proceed (mostCalls + 1) { opened c files id r with log := [] } id
      [.opened r.usesMobileId r.document.length] = opened c files id r := by
    rw [proceed, proceed]
    rfl
  exact congrArg (deliverInterrupts · id mostCalls) hproceed

/-- The stage when the session has begun its run, and is about to make its first call. -/
def underWay (c : Cast) (files : FileTree) (id : Text) (r : Request) : Stage :=
  { opened c files id r with
    system := ⟨c.coordinator, [⟨(Session.fresh id r c.coordinator.mode c.coordinator.language).begun.calling
      (.first r.signer) 0, true⟩]⟩
    started := [id] }.write [(SessionRecord.transition .idle (Pending.first r.signer).state).line id]

/-- A session that is run for the first time goes on to its first call. -/
theorem step_start {s : System} {id : Text} {x : Session} {reported : Bool} (hm : s.member? id = some ⟨x, reported⟩)
    (hs : x.started = false) (hc : x.cancelRequested = false) (n : Nat) :
    s.step id (.start true n) =
      (s.put ⟨x.begun.calling (.first x.request.signer) n, true⟩,
        [.record (.transition x.state (Pending.first x.request.signer).state),
          .call ((Pending.first x.request.signer).call x)]) := by
  unfold System.step
  rw [hm]
  dsimp only
  rw [Session.start_of_calm hs hc, hs]
  rfl

/-- **The run of a session** begins with its first call. -/
theorem openAndRun_eq (c : Cast) (files : FileTree) (id : Text) (r : Request) :
    (init c files).openAndRun id r =
      (proceed (mostCalls + 1) (underWay c files id r) id
        [.call ((Pending.first r.signer).call (.fresh id r c.coordinator.mode c.coordinator.language))]).deliverInterrupts
        id mostCalls := by
  have hmember : (opened c files id r).system.member? id =
      some ⟨.fresh id r c.coordinator.mode c.coordinator.language, false⟩ := by
    simp [System.member?, opened, Session.fresh]
  rw [openAndRun, happen_open, happen]
  dsimp only
  have hstart : (opened c files id r).noteStart id (.start true 0) = { opened c files id r with started := [id] } := rfl
  rw [hstart]
  dsimp only
  rw [step_start hmember rfl rfl, proceed]
  have hput (m : Member) (hm : m.session.id = id) : (opened c files id r).system.put m = ⟨c.coordinator, [m]⟩ := by
    simp [System.put, System.putMember, opened, Session.fresh, hm]
  rw [hput _ rfl]
  rfl

theorem signs_underWay (c : Cast) (files : FileTree) (id : Text) (r : Request) :
    (underWay c files id r).Signs id r := by
  have hfresh := Session.Ordered.fresh id r c.coordinator.mode c.coordinator.language
  refine ⟨_, ?_, rfl, hfresh.begun.calling rfl (Pending.follows_first r.signer) 0⟩
  simp [System.session?, System.member?, underWay, write, Session.fresh, Session.begun, Session.calling, Session.enter]

/-- **All requests of a run** are for what the session was opened for. -/
theorem openAndRun_sends (c : Cast) (files : FileTree) (id : Text) (r : Request) :
    Sends id r (underWay c files id r) ((init c files).openAndRun id r) := by
  have hfirst := (Session.fresh id r c.coordinator.mode c.coordinator.language).isFor_call (.first r.signer)
  have hproceed := proceed_sends (mostCalls + 1) (signs_underWay c files id r)
    fun c hc => Output.call.inj (List.mem_singleton.mp hc) ▸ hfirst
  rw [openAndRun_eq]
  exact hproceed.trans (deliverInterrupts_sends hproceed.signs _)

/-- **What is noted of a run** is no request to the service, or one for what the session was opened for. -/
theorem proper_of_mem_notes {c : Cast} {files : FileTree} {n : Note}
    (h : n ∈ ((init c files).openAndRun id r).notes) : Proper c.address r n.event := by
  obtain ⟨ns, hns, hproper⟩ := (openAndRun_sends c files id r).notes
  have hnone : (underWay c files id r).notes = [] := rfl
  rw [hns, hnone, List.nil_append] at h
  exact hproper n h

/-- A request that can be sent is played. -/
theorem call_submit {way : Route} {o : Outgoing} {url : Url} {body : Text}
    (h : o.prepare st.cast.address = .ok (url, body)) :
    st.call way (.submit o) = st.play way (.http o.endpoint url body) := by
  simp only [call, perform, h]

/-- The first request of a session with Mobile-ID is noted, if it can be sent. -/
theorem mem_notes_of_mobileId {c : Cast} {p : MobileId} {url : Url} {body : Text} (hr : r.signer = .mobileId p)
    (h : (Outgoing.mobileId p.personalCode p.phoneNumber r.document).prepare c.address = .ok (url, body))
    (files : FileTree) (id : Text) :
    ⟨some id, .cue (.http .mobileId url body)⟩ ∈ ((init c files).openAndRun id r).notes := by
  have hs := signs_underWay c files id r
  have hfor := (Session.fresh id r c.coordinator.mode c.coordinator.language).isFor_call (.first r.signer)
  have hproper : Proper (underWay c files id r).cast.address r (.cue (.http .mobileId url body)) := by
    intro exchange url' body' he
    obtain ⟨rfl, rfl, rfl⟩ := Cue.http.inj (Event.cue.inj he)
    exact ⟨_, .mobileId p, rfl, h⟩
  have hcalled : ⟨some id, .cue (.http .mobileId url body)⟩ ∈ ((underWay c files id r).call (.ofSession id)
      ((Pending.first r.signer).call (.fresh id r c.coordinator.mode c.coordinator.language))).1.notes := by
    have hcall : (underWay c files id r).call (.ofSession id) (.submit (.mobileId p.personalCode p.phoneNumber
        r.document)) = (underWay c files id r).play (.ofSession id) (.http .mobileId url body) := call_submit h
    rw [hr]
    exact hcall ▸ (play_sends hs hproper).2
  have hnone : ∀ c, Output.call c ∈ ([] : List Output) → c.IsFor r := fun _ hc => nomatch hc
  have hproceed := proceed_call_sends (mostCalls + 1) hs hfor hnone
  rw [openAndRun_eq]
  exact (hproceed.trans (deliverInterrupts_sends hproceed.signs _)).mem_notes hcalled

end Rehearsal.Stage

end RemoteSigning
