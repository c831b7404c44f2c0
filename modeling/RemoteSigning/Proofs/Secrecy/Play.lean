import RemoteSigning.Proofs.Secrecy.Runs
import RemoteSigning.Rehearsal.Play

/-!
# Two plays that differ in secrets

The same steps are taken on two stages whose casts differ in secrets only: in the PINs that users enter and in the
signatures that cards make. What the steps yield, what is noted and what is told of the sessions differs in these
secrets only.

- `StepResult.Alike`, `StepReport.Alike`, `Play.Chronicle.Alike`: what differs in secrets only;
- `perform_alike`, `step_alike`, `steps_alike`: one step, and many;
- `run_alike`: a whole play.
-/

namespace RemoteSigning.Rehearsal

variable {L : Likeness}

/-! ## What is alike -/

/-- Two results of a step. Whether a signature is recognised as one under a key is the same unless the signatures
differ. -/
inductive StepResult.Alike (L : Likeness) : StepResult → StepResult → Prop
  | same (r : StepResult) : Alike L r r
  | signed {v w : Bytes} (sameHash : Bool) {r r' : Option Bool} :
      L.alike v w → (v = w → r = r') → Alike L (.signed v sameHash r) (.signed w sameHash r')

/-- Two entries under the same name. -/
structure EntryAlike {α : Type} (R : α → α → Prop) (e e' : Text × α) : Prop where
  name : e.1 = e'.1
  entry : R e.2 e'.2

structure StepReport.Alike (L : Likeness) (r r' : StepReport) : Prop where
  result : r.result.Alike L r'.result
  notes : List.Forall₂ (Note.Alike L) r.notes r'.notes
  states : List.Forall₂ (EntryAlike (State.Alike L)) r.states r'.states

/-- Two plays that differ in secrets only. -/
structure Play.Alike (L : Likeness) (p p' : Play) : Prop where
  stage : p.stage.Alike L p'.stage
  handles : p.handles = p'.handles
  certificates : p.certificates = p'.certificates

/-- What became of two plays, up to secrets. -/
structure Play.Chronicle.Alike (L : Likeness) (k k' : Play.Chronicle) : Prop where
  reports : List.Forall₂ (StepReport.Alike L) k.reports k'.reports
  histories : List.Forall₂ (EntryAlike (List.Forall₂ (State.Alike L))) k.histories k'.histories
  log : k.log = k'.log

/-! ## On the stage -/

namespace Stage

variable {st st' : Stage}

/-- Nothing is noted yet. -/
theorem Alike.forget (h : st.Alike L st') : Alike L { st with notes := [] } { st' with notes := [] } :=
  { h with notes := .nil }

theorem cancel_alike (h : st.Alike L st') (id : Text) : YieldAlike L Eq (st.cancel id) (st'.cancel id) := by
  have hout := (System.step_alike h.system id (.same (.cancel false))).2
  refine ⟨happen_alike h id (.same _), ?_⟩
  unfold cancel
  generalize (st.system.step id (.cancel false)).2 = out at hout ⊢
  generalize (st'.system.step id (.cancel false)).2 = out' at hout ⊢
  dsimp only
  induction hout with
  | nil => rfl
  | cons ho _ ih =>
    rw [List.any_cons, List.any_cons, ih]
    cases ho <;> rfl

theorem openAndRun_alike (h : st.Alike L st') (id : Text) (r : Request) :
    (st.openAndRun id r).Alike L (st'.openAndRun id r) :=
  happen_alike (happen_alike h id (.same _)) id (.same _)

theorem signPresented_alike (h : st.Alike L st') (id : Text) (person : Option (Text × Text)) :
    (st.signPresented id person).Alike L (st'.signPresented id person) := by
  unfold signPresented
  rw [h.cast.presenter]
  dsimp only
  split
  · exact h.note _ (.same _)
  · split
    · exact h.note _ (.same _)
    · split
      · exact h.note _ (.same _)
      · exact openAndRun_alike h id _

theorem finishCall_alike (h : st.Alike L st') (way : Route) {p p' : Progress} (hp : p.Alike L p') :
    YieldAlike L (EndAlike (Value.Alike L)) (st.finishCall way p) (st'.finishCall way p') := by
  cases hp with
  | ended hr => exact ⟨h, hr⟩
  | cue hc =>
    have hplayed := play_alike h way hc
    rw [finishCall, finishCall]
    generalize st.play way _ = r at hplayed ⊢
    generalize st'.play way _ = r' at hplayed ⊢
    obtain ⟨u, r⟩ := r
    obtain ⟨u', r'⟩ := r'
    obtain ⟨hu, hr⟩ := hplayed
    cases hr with
    | none => exact ⟨hu, .error _⟩
    | some hr => exact ⟨hu, hr⟩

theorem states_alike (h : st.Alike L st') : List.Forall₂ (EntryAlike (State.Alike L)) st.states st'.states :=
  List.rel_map (fun _ _ hm => ⟨hm.session.id, hm.session.state⟩) h.system.members

theorem histories_alike (h : st.Alike L st') :
    List.Forall₂ (EntryAlike (List.Forall₂ (State.Alike L))) st.histories st'.histories :=
  List.rel_map (fun _ _ hm => ⟨hm.session.id, hm.session.history⟩) h.system.members

end Stage

/-! ## Steps -/

namespace Play

variable {p p' : Play}

/-- What two plays become, and what their steps yield. -/
def YieldsAlike (L : Likeness) (r r' : Play × StepResult) : Prop := r.1.Alike L r'.1 ∧ r.2.Alike L r'.2

theorem Alike.setStage (h : p.Alike L p') {st st' : Stage} (hst : st.Alike L st') :
    Alike L { p with stage := st } { p' with stage := st' } := { h with stage := hst }

theorem Alike.handle? (h : p.Alike L p') : p.handle? = p'.handle? := by
  funext name
  rw [Play.handle?, Play.handle?, h.handles]

theorem register_alike (h : p.Alike L p') (name adapter : Text) :
    YieldsAlike L (p.register name adapter) (p'.register name adapter) := by
  have hplan : p.stage.cast.plan? name = p'.stage.cast.plan? name := by
    rw [Cast.plan?, Cast.plan?, h.stage.cast.backends]
  unfold register
  rw [hplan]
  split
  · exact ⟨h, .same _⟩
  next plan _ =>
    split
    · exact ⟨h, .same _⟩
    next b _ =>
      have hplans : Stage.Alike L
          { p.stage.addBackend b with plans := p.stage.plans ++ [(p.stage.freeHandle, plan)] }
          { p'.stage.addBackend b with plans := p'.stage.plans ++ [(p'.stage.freeHandle, plan)] } :=
        { h.stage.addBackend b with plans := by rw [h.stage.plans, h.stage.freeHandle] }
      have htold := (Stage.tell_same hplans (outside adapter) (.register b.mode p'.stage.freeHandle)).1
      dsimp only
      rw [h.stage.freeHandle] at htold ⊢
      rw [h.handles]
      exact ⟨{ h with stage := htold, handles := rfl }, .same _⟩

theorem select_alike (h : p.Alike L p') (choice : ModeChoice) (keep adapter : Text) :
    YieldsAlike L (p.select choice keep adapter) (p'.select choice keep adapter) := by
  obtain ⟨hst, hprogress⟩ := Stage.performSelect_alike h.stage (outside adapter) choice
  have hended := Stage.finishCall_alike hst (outside adapter) hprogress
  unfold select
  dsimp only
  generalize Stage.finishCall _ _ (p.stage.performSelect (outside adapter) choice).2 = r at hended ⊢
  generalize Stage.finishCall _ _ (p'.stage.performSelect (outside adapter) choice).2 = r' at hended ⊢
  obtain ⟨u, r⟩ := r
  obtain ⟨u', r'⟩ := r'
  obtain ⟨hu, hr⟩ := hended
  cases hr with
  | error f => exact ⟨h.setStage hu, .same _⟩
  | @ok v _ hv =>
    cases hv with
    | signature => exact ⟨h.setStage hu, .same _⟩
    | same =>
      cases v with
      | backend b =>
        dsimp only
        rw [hu.shown, h.handles]
        exact ⟨{ h with stage := hu, handles := rfl }, .same _⟩
      | _ => exact ⟨h.setStage hu, .same _⟩

theorem fetch_alike (h : p.Alike L p') (backend : Option Text) (language keep adapter : Text) :
    YieldsAlike L (p.fetch backend language keep adapter) (p'.fetch backend language keep adapter) := by
  unfold fetch
  rw [h.handle?]
  obtain ⟨hst, hprogress⟩ := Stage.performFetch_alike h.stage (outside adapter) (backend.bind p'.handle?) language
  have hended := Stage.finishCall_alike hst (outside adapter) hprogress
  dsimp only
  generalize Stage.finishCall _ _ (p.stage.performFetch (outside adapter) (backend.bind p'.handle?) language).2 = r
    at hended ⊢
  generalize Stage.finishCall _ _ (p'.stage.performFetch (outside adapter) (backend.bind p'.handle?) language).2 = r'
    at hended ⊢
  obtain ⟨u, r⟩ := r
  obtain ⟨u', r'⟩ := r'
  obtain ⟨hu, hr⟩ := hended
  cases hr with
  | error f => exact ⟨h.setStage hu, .same _⟩
  | @ok v _ hv =>
    cases hv with
    | signature => exact ⟨h.setStage hu, .same _⟩
    | same =>
      cases v with
      | certificate c =>
        dsimp only
        rw [h.certificates]
        exact ⟨{ h with stage := hu, certificates := rfl }, .same _⟩
      | _ => exact ⟨h.setStage hu, .same _⟩

theorem recognised?_alike {st st' : Stage} (h : st.Alike L st') (b : Option Handle) (digest signature : Bytes) :
    recognised? st b digest signature = recognised? st' b digest signature := by
  have hb : st.backend? = st'.backend? := funext h.backend?
  rw [recognised?, recognised?, hb]

/-- Signs a hash, now that there is a certificate. -/
def signFor (p : Play) (c : Certificate) (hash algorithm : Text) (backend : Option Text) (language adapter : Text) :
    Play × StepResult :=
  match HashToSign.read hash algorithm with
  | .error e => (p, .fault (.value e.message))
  | .ok h =>
    let handle := backend.bind p.handle?
    let (st, progress) := p.stage.performSign (outside adapter) handle c h language
    let (st, r) := st.finishCall (outside adapter) progress
    match r with
    | .ok (.signature s) =>
      ({ p with stage := st }, .signed s.value (s.hash = h) (recognised? st handle h.digest s.value))
    | .ok _ => ({ p with stage := st }, .nothing)
    | .error f => ({ p with stage := st }, .fault f)

theorem signFor_alike (h : p.Alike L p') (c : Certificate) (hash algorithm : Text) (backend : Option Text)
    (language adapter : Text) :
    YieldsAlike L (p.signFor c hash algorithm backend language adapter)
      (p'.signFor c hash algorithm backend language adapter) := by
  unfold signFor
  rw [h.handle?]
  cases HashToSign.read hash algorithm with
  | error e => exact ⟨h, .same _⟩
  | ok x =>
    generalize backend.bind p'.handle? = b
    obtain ⟨hst, hprogress⟩ := Stage.performSign_alike h.stage (outside adapter) b c x language
    have hended := Stage.finishCall_alike hst (outside adapter) hprogress
    dsimp only
    generalize Stage.finishCall _ _ (p.stage.performSign (outside adapter) b c x language).2 = r at hended ⊢
    generalize Stage.finishCall _ _ (p'.stage.performSign (outside adapter) b c x language).2 = r' at hended ⊢
    obtain ⟨u, r⟩ := r
    obtain ⟨u', r'⟩ := r'
    obtain ⟨hu, hr⟩ := hended
    have hsigned {s s' : Signature} (hs : s.Alike L s') : StepResult.Alike L
        (.signed s.value (s.hash = x) (recognised? u b x.digest s.value))
        (.signed s'.value (s'.hash = x) (recognised? u' b x.digest s'.value)) := by
      rw [hs.hash]
      -- whether a signature is recognised depends on the signature, so nothing is said where the two differ
      refine .signed _ hs.value fun hv => ?_
      rw [hv]
      exact recognised?_alike hu _ _ _
    cases hr with
    | error f => exact ⟨h.setStage hu, .same _⟩
    | @ok v _ hv =>
      cases hv with
      | signature hs => exact ⟨h.setStage hu, hsigned hs⟩
      | same =>
        cases v with
        | signature s => exact ⟨h.setStage hu, hsigned ⟨L.refl _, rfl⟩⟩
        | _ => exact ⟨h.setStage hu, .same _⟩

theorem tokenSign_alike (h : p.Alike L p') (hash algorithm : Text) (backend : Option Text) (choice : CertificateChoice)
    (language adapter : Text) :
    YieldsAlike L (p.tokenSign hash algorithm backend choice language adapter)
      (p'.tokenSign hash algorithm backend choice language adapter) := by
  cases choice with
  | given c => exact signFor_alike h c hash algorithm backend language adapter
  | named name =>
    have hkept : keptUnder? name p.certificates = keptUnder? name p'.certificates := by rw [h.certificates]
    unfold tokenSign
    dsimp only
    rw [hkept]
    cases keptUnder? name p'.certificates with
    | none => exact ⟨h, .same _⟩
    | some c => exact signFor_alike h c hash algorithm backend language adapter

theorem openSession_alike (h : p.Alike L p') (id document : Text) (person : Option (Text × Text))
    (direct : Option (ModeChoice × Text)) :
    YieldsAlike L (p.openSession id document person direct) (p'.openSession id document person direct) := by
  have hlanguage : p.stage.cast.coordinator.language = p'.stage.cast.coordinator.language := by
    rw [Cast.coordinator, Cast.coordinator, h.stage.cast.settings]
  unfold openSession
  rw [hlanguage]
  split
  · exact ⟨h, .same _⟩
  · exact ⟨h.setStage (Stage.happen_alike h.stage id (.same _)), .same _⟩

/-- Whether a session is over is the same. -/
theorem done_alike {s s' : System} (h : s.Alike L s') (id : Text) :
    ((s.session? id).map Session.done).getD false = ((s'.session? id).map Session.done).getD false := by
  have hm := h.member? id
  rw [System.session?, System.session?]
  generalize s.member? id = m at hm ⊢
  generalize s'.member? id = m' at hm ⊢
  cases hm with
  | none => rfl
  | some hm => exact hm.session.state.isTerminal

/-- **One step.** -/
theorem perform_alike (h : p.Alike L p') (s : Step) : YieldsAlike L (p.perform s) (p'.perform s) := by
  cases s with
  | «open» id document person direct => exact openSession_alike h id document person direct
  | start id direct => exact ⟨h.setStage (Stage.happen_alike h.stage id (.same _)), .same _⟩
  | sign id document person =>
    rw [perform, perform]
    split
    · exact ⟨h, .same _⟩
    · exact ⟨h.setStage (Stage.openAndRun_alike h.stage id _), .same _⟩
  | signDocument id => exact ⟨h.setStage (Stage.signPresented_alike h.stage id none), .same _⟩
  | signWithMobileId id personalCode phoneNumber =>
    exact ⟨h.setStage (Stage.signPresented_alike h.stage id _), .same _⟩
  | cancel id =>
    obtain ⟨hst, habandoned⟩ := Stage.cancel_alike h.stage id
    rw [perform, perform]
    dsimp only
    rw [habandoned]
    exact ⟨h.setStage hst, .same _⟩
  | done id =>
    rw [perform, perform, done_alike h.stage.system]
    exact ⟨h, .same _⟩
  | taskCancel id =>
    rw [perform, perform, isSome_alike (h.stage.heldOf? id)]
    exact ⟨h.setStage (Stage.happen_alike h.stage id (.same _)), .same _⟩
  | release id =>
    rw [perform, perform, isSome_alike (h.stage.heldOf? id)]
    exact ⟨h.setStage (Stage.release_alike h.stage id), .same _⟩
  | write files =>
    rw [perform, perform, h.stage.files]
    exact ⟨h.setStage { h.stage with files := rfl }, .same _⟩
  | delete name =>
    rw [perform, perform, h.stage.files]
    exact ⟨h.setStage { h.stage with files := rfl }, .same _⟩
  | register backend adapter => exact register_alike h backend adapter
  | select choice keep adapter => exact select_alike h choice keep adapter
  | fetch backend language keep adapter => exact fetch_alike h backend language keep adapter
  | tokenSign hash algorithm backend certificate language adapter =>
    exact tokenSign_alike h hash algorithm backend certificate language adapter

/-- A step, and what was noted since it began. -/
theorem step_alike (h : p.Alike L p') (s : Step) :
    (p.step s).1.Alike L (p'.step s).1 ∧ (p.step s).2.Alike L (p'.step s).2 := by
  obtain ⟨hp, hresult⟩ := perform_alike (h.setStage h.stage.forget) s
  exact ⟨hp, hresult, hp.stage.notes, Stage.states_alike hp.stage⟩

/-- Steps in order. -/
theorem steps_alike (h : p.Alike L p') (script : List Step) :
    (p.steps script).1.Alike L (p'.steps script).1 ∧
      List.Forall₂ (StepReport.Alike L) (p.steps script).2 (p'.steps script).2 := by
  induction script generalizing p p' with
  | nil => exact ⟨h, .nil⟩
  | cons s rest ih =>
    obtain ⟨hp, hreport⟩ := step_alike h s
    obtain ⟨hrest, hreports⟩ := ih hp
    exact ⟨hrest, .cons hreport hreports⟩

theorem noteLast_alike {notes notes' : List Note} (hnotes : List.Forall₂ (Note.Alike L) notes notes')
    {reports reports' : List StepReport} (h : List.Forall₂ (StepReport.Alike L) reports reports') :
    List.Forall₂ (StepReport.Alike L) (noteLast notes reports) (noteLast notes' reports') := by
  induction h with
  | nil => exact .nil
  | cons hr hrest ih =>
    cases hrest with
    | nil => exact .cons { hr with notes := List.rel_append hr.notes hnotes } .nil
    | cons => exact .cons hr ih

/-- **A whole play.** -/
theorem run_alike (h : p.Alike L p') (script : List Step) : (p.run script).Alike L (p'.run script) := by
  obtain ⟨hp, hreports⟩ := steps_alike h script
  have hclosed := Stage.close_alike hp.stage.forget
  exact ⟨noteLast_alike hclosed.notes hreports, Stage.histories_alike hp.stage, hclosed.log⟩

end Play

end RemoteSigning.Rehearsal
