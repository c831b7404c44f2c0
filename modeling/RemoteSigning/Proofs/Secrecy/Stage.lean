import RemoteSigning.Proofs.Secrecy.Adapters
import RemoteSigning.Proofs.Secrecy.Cards
import RemoteSigning.Rehearsal.Stage

/-!
# Two stages that differ in secrets

Two casts give the same answers, except that their users enter PINs that need not be the same, and that their cards make
signatures that need not be the same. A call that begins on two stages with such casts comes to the same on both: it has
to be played by the same, or it ends alike. What is noted differs in the PIN that a card session is opened with and in
the value of a signature only, and the logs are equal.

- `Cast.Alike`: two casts that differ in secrets only; `Stage.Alike`: two stages;
- `answer_alike`: a backend has answered, through an adapter;
- `askHealth_alike`, `askCertificate_alike`, `askSignature_alike`: backends are asked;
- `perform_alike`: a call of a session begins.
-/

namespace RemoteSigning.Rehearsal

variable {L : Likeness}

/-! ## What is alike -/

/-- Two lines of a script that differ in a PIN only. -/
inductive Line.Alike : Line → Line → Prop
  | same (l : Line) : Alike l l
  | pin {e e' : Option Text} : EnteredAlike e e' → Alike (.pin e) (.pin e')

structure Behaviour.Alike (b b' : Behaviour) : Prop where
  cancels : b.cancels = b'.cancels
  sigint : b.sigint = b'.sigint
  holds : b.holds = b'.holds
  onCancel : b.onCancel = b'.onCancel
  result : EndAlike Line.Alike b.result b'.result

/-- Two casts that differ in the PINs of their users and in the signatures of their cards only. -/
structure Cast.Alike (L : Likeness) (c c' : Cast) : Prop where
  settings : c.settings = c'.settings
  mode : c.mode = c'.mode
  presenter : c.presenter = c'.presenter
  address : c.address = c'.address
  service : c.service = c'.service
  elsewhere : c.elsewhere = c'.elsewhere
  token : c.token = c'.token
  user : Option.Rel (List.Forall₂ Behaviour.Alike) c.user c'.user
  backends : c.backends = c'.backends
  cardModule : c.cardModule.Alike L c'.cardModule

/-- Two calls to somebody with a script: the same, or requests that send a signature. -/
inductive Cue.Alike (L : Likeness) : Cue → Cue → Prop
  | same (c : Cue) : Alike L c c
  | phase2 (url : Url) {s s' : Signature} : s.Alike L s' →
      Alike L (.http .phase2 url (Outgoing.phase2 s).text) (.http .phase2 url (Outgoing.phase2 s').text)

/-- Two events that differ in secrets only. -/
inductive Event.Alike (L : Likeness) : Event → Event → Prop
  | same (e : Event) : Alike L e e
  | cue {c c' : Cue} : c.Alike L c' → Alike L (.cue c) (.cue c')
  | card {e e' : CardEvent} : e.Alike e' → Alike L (.card e) (.card e')
  | interrupted {c c' : Cue} : c.Alike L c' → Alike L (.interrupted c) (.interrupted c')

structure Note.Alike (L : Likeness) (n n' : Note) : Prop where
  session : n.session = n'.session
  event : n.event.Alike L n'.event

structure Held.Alike (L : Likeness) (h h' : Held) : Prop where
  session : h.session = h'.session
  cue : h.cue.Alike L h'.cue
  behaviour : h.behaviour.Alike h'.behaviour

/-- Two stages that differ in secrets only. -/
structure Stage.Alike (L : Likeness) (st st' : Stage) : Prop where
  cast : st.cast.Alike L st'.cast
  files : st.files = st'.files
  system : st.system.Alike L st'.system
  adapters : st.adapters = st'.adapters
  backends : st.backends = st'.backends
  plans : st.plans = st'.plans
  turns : st.turns = st'.turns
  held : List.Forall₂ (Held.Alike L) st.held st'.held
  started : st.started = st'.started
  notes : List.Forall₂ (Note.Alike L) st.notes st'.notes
  log : st.log = st'.log

inductive Stage.Progress.Alike (L : Likeness) : Stage.Progress → Stage.Progress → Prop
  | ended {r r' : Except Fault Value} : EndAlike (Value.Alike L) r r' → Alike L (.ended r) (.ended r')
  | cue {c c' : Cue} : c.Alike L c' → Alike L (.cue c) (.cue c')

/-- What two stages become, and what comes of it. -/
def Stage.YieldAlike (L : Likeness) {α : Type} (R : α → α → Prop) (r r' : Stage × α) : Prop :=
  r.1.Alike L r'.1 ∧ R r.2 r'.2

theorem Behaviour.Alike.refl (b : Behaviour) : b.Alike b := ⟨rfl, rfl, rfl, rfl, .of_eq .same _⟩

theorem Cue.Alike.role {c c' : Cue} (h : c.Alike L c') : c.role = c'.role := by
  cases h <;> rfl

namespace Stage

variable {st st' : Stage}

/-! ## Keeping record -/

theorem Alike.note (h : st.Alike L st') (session : Option Text) {e e' : Event} (he : e.Alike L e') :
    (st.note session e).Alike L (st'.note session e') :=
  { h with notes := List.rel_append h.notes (.cons ⟨rfl, he⟩ .nil) }

theorem Alike.noteCard (h : st.Alike L st') (session : Option Text) {es es' : List CardEvent}
    (hes : List.Forall₂ CardEvent.Alike es es') : (st.noteCard session es).Alike L (st'.noteCard session es') := by
  have hnotes : List.Forall₂ (Note.Alike L) (es.map fun e => ⟨session, .card e⟩)
      (es'.map fun e => ⟨session, .card e⟩) := by
    induction hes with
    | nil => exact .nil
    | cons he _ ih => exact .cons ⟨rfl, .card he⟩ ih
  exact { h with notes := List.rel_append h.notes hnotes }

theorem Alike.write (h : st.Alike L st') (lines : List LogLine) : (st.write lines).Alike L (st'.write lines) :=
  { h with log := congrArg (· ++ lines) h.log }

theorem Alike.record (h : st.Alike L st') (rs : List TokenRecord) : (st.record rs).Alike L (st'.record rs) :=
  h.write _

/-! ## Backends and adapters -/

theorem Alike.backend? (h : st.Alike L st') (b : Handle) : st.backend? b = st'.backend? b := by
  rw [Stage.backend?, Stage.backend?, h.backends]

theorem Alike.shown (h : st.Alike L st') : st.shown = st'.shown := by
  funext b
  rw [Stage.shown, Stage.shown, h.backend?]

theorem Alike.freeHandle (h : st.Alike L st') : st.freeHandle = st'.freeHandle := by
  rw [Stage.freeHandle, Stage.freeHandle, h.backends]

theorem Alike.addBackend (h : st.Alike L st') (b : Backend) : (st.addBackend b).Alike L (st'.addBackend b) :=
  { h with backends := by simp only [Stage.addBackend, Stage.freeHandle, h.backends] }

/-- A backend becomes the same when the same has been done at its module, up to PINs. -/
theorem after_alike {m m' : CardModule} (h : m.Alike L m') {es es' : List CardEvent}
    (hes : List.Forall₂ CardEvent.Alike es es') (b : Backend) : b.after m es = b.after m' es' := by
  cases b with
  | card config loaded => rw [Backend.after, Backend.after, CardModule.loadedAfter_alike h loaded hes]
  | software | foreign => rfl

theorem Alike.afterCard (h : st.Alike L st') (b : Handle) {es es' : List CardEvent}
    (hes : List.Forall₂ CardEvent.Alike es es') : (st.afterCard b es).Alike L (st'.afterCard b es') :=
  { h with
    backends := by simp only [Stage.afterCard, after_alike h.cast.cardModule hes, h.backends] }

theorem Alike.adapter (h : st.Alike L st') (name : Text) : st.adapter name = st'.adapter name := by
  rw [Stage.adapter, Stage.adapter, h.adapters, h.cast.settings]

theorem Alike.setAdapter (h : st.Alike L st') (name : Text) (a : Adapter) :
    (st.setAdapter name a).Alike L (st'.setAdapter name a) :=
  { h with adapters := by simp only [Stage.setAdapter, h.adapters] }

theorem Alike.make (h : st.Alike L st') : st.make = st'.make := by
  have huser : st.cast.user.isSome = st'.cast.user.isSome := isSome_alike h.cast.user
  funext m
  cases m <;> simp only [Stage.make, h.cast.settings, h.files, huser]

theorem tell_alike (h : st.Alike L st') (way : Route) {e e' : AdapterHappening} (he : e.Alike L e') :
    YieldAlike L (List.Forall₂ (AdapterOutput.Alike L)) (st.tell way e) (st'.tell way e') := by
  obtain ⟨hadapter, hout⟩ := (st'.adapter way.through).step_alike st'.shown way.who he
  unfold tell
  rw [h.adapter, h.shown]
  dsimp only
  rw [hadapter]
  exact ⟨h.setAdapter _ _, hout⟩

theorem recorded_alike (h : st.Alike L st') {out out' : List AdapterOutput}
    (hout : List.Forall₂ (AdapterOutput.Alike L) out out') :
    YieldAlike L (List.Forall₂ (AdapterOutput.Alike L)) (st.recorded out) (st'.recorded out') := by
  induction hout generalizing st st' with
  | nil => exact ⟨h, .nil⟩
  | @cons o _ _ _ ho _ ih =>
    cases ho with
    | ended hr =>
      obtain ⟨hst, hrest⟩ := ih h
      exact ⟨hst, .cons (.ended hr) hrest⟩
    | same =>
      cases o with
      | record r => exact ih (h.record [r])
      | check | fetch | sign | ended =>
        obtain ⟨hst, hrest⟩ := ih h
        exact ⟨hst, .cons (.same _) hrest⟩

theorem endOf_alike {out out' : List AdapterOutput} (hout : List.Forall₂ (AdapterOutput.Alike L) out out') :
    EndAlike (Value.Alike L) (endOf out) (endOf out') := by
  induction hout with
  | nil => exact .error _
  | @cons o _ _ _ ho _ ih =>
    cases ho with
    | ended hr => exact hr
    | same =>
      cases o with
      | ended r => exact .of_eq .same r
      | check | fetch | sign | record => exact ih

/-- Callers are answered alike. -/
theorem answer_alike (h : st.Alike L st') (way : Route) {r r' : Except Fault BackendAnswer}
    (hr : EndAlike (BackendAnswer.Alike L) r r') :
    YieldAlike L (EndAlike (Value.Alike L)) (st.answer way r) (st'.answer way r') := by
  obtain ⟨hst, hout⟩ := tell_alike h way (.answer hr)
  obtain ⟨hst', hout'⟩ := recorded_alike hst hout
  exact ⟨hst', endOf_alike hout'⟩

/-! ## Calls -/

theorem ended_alike {r r' : Stage × Except Fault Value} (h : YieldAlike L (EndAlike (Value.Alike L)) r r') :
    YieldAlike L (Progress.Alike L) (ended r) (ended r') := ⟨h.1, .ended h.2⟩

/-- Something is done at two modules. -/
theorem performed_alike (h : st.Alike L st') (session : Option Text) (b : Handle) {α : Type} {R : α → α → Prop}
    {p p' : Performed α} (hp : p.Alike R p') :
    YieldAlike L (EndAlike R) (st.performed session b p) (st'.performed session b p') := by
  have hst := ((h.noteCard session hp.events).record p.records).afterCard b hp.events
  unfold performed
  rw [← hp.records]
  exact ⟨hst, hp.result⟩

theorem askHealth_alike (h : st.Alike L st') (way : Route) (b : Handle) :
    YieldAlike L (Progress.Alike L) (st.askHealth way b) (st'.askHealth way b) := by
  unfold askHealth
  rw [h.backend?, h.plans]
  split
  next config loaded _ =>
    obtain ⟨hst, hr⟩ := performed_alike h way.who b (CardModule.check_alike h.cast.cardModule config loaded)
    exact ended_alike (answer_alike hst way (hr.map fun _ _ hab => hab ▸ .same _))
  · split
    · exact ⟨h, .cue (.same _)⟩
    · exact ended_alike (answer_alike h way (.of_eq .same _))
  · exact ended_alike (answer_alike h way (.of_eq .same _))

theorem askCertificate_alike (h : st.Alike L st') (way : Route) (b : Handle) (language : Text) :
    YieldAlike L (Progress.Alike L) (st.askCertificate way b language) (st'.askCertificate way b language) := by
  unfold askCertificate
  rw [h.backend?]
  split
  next config loaded _ =>
    obtain ⟨hst, hr⟩ := performed_alike h none b (CardModule.fetch_alike h.cast.cardModule config loaded)
    exact ended_alike (answer_alike hst way (hr.map fun _ _ hab => hab ▸ .same _))
  · exact ended_alike (answer_alike h way (.of_eq .same _))
  · exact ⟨h, .cue (.same _)⟩
  · exact ended_alike (answer_alike h way (.of_eq .same _))

theorem askSignature_alike (h : st.Alike L st') (way : Route) (b : Handle) (c : Certificate) (hash : HashToSign)
    (language : Text) :
    YieldAlike L (Progress.Alike L) (st.askSignature way b c hash language)
      (st'.askSignature way b c hash language) := by
  unfold askSignature
  rw [h.backend?]
  split
  next config loaded _ =>
    split
    · exact ended_alike (answer_alike h way (.error _))
    · exact ⟨h, .cue (.same _)⟩
    · obtain ⟨hst, hr⟩ := performed_alike h none b
        (CardModule.sign_alike h.cast.cardModule config loaded c hash (.same .protectedPath))
      exact ended_alike (answer_alike hst way (hr.map fun _ _ hab => .signature hab))
  · exact ended_alike (answer_alike (h.record _) way (.of_eq .same _))
  · exact ⟨h, .cue (.same _)⟩
  · exact ended_alike (answer_alike h way (.of_eq .same _))

theorem Alike.turnsOf (h : st.Alike L st') (r : Role) : st.turnsOf r = st'.turnsOf r := by
  rw [Stage.turnsOf, Stage.turnsOf, h.turns]

theorem tell_same (h : st.Alike L st') (way : Route) (e : AdapterHappening) :
    YieldAlike L Eq (st.tell way e) (st'.tell way e) := by
  unfold tell
  rw [h.adapter, h.shown]
  exact ⟨h.setAdapter _ _, rfl⟩

/-- The stage with the backend that an adapter holds under a handle, if it can be made. -/
def withMade (st : Stage) (way : Route) (fresh : Handle) : Stage :=
  match (st.adapter way.through).held.find? (·.2 = fresh) with
  | some (m, _) =>
    match st.make m with
    | .ok b => st.addBackend b
    | .error _ => st
  | none => st

/-- What an adapter does about a selection is taken up. -/
def takeUp (way : Route) (r : Stage × List AdapterOutput) : Stage × Progress :=
  match r.2 with
  | .check h :: _ => r.1.askHealth way h
  | out => (r.1, .ended (endOf out))

theorem performSelect_eq (st : Stage) (way : Route) (choice : ModeChoice) :
    st.performSelect way choice =
      takeUp way (recorded
        ((st.tell way (.select choice fun m => (st.make m).map fun _ => st.freeHandle)).1.withMade way st.freeHandle)
        (st.tell way (.select choice fun m => (st.make m).map fun _ => st.freeHandle)).2) := rfl

theorem Alike.withMade (h : st.Alike L st') (way : Route) (fresh : Handle) :
    (st.withMade way fresh).Alike L (st'.withMade way fresh) := by
  unfold Stage.withMade
  rw [h.adapter, h.make]
  split
  · split
    · exact h.addBackend _
    · exact h
  · exact h

theorem takeUp_alike (way : Route) {r r' : Stage × List AdapterOutput}
    (h : YieldAlike L (List.Forall₂ (AdapterOutput.Alike L)) r r') :
    YieldAlike L (Progress.Alike L) (takeUp way r) (takeUp way r') := by
  obtain ⟨u, out⟩ := r
  obtain ⟨u', out'⟩ := r'
  obtain ⟨hu, hout⟩ := h
  cases hout with
  | nil => exact ⟨hu, .ended (.error _)⟩
  | @cons o _ _ _ ho hrest =>
    cases ho with
    | ended hr => exact ⟨hu, .ended hr⟩
    | same =>
      cases o with
      | check b => exact askHealth_alike hu way b
      | fetch | sign | record | ended => exact ⟨hu, .ended (endOf_alike (.cons (.same _) hrest))⟩

theorem performSelect_alike (h : st.Alike L st') (way : Route) (choice : ModeChoice) :
    YieldAlike L (Progress.Alike L) (st.performSelect way choice) (st'.performSelect way choice) := by
  rw [performSelect_eq, performSelect_eq, h.freeHandle, h.make]
  obtain ⟨hst, hout⟩ := tell_same h way (.select choice fun m => (st'.make m).map fun _ => st'.freeHandle)
  rw [hout]
  exact takeUp_alike way (recorded_alike (hst.withMade way _) (forall₂_of_eq .same _))

theorem performFetch_alike (h : st.Alike L st') (way : Route) (backend : Option Handle) (language : Text) :
    YieldAlike L (Progress.Alike L) (st.performFetch way backend language)
      (st'.performFetch way backend language) := by
  obtain ⟨hst, hout⟩ := tell_same h way (.fetch backend)
  unfold performFetch
  dsimp only
  rw [hout]
  split
  · exact askCertificate_alike hst way _ language
  · exact ⟨hst, .ended (.of_eq .same _)⟩

theorem performSign_alike (h : st.Alike L st') (way : Route) (backend : Option Handle) (certificate : Certificate)
    (hash : HashToSign) (language : Text) :
    YieldAlike L (Progress.Alike L) (st.performSign way backend certificate hash language)
      (st'.performSign way backend certificate hash language) := by
  obtain ⟨hst, hout⟩ := tell_same h way (.sign backend hash)
  unfold performSign
  dsimp only
  rw [hout]
  split
  · exact askSignature_alike hst way _ certificate hash language
  · exact ⟨hst, .ended (.of_eq .same _)⟩

/-- **Calls that differ in a signature** begin alike. -/
theorem perform_alike (h : st.Alike L st') (way : Route) {c c' : Call} (hc : c.Alike L c') :
    YieldAlike L (Progress.Alike L) (st.perform way c) (st'.perform way c') := by
  have hsubmit {o o' : Outgoing} (ho : o.Alike L o') :
      YieldAlike L (Progress.Alike L) (st.perform way (.submit o)) (st'.perform way (.submit o')) := by
    have hsent := Outgoing.prepare_alike ho st'.cast.address
    rw [Stage.perform, Stage.perform, h.cast.address]
    generalize o.prepare st'.cast.address = p at hsent ⊢
    generalize o'.prepare st'.cast.address = p' at hsent ⊢
    cases hsent with
    | refused f => exact ⟨h, .ended (.error f)⟩
    | sent url =>
      -- what is sent is the text of the request, and only that of a signature can differ
      cases ho with
      | same => exact ⟨h, .cue (.same _)⟩
      | phase2 hs => exact ⟨h, .cue (.phase2 url hs)⟩
  cases hc with
  | submit ho => exact hsubmit ho
  | same =>
    cases c with
    | submit o => exact hsubmit (.same o)
    | select choice =>
      rw [Stage.perform, Stage.perform, h.cast.token, h.turnsOf]
      split
      · exact ⟨h, .cue (.same _)⟩
      · exact performSelect_alike h way choice
    | fetch b language =>
      rw [Stage.perform, Stage.perform, h.cast.token]
      split
      · exact ⟨h, .cue (.same _)⟩
      · exact performFetch_alike h way b language
    | sign b certificate hash language =>
      rw [Stage.perform, Stage.perform, h.cast.token]
      split
      · exact ⟨h, .cue (.same _)⟩
      · exact performSign_alike h way b certificate hash language

end Stage

end RemoteSigning.Rehearsal
