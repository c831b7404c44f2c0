import RemoteSigning.Proofs.Secrecy.Play

/-!
# Where secrets go

A user's PIN goes to the card that is opened with it, and a signature goes to the service. Neither has any influence on
anything else. Let the casts of two plays differ in PINs and in signatures only. Then their sessions go through the same
states, up to the signature in one of them, and come to the same ends; the same requests are sent, up to the signature
in the one that sends it; the presenter is told the same; and the logs are equal. If the PINs alone differ, all is the
same but the PINs that cards are opened with.

- `Chronicle.courses`, `Chronicle.ends`, `Chronicle.requests`, `Chronicle.told`, `Chronicle.outcomes`: what can be seen
  of a play;
- `Chronicle.withoutPins`: a play without the PINs that cards are opened with;
- `SameButSecrets`, `indifferent_to_secrets`: two plays whose casts differ in secrets only.
-/

namespace RemoteSigning

variable {L : Likeness}

/-! ## Without secrets -/

def State.withoutSignature : State → State
  | .phase2Submitting s => .phase2Submitting { s with value := [] }
  | s => s

def Login.withoutPin : Login → Login
  | .pin _ => .pin []
  | l => l

/-- What is done at a module, without the PIN. -/
def CardEvent.withoutPin : CardEvent → CardEvent
  | .open slot l granted => .open slot l.withoutPin granted
  | e => e

theorem Signature.Alike.eq {s s' : Signature} (h : s.Alike .equal s') : s = s' := by
  obtain ⟨v, x⟩ := s
  obtain ⟨v', x'⟩ := s'
  obtain ⟨hv, hx⟩ := h
  exact congrArg₂ Signature.mk hv hx

theorem State.Alike.eq {s s' : State} (h : s.Alike .equal s') : s = s' := by
  cases h with
  | same => rfl
  | phase2 hs => rw [hs.eq]

theorem State.Alike.withoutSignature {s s' : State} (h : s.Alike L s') : s.withoutSignature = s'.withoutSignature := by
  cases h with
  | same => rfl
  | phase2 hs => rw [State.withoutSignature, State.withoutSignature, hs.hash]

theorem CardEvent.Alike.withoutPin {e e' : CardEvent} (h : e.Alike e') : e.withoutPin = e'.withoutPin := by
  cases h with
  | same => rfl
  | «open» slot granted hl =>
    cases hl with
    | same => rfl
    | pin p q => rfl

/-- Lists are equal if what is alike in them is equal. -/
theorem eq_of_alike {α : Type} {R : α → α → Prop} (hR : ∀ a b, R a b → a = b) {l l' : List α}
    (h : List.Forall₂ R l l') : l = l' := by
  rw [← List.forall₂_eq_eq_eq]
  exact h.imp hR

/-- Lists that are alike are mapped to the same. -/
theorem map_eq_of_alike {α β : Type} {R : α → α → Prop} {f : α → β} (hf : ∀ a b, R a b → f a = f b) {l l' : List α}
    (h : List.Forall₂ R l l') : l.map f = l'.map f :=
  eq_of_alike (R := Eq) (fun _ _ => id) (List.rel_map hf h)

theorem filterMap_eq_of_alike {α β : Type} {R : α → α → Prop} {f : α → Option β} (hf : ∀ a b, R a b → f a = f b)
    {l l' : List α} (h : List.Forall₂ R l l') : l.filterMap f = l'.filterMap f := by
  induction h with
  | nil => rfl
  | cons hab _ ih => rw [List.filterMap_cons, List.filterMap_cons, hf _ _ hab, ih]

/-- The ends in two histories are the same. -/
theorem ends_alike {l l' : List State} (h : List.Forall₂ (State.Alike L) l l') :
    l.filter State.isTerminal = l'.filter State.isTerminal := by
  induction h with
  | nil => rfl
  | @cons s s' _ _ hs _ ih =>
    rw [List.filter_cons, List.filter_cons, hs.isTerminal, ih]
    split
    next ht => rw [hs.eq_of_isTerminal (hs.isTerminal.trans ht)]
    · rfl

namespace Rehearsal

def Event.withoutPin : Event → Event
  | .card e => .card e.withoutPin
  | e => e

def Note.withoutPin (n : Note) : Note := ⟨n.session, n.event.withoutPin⟩

def StepReport.withoutPins (r : StepReport) : StepReport := { r with notes := r.notes.map Note.withoutPin }

theorem Cue.Alike.eq {c c' : Cue} (h : c.Alike .equal c') : c = c' := by
  cases h with
  | same => rfl
  | phase2 url hs => rw [hs.eq]

theorem Event.Alike.withoutPin {e e' : Event} (h : e.Alike .equal e') : e.withoutPin = e'.withoutPin := by
  cases h with
  | same => rfl
  | cue hc => rw [hc.eq]
  | card he => rw [Event.withoutPin, Event.withoutPin, he.withoutPin]
  | interrupted hc => rw [hc.eq]

theorem Note.Alike.withoutPin {n n' : Note} (h : n.Alike .equal n') : n.withoutPin = n'.withoutPin := by
  rw [Note.withoutPin, Note.withoutPin, h.session, h.event.withoutPin]

theorem StepResult.Alike.eq {r r' : StepResult} (h : r.Alike .equal r') : r = r' := by
  cases h with
  | same => rfl
  | signed sameHash hv hr =>
    obtain rfl : _ = _ := hv
    rw [hr rfl]

theorem EntryAlike.eq {α : Type} {R : α → α → Prop} (hR : ∀ a b, R a b → a = b) {e e' : Text × α}
    (h : EntryAlike R e e') : e = e' :=
  Prod.ext h.name (hR _ _ h.entry)

theorem StepReport.Alike.withoutPins {r r' : StepReport} (h : r.Alike .equal r') :
    r.withoutPins = r'.withoutPins := by
  have hnotes : r.notes.map Note.withoutPin = r'.notes.map Note.withoutPin :=
    map_eq_of_alike (fun _ _ hn => hn.withoutPin) h.notes
  have hstates : r.states = r'.states := eq_of_alike (fun _ _ he => he.eq fun _ _ hs => hs.eq) h.states
  rw [StepReport.withoutPins, StepReport.withoutPins, h.result.eq, hnotes, hstates]

/-! ## What can be seen of a play -/

def Event.request? : Event → Option Cue
  | .cue (.http e url body) => some (.http e url body)
  | _ => none

def Event.told? : Event → Option Report
  | .report r => some r
  | _ => none

/-- What a run ends with. -/
def Event.outcome? : Event → Option (Except Fault State)
  | .finished outcome => some outcome
  | _ => none

theorem Event.Alike.request? {e e' : Event} (h : e.Alike L e') :
    Option.Rel (Cue.Alike L) e.request? e'.request? := by
  have hsame (c : Cue) : Option.Rel (Cue.Alike L) (Event.request? (.cue c)) (Event.request? (.cue c)) := by
    cases c with
    | http => exact .some (.same _)
    | _ => exact .none
  cases h with
  | same =>
    cases e with
    | cue c => exact hsame c
    | _ => exact .none
  | cue hc =>
    cases hc with
    | same => exact hsame _
    | phase2 url hs => exact .some (.phase2 url hs)
  | card | interrupted => exact .none

theorem Event.Alike.told? {e e' : Event} (h : e.Alike L e') : e.told? = e'.told? := by
  cases h <;> rfl

theorem Event.Alike.outcome? {e e' : Event} (h : e.Alike L e') : e.outcome? = e'.outcome? := by
  cases h <;> rfl

namespace Play.Chronicle

/-- Everything that was noted, in order. -/
def notes (k : Chronicle) : List Note := k.reports.flatMap (·.notes)

/-- The requests that were sent. -/
def requests (k : Chronicle) : List Cue := k.notes.filterMap (·.event.request?)

/-- What the presenter was told, with the sessions. -/
def told (k : Chronicle) : List (Option Text × Report) :=
  k.notes.filterMap fun n => n.event.told?.map (n.session, ·)

/-- The ends of runs, with the sessions. -/
def outcomes (k : Chronicle) : List (Option Text × Except Fault State) :=
  k.notes.filterMap fun n => n.event.outcome?.map (n.session, ·)

/-- The histories without the signatures in them. -/
def courses (k : Chronicle) : List (Text × List State) :=
  k.histories.map fun e => (e.1, e.2.map State.withoutSignature)

/-- The terminal states in the histories. -/
def ends (k : Chronicle) : List (Text × List State) :=
  k.histories.map fun e => (e.1, e.2.filter State.isTerminal)

/-- All of a play but the PINs that cards were opened with. -/
def withoutPins (k : Chronicle) : Chronicle := { k with reports := k.reports.map StepReport.withoutPins }

variable {k k' : Chronicle}

theorem Alike.notes (h : k.Alike L k') : List.Forall₂ (Note.Alike L) k.notes k'.notes :=
  List.rel_flatMap h.reports fun _ _ hr => hr.notes

theorem Alike.requests (h : k.Alike L k') : List.Forall₂ (Cue.Alike L) k.requests k'.requests :=
  List.rel_filterMap (fun _ _ hn => hn.event.request?) h.notes

theorem Alike.told (h : k.Alike L k') : k.told = k'.told :=
  filterMap_eq_of_alike (fun _ _ hn => by rw [hn.session, hn.event.told?]) h.notes

theorem Alike.outcomes (h : k.Alike L k') : k.outcomes = k'.outcomes :=
  filterMap_eq_of_alike (fun _ _ hn => by rw [hn.session, hn.event.outcome?]) h.notes

theorem Alike.courses (h : k.Alike L k') : k.courses = k'.courses :=
  map_eq_of_alike
    (fun _ _ he => Prod.ext he.name (map_eq_of_alike (fun _ _ hs => hs.withoutSignature) he.entry)) h.histories

theorem Alike.ends (h : k.Alike L k') : k.ends = k'.ends :=
  map_eq_of_alike (fun _ _ he => Prod.ext he.name (ends_alike he.entry)) h.histories

theorem Alike.withoutPins (h : k.Alike .equal k') : k.withoutPins = k'.withoutPins := by
  have hreports : k.reports.map StepReport.withoutPins = k'.reports.map StepReport.withoutPins :=
    map_eq_of_alike (fun _ _ hr => hr.withoutPins) h.reports
  have hhistories : k.histories = k'.histories :=
    eq_of_alike (fun _ _ he => he.eq fun _ _ hl => eq_of_alike (fun _ _ hs => hs.eq) hl) h.histories
  rw [Chronicle.withoutPins, Chronicle.withoutPins, hreports, hhistories, h.log]

end Play.Chronicle

/-! ## Two plays -/

namespace Play

/-- A play before its first step. -/
def opening (c : Cast) (files : FileTree) : Play := { stage := .init c files }

theorem opening_alike {c c' : Cast} (h : c.Alike L c') (files : FileTree) :
    (opening c files).Alike L (opening c' files) := by
  have hcoordinator : c.coordinator = c'.coordinator := by
    rw [Cast.coordinator, Cast.coordinator, Cast.choice, Cast.choice, h.settings, h.mode, h.presenter]
  have hsystem : System.Alike L (.init c.coordinator) (.init c'.coordinator) := ⟨hcoordinator, .nil⟩
  exact ⟨⟨h, rfl, hsystem, rfl, rfl, rfl, rfl, .nil, rfl, .nil, rfl⟩, rfl, rfl⟩

/-- What two plays have in common whose casts differ in secrets only. -/
structure SameButSecrets (k k' : Chronicle) : Prop where
  /-- The sessions have the same histories, up to the signature. -/
  courses : k.courses = k'.courses
  /-- The sessions came to the same ends. -/
  ends : k.ends = k'.ends
  /-- The same requests were sent, up to the signature in those that send one. -/
  requests : List.Forall₂ (Cue.Alike .nonEmpty) k.requests k'.requests
  /-- The presenter was told the same. -/
  told : k.told = k'.told
  /-- The runs ended in the same way. -/
  outcomes : k.outcomes = k'.outcomes
  log : k.log = k'.log
  /-- All that was noted is the same, up to signatures in requests and PINs that cards were opened with. -/
  notes : List.Forall₂ (Note.Alike .nonEmpty) k.notes k'.notes

/-- **Secrets have no influence** on anything but where they go. Users' PINs and the signatures of cards may differ: two
plays are the same but for these secrets. If the PINs alone differ, the same requests are sent, and all is the same but
the PINs that cards are opened with. -/
theorem indifferent_to_secrets {c c' : Cast} (h : c.Alike .nonEmpty c') (files : FileTree) (script : List Step) :
    SameButSecrets ((opening c files).run script) ((opening c' files).run script) ∧
    (c.Alike .equal c' →
      ((opening c files).run script).requests = ((opening c' files).run script).requests ∧
      ((opening c files).run script).withoutPins = ((opening c' files).run script).withoutPins) := by
  have hsecrets := run_alike (opening_alike h files) script
  refine ⟨⟨hsecrets.courses, hsecrets.ends, hsecrets.requests, hsecrets.told, hsecrets.outcomes, hsecrets.log,
    hsecrets.notes⟩, fun hpins => ?_⟩
  have hpins := run_alike (opening_alike hpins files) script
  exact ⟨eq_of_alike (fun _ _ hc => hc.eq) hpins.requests, hpins.withoutPins⟩

/-- A user who enters a PIN, a card that makes a signature, and a service that takes it. -/
def cardCast (pin : Text) (signature : Bytes) : Cast where
  settings := { Settings.default with cardLibrary := some "/usr/lib/card.so" }
  presenter := some "tekst"
  address := "https://signing.test"
  service := [
    ("/p1", [{ result := .ok (.http ⟨200, Utf8.encodeAll (Json.render .request (.object (Json.texts
      [("hash", "Q8wj+lK4e0zB0CtbEUFUFR1q3dsXyf3cBrAn+pniQAg="), ("algo", "RSA-SHA256")])))⟩) }]),
    ("/p2", [{ result := .ok (.http ⟨200, Utf8.encodeAll (Json.render .request (.object (Json.texts
      [("error", [])])))⟩) }])]
  user := some [{ result := .ok (.pin (some pin)) }]
  cardModule := { slots := [{
    slotId := 0, label := "PIN2", objects := [⟨[48], [2]⟩], keys := [⟨[2], .known .rsa, fun _ _ => .ok signature⟩] }] }

theorem cardCast_alike (pin pin' : Text) {v w : Bytes} (h : L.alike v w) :
    (cardCast pin v).Alike L (cardCast pin' w) where
  settings := rfl
  mode := rfl
  presenter := rfl
  address := rfl
  service := rfl
  elsewhere := rfl
  token := rfl
  user := .some (.cons ⟨rfl, rfl, rfl, rfl, .ok (.pin (.pin pin pin'))⟩ .nil)
  backends := rfl
  cardModule := ⟨rfl, rfl, .cons ⟨rfl, rfl, rfl, .cons ⟨rfl, rfl, fun _ _ => .ok h⟩ .nil, rfl, rfl, rfl, rfl⟩ .nil⟩

/-- Two users sign with two cards; and two users with the same card. -/
theorem indifferent_to_secrets_cardCast :
    let script : List Step := [.signDocument "a"]
    SameButSecrets ((opening (cardCast "1234" [1, 2, 3]) []).run script)
      ((opening (cardCast "98765" [4]) []).run script) ∧
    ((opening (cardCast "1234" [1, 2, 3]) []).run script).withoutPins =
      ((opening (cardCast "98765" [1, 2, 3]) []).run script).withoutPins :=
  ⟨(indifferent_to_secrets (cardCast_alike _ _ (.inr (by decide))) [] _).1,
    ((indifferent_to_secrets (cardCast_alike _ _ (.inl rfl)) [] _).2 (cardCast_alike _ _ rfl)).2⟩

end Play

end Rehearsal

end RemoteSigning
