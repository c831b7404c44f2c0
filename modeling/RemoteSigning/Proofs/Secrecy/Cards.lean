import RemoteSigning.Proofs.Secrecy.Sessions
import RemoteSigning.Token.Backend

/-!
# Two cards that differ in their signatures

Two card modules give the same answers, except that the signatures of their keys need not be the same; and the PINs that
are given to them need not be the same either. What is done at the modules is the same up to the PIN that a card session
is opened with, what is recorded is the same, and what comes of it differs in the values of signatures only.

- `CardModule.Alike`: two such modules; `CardEvent.Alike`: what is the same up to a PIN;
- `TaskAlike`: what two tasks do and come to;
- `fetch_alike`, `sign_alike`, `check_alike`: the three tasks of a card;
- `signAnswered_alike`: a signature, with what the user has answered.
-/

namespace RemoteSigning

/-- Two ways to log in that differ in a PIN only. -/
inductive Login.Alike : Login → Login → Prop
  | same (l : Login) : Alike l l
  | pin (p q : Text) : Alike (.pin p) (.pin q)

/-- What two users have entered: both nothing, or PINs that need not be the same. -/
inductive EnteredAlike : Option Text → Option Text → Prop
  | same (entered : Option Text) : EnteredAlike entered entered
  | pin (p q : Text) : EnteredAlike (some p) (some q)

/-- The same is done at two modules, up to the PIN that a card session is opened with. -/
inductive CardEvent.Alike : CardEvent → CardEvent → Prop
  | same (e : CardEvent) : Alike e e
  | open (slot : Int) {l l' : Login} (granted : Bool) :
      l.Alike l' → Alike (.open slot l granted) (.open slot l' granted)

/-- Two keys that differ in their signatures only. -/
structure CardKey.Alike (L : Likeness) (k k' : CardKey) : Prop where
  id : k.id = k'.id
  type : k.type = k'.type
  sign (mechanism : Mechanism) (data : Bytes) : EndAlike L.alike (k.sign mechanism data) (k'.sign mechanism data)

/-- Two slots that differ in the signatures of their keys only. -/
structure Slot.Alike (L : Likeness) (s s' : Slot) : Prop where
  slotId : s.slotId = s'.slotId
  label : s.label = s'.label
  objects : s.objects = s'.objects
  keys : List.Forall₂ (CardKey.Alike L) s.keys s'.keys
  tokenFault : s.tokenFault = s'.tokenFault
  openFault : s.openFault = s'.openFault
  objectsFault : s.objectsFault = s'.objectsFault
  keyFault : s.keyFault = s'.keyFault

/-- Two modules that differ in the signatures of their keys only. -/
structure CardModule.Alike (L : Likeness) (m m' : CardModule) : Prop where
  loadFault : m.loadFault = m'.loadFault
  slotsFault : m.slotsFault = m'.slotsFault
  slots : List.Forall₂ (Slot.Alike L) m.slots m'.slots

/-- Two tasks do the same up to PINs, and end alike. -/
structure TaskAlike {α : Type} (R : α → α → Prop) (t t' : CardTask α) : Prop where
  events : List.Forall₂ CardEvent.Alike t.1 t'.1
  result : EndAlike R t.2 t'.2

/-- What came of two tasks. -/
structure Performed.Alike {α : Type} (R : α → α → Prop) (p p' : Performed α) : Prop where
  events : List.Forall₂ CardEvent.Alike p.events p'.events
  records : p.records = p'.records
  result : EndAlike R p.result p'.result

variable {L : Likeness}

/-! ## Tasks -/

section Tasks

variable {α β : Type} {R : α → α → Prop} {S : β → β → Prop}

theorem pure_alike {a b : α} (h : R a b) : TaskAlike R (.pure a) (.pure b) := ⟨.nil, .ok h⟩

theorem fail_alike (f : Fault) : TaskAlike R (.fail f) (.fail f) := ⟨.nil, .error f⟩

theorem TaskAlike.of_eq (hR : ∀ a, R a a) (t : CardTask α) : TaskAlike R t t :=
  ⟨forall₂_of_eq .same _, .of_eq hR _⟩

theorem TaskAlike.bind {t t' : CardTask α} (h : TaskAlike R t t') {next next' : α → CardTask β}
    (hnext : ∀ a b, R a b → TaskAlike S (next a) (next' b)) : TaskAlike S (t.bind next) (t'.bind next') := by
  obtain ⟨events, r⟩ := t
  obtain ⟨events', r'⟩ := t'
  obtain ⟨hevents, hr⟩ := h
  cases hr with
  | ok hab =>
    have hn := hnext _ _ hab
    exact ⟨List.rel_append hevents hn.events, hn.result⟩
  | error f => exact ⟨hevents, .error f⟩

end Tasks

namespace CardModule

/-! ## Tokens and keys -/

theorem load_alike {m m' : CardModule} (h : m.Alike L m') (c : CardConfig) (loaded : Bool) :
    m.load c loaded = m'.load c loaded := by
  unfold load
  rw [h.loadFault]

theorem findIn_alike (c : CardConfig) {l l' : List Slot} (h : List.Forall₂ (Slot.Alike L) l l') :
    TaskAlike (Slot.Alike L) (findIn c l) (findIn c l') := by
  induction h with
  | nil => exact fail_alike _
  | cons hs _ ih =>
    rw [findIn, findIn, hs.slotId, hs.tokenFault, hs.label]
    split
    · exact ih
    · refine (TaskAlike.of_eq (fun _ => rfl) _).bind (R := Eq) fun _ _ _ => ?_
      split
      · exact pure_alike hs
      · exact ih

theorem findToken_alike {m m' : CardModule} (h : m.Alike L m') (c : CardConfig) (loaded : Bool) :
    TaskAlike (Slot.Alike L) (m.findToken c loaded) (m'.findToken c loaded) := by
  unfold findToken
  rw [load_alike h, h.slotsFault]
  refine (TaskAlike.of_eq (fun _ => rfl) _).bind (R := Eq) fun _ _ _ => ?_
  split
  · exact fail_alike _
  · exact findIn_alike c h.slots

theorem withSession_alike {α : Type} {R : α → α → Prop} {s s' : Slot} (hs : s.Alike L s') {l l' : Login}
    (hl : l.Alike l') {t t' : CardTask α} (ht : TaskAlike R t t') :
    TaskAlike R (withSession s l t) (withSession s' l' t') := by
  unfold withSession
  rw [hs.openFault, hs.slotId]
  split
  next f _ => exact ⟨.cons (.open _ false hl) .nil, .error f⟩
  · exact ⟨List.rel_append (List.rel_append (.cons (.open _ true hl) .nil) ht.events) (.cons (.same _) .nil), ht.result⟩

/-- Certificates are read from two modules. -/
theorem readCertificate_alike {m m' : CardModule} (h : m.Alike L m') (c : CardConfig) (loaded : Bool) :
    TaskAlike Eq (m.readCertificate c loaded) (m'.readCertificate c loaded) := by
  unfold readCertificate
  refine (findToken_alike h c loaded).bind fun s s' hs => ?_
  dsimp only
  rw [hs.objectsFault, Slot.certificates, Slot.certificates, hs.objects, hs.label]
  refine (withSession_alike hs (.same .none) (.of_eq (fun _ => rfl) _)).bind (R := Eq) fun l l' hl => ?_
  subst hl
  exact .of_eq (fun _ => rfl) _

theorem findKey_alike {s s' : Slot} (hs : s.Alike L s') (id : Option Bytes) :
    TaskAlike (CardKey.Alike L) (findKey s id) (findKey s' id) := by
  unfold findKey
  rw [hs.slotId, hs.keyFault]
  refine (TaskAlike.of_eq (fun _ => rfl) _).bind (R := Eq) fun _ _ _ => ?_
  have hid (k k' : CardKey) (hk : k.Alike L k') : decide (some k.id = id) = true ↔ decide (some k'.id = id) = true := by
    rw [hk.id]
  have hkeys := List.rel_filter hid hs.keys
  generalize s.keys.filter (fun k => some k.id = id) = l at hkeys ⊢
  generalize s'.keys.filter (fun k => some k.id = id) = l' at hkeys ⊢
  cases hkeys with
  | nil => exact fail_alike _
  | cons hk hrest => cases hrest with
    | nil => exact pure_alike hk
    | cons => exact fail_alike _

theorem applyKey_alike {k k' : CardKey} (hk : k.Alike L k') (h : HashToSign) :
    TaskAlike L.alike (applyKey k h) (applyKey k' h) := by
  unfold applyKey
  rw [hk.type]
  split
  · exact fail_alike _
  · split
    · exact ⟨.cons (.same _) .nil, hk.sign _ _⟩
    · exact fail_alike _

/-- Hashes are signed at two modules, with ways to log in that differ in a PIN only. -/
theorem signHash_alike {m m' : CardModule} (hm : m.Alike L m') (c : CardConfig) (loaded : Bool)
    (certificate : Certificate) (h : HashToSign) {l l' : Login} (hl : l.Alike l') :
    TaskAlike L.alike (m.signHash c loaded certificate h l) (m'.signHash c loaded certificate h l') :=
  (findToken_alike hm c loaded).bind fun _ _ hs =>
    withSession_alike hs hl ((findKey_alike hs _).bind fun _ _ hk => applyKey_alike hk h)

/-- The same is loaded after the same has been done, up to PINs. -/
theorem loadedAfter_alike {m m' : CardModule} (h : m.Alike L m') (loaded : Bool) {es es' : List CardEvent}
    (hes : List.Forall₂ CardEvent.Alike es es') : m.loadedAfter loaded es = m'.loadedAfter loaded es' := by
  unfold loadedAfter
  rw [h.loadFault]
  congr 2
  induction hes with
  | nil => rfl
  | cons he _ ih =>
    rw [List.any_cons, List.any_cons, ih]
    cases he <;> rfl

/-! ## The tasks of a card -/

/-- Certificates are read, and it is recorded what they are. -/
theorem fetch_alike {m m' : CardModule} (h : m.Alike L m') (c : CardConfig) (loaded : Bool) :
    Performed.Alike Eq (m.fetch c loaded) (m'.fetch c loaded) := by
  have ht := readCertificate_alike h c loaded
  unfold fetch
  generalize m.readCertificate c loaded = t at ht ⊢
  generalize m'.readCertificate c loaded = t' at ht ⊢
  obtain ⟨events, r⟩ := t
  obtain ⟨events', r'⟩ := t'
  obtain ⟨hevents, hr⟩ := ht
  cases hr with
  | ok hc => exact ⟨hevents, by rw [hc], .ok hc⟩
  | error f => cases f <;> exact ⟨hevents, rfl, .error _⟩

/-- Hashes are signed; what is recorded does not tell the signature or the PIN. -/
theorem sign_alike {m m' : CardModule} (hm : m.Alike L m') (c : CardConfig) (loaded : Bool) (certificate : Certificate)
    (h : HashToSign) {l l' : Login} (hl : l.Alike l') :
    Performed.Alike L.alike (m.sign c loaded certificate h l) (m'.sign c loaded certificate h l') := by
  have ht := signHash_alike hm c loaded certificate h hl
  unfold sign
  generalize m.signHash c loaded certificate h l = t at ht ⊢
  generalize m'.signHash c loaded certificate h l' = t' at ht ⊢
  obtain ⟨events, r⟩ := t
  obtain ⟨events', r'⟩ := t'
  obtain ⟨hevents, hr⟩ := ht
  cases hr with
  | ok hv => exact ⟨hevents, rfl, .ok hv⟩
  | error f => cases f <;> exact ⟨hevents, rfl, .error _⟩

theorem check_alike {m m' : CardModule} (h : m.Alike L m') (c : CardConfig) (loaded : Bool) :
    Performed.Alike Eq (m.check c loaded) (m'.check c loaded) := by
  unfold check
  rw [load_alike h]
  exact ⟨forall₂_of_eq .same _, rfl, .of_eq (fun _ => rfl) _⟩

/-- Signs with what two users have answered. -/
theorem signAnswered_alike {m m' : CardModule} (hm : m.Alike L m') (c : CardConfig) (loaded : Bool)
    (certificate : Certificate) (h : HashToSign) {r r' : Except Fault (Option Text)} (hr : EndAlike EnteredAlike r r') :
    Performed.Alike L.alike (m.signAnswered c loaded certificate h r) (m'.signAnswered c loaded certificate h r') := by
  cases hr with
  | error f => exact ⟨.nil, rfl, .error f⟩
  | @ok entered _ he => cases he with
    | pin p q => exact sign_alike hm c loaded certificate h (.pin p q)
    | same => cases entered with
      | none => exact ⟨.nil, rfl, .error _⟩
      | some p => exact sign_alike hm c loaded certificate h (.same (.pin p))

end CardModule

end RemoteSigning
