import RemoteSigning.Proofs.Token.Selection
import RemoteSigning.Token.Backend

/-!
# Tasks that nobody cancels

Between the card module and a session a fault changes its kind, but a cancellation stays what it is. It does not come
from nowhere: a task of a card ends cancelled only if a call at the module does.

- `CardModule.Steady`: no call at the module is cancelled;
- `findToken_cases`: what looking for a token comes to;
- `fetch_uncancelled`, `sign_uncancelled`, `check_uncancelled`: then none of the tasks is.
-/

namespace RemoteSigning

/-- A call was not cancelled. -/
def Uncancelled {α : Type} (r : Except Fault α) : Prop := r ≠ .error .cancelled

section Uncancelled

variable {α β : Type}

theorem uncancelled_ok (a : α) : Uncancelled (.ok a) := nofun

theorem uncancelled_error {f : Fault} (h : f ≠ .cancelled) : Uncancelled (.error f : Except Fault α) :=
  fun he => h (Except.error.inj he)

theorem Uncancelled.map {r : Except Fault α} (h : Uncancelled r) (g : α → β) : Uncancelled (r.map g) := by
  cases r with
  | ok a => exact uncancelled_ok (g a)
  | error f => exact uncancelled_error fun he => h (he ▸ rfl)

theorem Fault.toDecline_ne_cancelled (f : Fault) : f.toDecline ≠ .cancelled := by
  intro h
  have hreason := f.reason?_toDecline
  rw [h] at hreason
  cases hreason

end Uncancelled

/-! ## Modules where no call is cancelled -/

/-- No call at a slot is cancelled. -/
structure Slot.Steady (s : Slot) : Prop where
  token : s.tokenFault ≠ some .cancelled
  opening : s.openFault ≠ some .cancelled
  objects : s.objectsFault ≠ some .cancelled
  key : s.keyFault ≠ some .cancelled
  sign : ∀ k ∈ s.keys, ∀ mechanism data, Uncancelled (k.sign mechanism data)

/-- No call at a card module is cancelled. -/
structure CardModule.Steady (m : CardModule) : Prop where
  load : m.loadFault ≠ some .cancelled
  listing : m.slotsFault ≠ some .cancelled
  slots : ∀ s ∈ m.slots, s.Steady

/-- A module that is not there cancels nothing. -/
theorem CardModule.steady_absent : CardModule.absent.Steady where
  load := by simp [absent, Fault.runtime]
  listing := by simp [absent]
  slots := by simp [absent]

namespace CardTask

variable {α β : Type}

theorem uncancelled_event (e : CardEvent) {fault : Option Fault} (h : fault ≠ some .cancelled) :
    Uncancelled (event e fault).2 := by
  cases fault with
  | none => exact uncancelled_ok ()
  | some f => exact uncancelled_error fun he => h (congrArg some he)

/-- One task after another is cancelled only if one of them is. -/
theorem uncancelled_bind {t : CardTask α} (ht : Uncancelled t.2) {next : α → CardTask β}
    (hn : ∀ a, t.2 = .ok a → Uncancelled (next a).2) : Uncancelled (t.bind next).2 := by
  unfold bind
  split
  next f hf => exact uncancelled_error fun he => ht (he ▸ hf)
  next a ha => exact hn a ha

/-- What one task after another comes to, if it comes to something. -/
theorem exists_of_bind_eq_ok {t : CardTask α} {next : α → CardTask β} {b : β} (h : (t.bind next).2 = .ok b) :
    ∃ a, t.2 = .ok a ∧ (next a).2 = .ok b := by
  unfold bind at h
  split at h
  · cases h
  next a ha => exact ⟨a, ha, h⟩

end CardTask

namespace CardModule

variable {m : CardModule} (hm : m.Steady) (c : CardConfig) (loaded : Bool)

/-! ## Looking for a token -/

/-- The token that is found is in one of the slots. -/
theorem mem_of_findIn {slots : List Slot} {s : Slot} (h : (findIn c slots).2 = .ok s) : s ∈ slots := by
  induction slots with
  | nil => cases h
  | cons x rest ih =>
    rw [findIn] at h
    split at h
    · exact List.mem_cons_of_mem x (ih h)
    · obtain ⟨-, -, h⟩ := CardTask.exists_of_bind_eq_ok h
      split at h
      · obtain rfl := Except.ok.inj h
        exact List.mem_cons_self
      · exact List.mem_cons_of_mem x (ih h)

theorem uncancelled_findIn {slots : List Slot} (h : ∀ s ∈ slots, s.Steady) : Uncancelled (findIn c slots).2 := by
  induction slots with
  | nil => exact uncancelled_error nofun
  | cons s rest ih =>
    have hrest := ih fun x hx => h x (List.mem_cons_of_mem s hx)
    rw [findIn]
    split
    · exact hrest
    · refine CardTask.uncancelled_bind (CardTask.uncancelled_event _ (h s List.mem_cons_self).token) fun _ _ => ?_
      split
      · exact uncancelled_ok s
      · exact hrest

theorem uncancelled_withSession {α : Type} {s : Slot} (hs : s.Steady) (login : Login) {task : CardTask α}
    (h : Uncancelled task.2) : Uncancelled (withSession s login task).2 := by
  unfold withSession
  split
  next f hf => exact uncancelled_error fun he => hs.opening (he ▸ hf)
  · exact h

include hm

theorem uncancelled_load : Uncancelled (m.load c loaded).2 := by
  unfold load
  split
  · exact uncancelled_ok ()
  · split
    · exact uncancelled_error nofun
    · exact uncancelled_error nofun
    · exact CardTask.uncancelled_event _ hm.load

/-- A token is looked for, and it is one of those in the slots. -/
theorem findToken_cases :
    Uncancelled (m.findToken c loaded).2 ∧ ∀ s, (m.findToken c loaded).2 = .ok s → s.Steady := by
  unfold findToken
  constructor
  · refine CardTask.uncancelled_bind (uncancelled_load hm c loaded) fun _ _ => ?_
    split
    next f hf => exact uncancelled_error fun he => hm.listing (he ▸ hf)
    · exact uncancelled_findIn c hm.slots
  · intro s hs
    obtain ⟨-, -, hs⟩ := CardTask.exists_of_bind_eq_ok hs
    split at hs
    · cases hs
    · exact hm.slots s (mem_of_findIn c hs)

/-! ## The tasks -/

omit hm in
/-- Certificates are looked at without a call at the module. -/
theorem uncancelled_choose (first : Certificate) (l : List Certificate) : Uncancelled (choose first l) := by
  induction l with
  | nil => exact uncancelled_ok first
  | cons d rest ih =>
    rw [choose]
    split
    · exact uncancelled_error (CertificateFault.toFault_ne_cancelled _)
    · exact uncancelled_ok d
    · exact ih

theorem uncancelled_readCertificate : Uncancelled (m.readCertificate c loaded).2 := by
  obtain ⟨htoken, hslot⟩ := findToken_cases hm c loaded
  refine CardTask.uncancelled_bind htoken fun s hs => ?_
  refine CardTask.uncancelled_bind (uncancelled_withSession (hslot s hs) .none ?_) fun l _ => ?_
  · split
    next f hf => exact uncancelled_error fun he => (hslot s hs).objects (he ▸ hf)
    · exact uncancelled_ok _
  · cases l with
    | nil => exact uncancelled_error nofun
    | cons first rest => exact uncancelled_choose first _

omit hm in
theorem uncancelled_applyKey {s : Slot} (hs : s.Steady) {k : CardKey} (hk : k ∈ s.keys) (h : HashToSign) :
    Uncancelled (applyKey k h).2 := by
  unfold applyKey
  split
  · exact uncancelled_error nofun
  · split
    · exact hs.sign k hk _ _
    · exact uncancelled_error nofun

omit hm in
/-- A private key is looked up, and it is one of those on the token. -/
theorem findKey_steady {s : Slot} (hs : s.Steady) (id : Option Bytes) :
    Uncancelled (findKey s id).2 ∧ ∀ k, (findKey s id).2 = .ok k → k ∈ s.keys := by
  unfold findKey
  constructor
  · refine CardTask.uncancelled_bind (CardTask.uncancelled_event _ hs.key) fun _ _ => ?_
    split
    · exact uncancelled_ok _
    · exact uncancelled_error nofun
    · exact uncancelled_error nofun
  · intro k hk
    obtain ⟨-, -, hk⟩ := CardTask.exists_of_bind_eq_ok hk
    split at hk
    next k' hfilter =>
      obtain rfl := Except.ok.inj hk
      exact (List.mem_filter.mp (hfilter ▸ List.mem_singleton_self k')).1
    · cases hk
    · cases hk

theorem uncancelled_signHash (d : Certificate) (h : HashToSign) (login : Login) :
    Uncancelled (m.signHash c loaded d h login).2 := by
  obtain ⟨htoken, hslot⟩ := findToken_cases hm c loaded
  refine CardTask.uncancelled_bind htoken fun s hs => uncancelled_withSession (hslot s hs) login ?_
  obtain ⟨hlookUp, hkey⟩ := findKey_steady (hslot s hs) d.keyRef
  exact CardTask.uncancelled_bind hlookUp fun k hk => uncancelled_applyKey (hslot s hs) (hkey k hk) h

theorem check_uncancelled : Uncancelled (m.check c loaded).result := by
  have hload := uncancelled_load hm c loaded
  unfold check
  split
  · exact uncancelled_ok true
  next heq =>
    rw [heq] at hload
    exact absurd rfl hload
  · exact uncancelled_ok false

theorem fetch_uncancelled : Uncancelled (m.fetch c loaded).result := by
  have hread := uncancelled_readCertificate hm c loaded
  unfold fetch
  split
  · exact uncancelled_ok _
  next heq =>
    rw [heq] at hread
    exact absurd rfl hread
  · exact uncancelled_error (Fault.toDecline_ne_cancelled _)

theorem sign_uncancelled (d : Certificate) (h : HashToSign) (login : Login) :
    Uncancelled (m.sign c loaded d h login).result := by
  have hsign := uncancelled_signHash hm c loaded d h login
  unfold sign
  split
  · exact uncancelled_ok _
  next heq =>
    rw [heq] at hsign
    exact absurd rfl hsign
  · exact uncancelled_error (Fault.toDecline_ne_cancelled _)

/-- A signature is cancelled only if the question for the PIN is. -/
theorem signAnswered_uncancelled (d : Certificate) (h : HashToSign) {answer : Except Fault (Option Text)}
    (ha : Uncancelled answer) : Uncancelled (m.signAnswered c loaded d h answer).result := by
  cases answer with
  | error f => exact uncancelled_error fun he => ha (he ▸ rfl)
  | ok entered =>
    cases entered with
    | none => exact uncancelled_error nofun
    | some pin => exact sign_uncancelled hm c loaded d h (.pin pin)

end CardModule

/-- A key in memory is not cancelled. -/
theorem SoftwareToken.sign_uncancelled (t : SoftwareToken) (d : Certificate) (h : HashToSign) :
    Uncancelled (t.sign d h).1 := by
  unfold sign
  split
  · exact uncancelled_error nofun
  · split
    · exact uncancelled_error nofun
    · split
      · exact uncancelled_ok _
      · exact uncancelled_error nofun

end RemoteSigning
