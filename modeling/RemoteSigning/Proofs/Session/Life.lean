import RemoteSigning.Proofs.Session.Dialogue

/-!
# What has passed in the life of a session

`Session.Life` is the invariant that ties the turns of a session to what it is now: nothing has passed before its run,
the way to a call while it waits for this call, and the way to a call with its end when the run is over.

- `Life.of_pending`, `Life.of_overhears`: what the invariant says of a session that waits for a call;
- `Session.life_of_moves`: every move keeps it.
-/

namespace RemoteSigning

variable {address : Text}

namespace Session

/-- All that has passed so far, for what the session now is. -/
inductive Life (address : Text) (s : Session) : List Turn → Prop
  | unstarted : s.started = false → s.pending? = none → s.state = .idle → Life address s []
  | gaveUp : s.started = true → s.pending? = none → s.state = .failed .userCancelled none → Life address s []
  | waiting {p : Pending} {d : List Turn} :
      s.started = true → s.pending? = some p → s.state = p.state → s.Trail address p d → Life address s d
  | settled {abandoned : Bool} {p : Pending} {r : Except Fault Value} {d heard : List Turn} :
      s.started = true → s.pending? = none → s.Trail address p d → (p.call s).Hears address r heard →
        p.Settles abandoned r s.state → Life address s (d ++ heard)
  | escaped {abandoned : Bool} {p : Pending} {r : Except Fault Value} {f : Fault} {d heard : List Turn} :
      s.started = true → s.pending? = none → s.state = p.state → s.Trail address p d →
        (p.call s).Hears address r heard → p.Escapes abandoned r f → Life address s (d ++ heard)

namespace Life

variable {s s' : Session} {d : List Turn}

theorem fresh (id : Text) (request : Request) (mode : ModeChoice) (language : Text) :
    (fresh id request mode language).Life address [] := .unstarted rfl rfl rfl

/-- Nothing has passed before the run begins. -/
theorem of_not_started (h : s.Life address d) (hs : s.started = false) : d = [] := by
  cases h with
  | unstarted => rfl
  | gaveUp hs' => rfl
  | waiting hs' => exact absurd (hs'.symm.trans hs) (by decide)
  | settled hs' => exact absurd (hs'.symm.trans hs) (by decide)
  | escaped hs' => exact absurd (hs'.symm.trans hs) (by decide)

/-- All that has passed led to the pending call. -/
theorem of_pending {p : Pending} (h : s.Life address d) (hp : s.pending? = some p) :
    s.started = true ∧ s.state = p.state ∧ s.Trail address p d := by
  cases h with
  | waiting hs hp' hstate ht =>
    obtain rfl := Option.some.inj (hp'.symm.trans hp)
    exact ⟨hs, hstate, ht⟩
  | unstarted _ hn => exact nomatch hn.symm.trans hp
  | gaveUp _ hn => exact nomatch hn.symm.trans hp
  | settled _ hn => exact nomatch hn.symm.trans hp
  | escaped _ hn => exact nomatch hn.symm.trans hp

theorem keeps (h : s.Life address d) (hk : s.Keeps s') : s'.Life address d := by
  obtain ⟨hrequest, hmode, hlanguage, hstate, -, hstarted, hpending⟩ := hk
  have hcall := Pending.call_congr hrequest hmode hlanguage
  cases h with
  | unstarted h₁ h₂ h₃ => exact .unstarted (hstarted ▸ h₁) (hpending ▸ h₂) (hstate ▸ h₃)
  | gaveUp h₁ h₂ h₃ => exact .gaveUp (hstarted ▸ h₁) (hpending ▸ h₂) (hstate ▸ h₃)
  | waiting h₁ h₂ h₃ ht =>
    exact .waiting (hstarted ▸ h₁) (hpending ▸ h₂) (hstate ▸ h₃) (ht.congr _ hrequest hmode hlanguage)
  | settled h₁ h₂ ht hh he =>
    exact .settled (hstarted ▸ h₁) (hpending ▸ h₂) (ht.congr _ hrequest hmode hlanguage) (hcall _ ▸ hh) (hstate ▸ he)
  | escaped h₁ h₂ h₃ ht hh he =>
    exact .escaped (hstarted ▸ h₁) (hpending ▸ h₂) (hstate ▸ h₃) (ht.congr _ hrequest hmode hlanguage) (hcall _ ▸ hh) he

end Life

/-- What has passed when a pending call ends. -/
theorem Life.of_overhears {s : Session} {d heard : List Turn} {p : Pending} {r : Except Fault Value}
    (hd : s.Life address d) (hp : s.pending? = some p) (ho : s.Overhears address (some r) heard) :
    s.started = true ∧ s.state = p.state ∧ s.Trail address p d ∧ (p.call s).Hears address r heard := by
  obtain ⟨hs, hstate, ht⟩ := hd.of_pending hp
  cases ho with
  | answer hp' hh =>
    obtain rfl := Option.some.inj (hp.symm.trans hp')
    exact ⟨hs, hstate, ht, hh⟩

/-- A call is under way when all that leads to it has passed. -/
theorem Trail.calling {s : Session} {p : Pending} {d : List Turn} (ht : s.Trail address p d) (hs : s.started = true)
    (n : Nat) : (s.calling p n).Life address d :=
  .waiting hs rfl rfl (ht.congr (s.calling p n) rfl rfl rfl)

/-- Every move keeps the invariant. -/
theorem life_of_moves {s s' : Session} {d turns : List Turn} {heard : Option (Except Fault Value)} {calls : List Call}
    {outcomes : List (Except Fault State)} (hd : s.Life address d) (ho : s.Overhears address heard turns)
    (hm : s.Moves heard s' calls outcomes) : s'.Life address (d ++ turns ++ calls.flatMap (Call.opening address)) := by
  -- Only the last three moves hear something, and each from the call to which the trail has led.
  cases hm with
  | rests hk =>
    cases ho
    simpa using hd.keeps hk
  | refuses =>
    cases ho
    simpa using hd
  | begins hs =>
    cases ho
    obtain rfl := hd.of_not_started hs
    rw [List.flatMap_singleton]
    have ht : s.begun.Trail address _ _ := .first rfl
    exact ht.calling rfl _
  | givesUp hs =>
    cases ho
    obtain rfl := hd.of_not_started hs
    exact .gaveUp rfl rfl rfl
  | goesOn hp _ hl =>
    obtain ⟨hs, -, ht, hh⟩ := hd.of_overhears hp ho
    rw [List.flatMap_singleton]
    exact (ht.next hh hl).calling hs _
  | @ends p r final hp he =>
    obtain ⟨hs, -, ht, hh⟩ := hd.of_overhears hp ho
    have hcall : p.call (s.ended final) = p.call s := Pending.call_congr rfl rfl rfl p
    rw [List.flatMap_nil, List.append_nil]
    exact .settled hs rfl (ht.congr (s.ended final) rfl rfl rfl) (hcall ▸ hh) he
  | @escapes p r f hp he =>
    obtain ⟨hs, hstate, ht, hh⟩ := hd.of_overhears hp ho
    have hcall : p.call s.left = p.call s := Pending.call_congr rfl rfl rfl p
    rw [List.flatMap_nil, List.append_nil]
    exact .escaped hs rfl hstate (ht.congr s.left rfl rfl rfl) (hcall ▸ hh) he

end Session

end RemoteSigning
