import RemoteSigning.Proofs.Session.Conduct

/-!
# The fault that escapes

A run turns whatever a call ends with into a final state. What it does on its own between two calls is not guarded in
this way, and one thing there can fail: the kind of the key in the certificate, which is compared with the algorithm of
the hash, cannot always be told. Then the run ends with that fault and leaves the session where it was.

- `KeyFault` is how this comes about, `stumbles_first_iff`: it is the only way;
- `conduct_ends_iff`: every other run ends in a final state;
- `conduct_of_foreignKey`: a run that does not.
-/

namespace RemoteSigning

namespace Session

/-- Nobody asks to cancel, and the first exchange brings a hash for a certificate the kind of whose key cannot be
told. -/
structure KeyFault (w : Collaborators) (request : Request) (mode : ModeChoice) (language : Text) (c : Certificate)
    (e : CertificateFault) : Prop where
  signer : request.signer = .localToken
  calls : ∃ b h, (w (.select mode)).Brings (.backend (some b)) ∧ (w (.fetch b language)).Brings (.certificate c) ∧
    (w (.submit (.phase1 request.document (some c)))).Brings (.reply (.hash h))
  key : c.keyType = .error e

/-- There is at most one such certificate in a run. -/
theorem KeyFault.unique {w : Collaborators} {request : Request} {mode : ModeChoice} {language : Text}
    {c c' : Certificate} {e e' : CertificateFault} (h : KeyFault w request mode language c e)
    (h' : KeyFault w request mode language c' e') : c = c' ∧ e = e' := by
  obtain ⟨-, ⟨b, _, hb, hc, -⟩, hk⟩ := h
  obtain ⟨-, ⟨b', _, hb', hc', -⟩, hk'⟩ := h'
  obtain rfl := Option.some.inj (Value.backend.inj (hb.unique hb'))
  obtain rfl := Value.certificate.inj (hc.unique hc')
  exact ⟨rfl, Except.error.inj (hk.symm.trans hk')⟩

variable {w : Collaborators} {s : Session} {c : Certificate} {e : CertificateFault}

/-! ## Where runs stumble -/

theorem not_stumbles_phase2 {sig : Signature} : ¬ Stumbles w s (.phase2 sig) c e := by
  intro h
  cases h with
  | later _ hl => cases hl

theorem not_stumbles_sign {b : Handle} {c' : Certificate} {h : HashToSign} : ¬ Stumbles w s (.sign b c' h) c e := by
  intro h
  cases h with
  | later _ hl hs =>
    cases hl
    exact not_stumbles_phase2 hs

theorem stumbles_phase1_iff {b : Handle} {c' : Certificate} :
    Stumbles w s (.phase1 b c') c e ↔
      c' = c ∧ c.keyType = .error e ∧
        ∃ h, (w (.submit (.phase1 s.request.document (some c)))).Brings (.reply (.hash h)) := by
  constructor
  · intro h
    cases h with
    | here hv hk => exact ⟨rfl, hk, _, hv⟩
    | later _ hl hs =>
      cases hl
      exact absurd hs not_stumbles_sign
  · rintro ⟨rfl, hk, h, hv⟩
    exact .here hv hk

/-- A run stumbles over a key in one way only. -/
theorem stumbles_first_iff :
    Stumbles w s (.first s.request.signer) c e ↔ KeyFault w s.request s.mode s.language c e := by
  constructor
  · intro h
    cases hs : s.request.signer with
    | mobileId p =>
      rw [hs] at h
      cases h with
      | later _ hl => cases hl
    | localToken =>
      rw [hs] at h
      cases h with
      | later hb hl h =>
        cases hl
        cases h with
        | later hc hl h =>
          cases hl
          obtain ⟨rfl, hk, hash, hv⟩ := stumbles_phase1_iff.mp h
          exact ⟨hs, ⟨_, hash, hb, hc, hv⟩, hk⟩
  · rintro ⟨hs, ⟨b, h, hb, hc, hv⟩, hk⟩
    rw [hs]
    exact .later hb .fetch (.later hc .phase1 (.here hv hk))

/-- A run that nobody has given up before it starts ends in a final state, or it stumbles over a key. -/
theorem ending_conduct (w : Collaborators) {s : Session} (hs : s.started = false) (hc : s.cancelRequested = false)
    (n : Nat) :
    (s.conduct w n).1.pending? = none ∧ Ending w s (.first s.request.signer) (s.conduct w n).1 (s.conduct w n).2 := by
  rw [conduct_of_calm hs hc]
  have hcall : ∀ p : Pending, p.call (s.begun.calling (.first s.request.signer) n) = p.call s :=
    Pending.call_congr rfl rfl rfl
  have hat : (s.begun.calling (.first s.request.signer) n).At (.first s.request.signer) := ⟨rfl, rfl, hc⟩
  exact ending_rounds w hcall hat (Pending.callsLeft_first_le _)

/-- A run with such a certificate ends with the fault of its key. -/
theorem Ending.of_keyFault {s₀ : Session} {outcomes : List (Except Fault State)}
    (h : Ending w s₀ (.first s₀.request.signer) s outcomes) (hk : KeyFault w s₀.request s₀.mode s₀.language c e) :
    outcomes = [.error e.toFault] ∧ s.state = .phase1Submitting c := by
  cases h with
  | stumbles hs hstate =>
    obtain ⟨rfl, rfl⟩ := hk.unique (stumbles_first_iff.mp hs)
    exact ⟨rfl, hstate⟩
  | settles hn => exact absurd (stumbles_first_iff.mpr hk) (hn c e)

/-! ## Ends of runs -/

/-- **The fault that escapes.** Whatever the token, the service and the user do, a run comes to its end, and it ends in
a final state unless nobody asks to cancel it before its first exchange is over and the certificate then has a key whose
kind cannot be told. In that case it ends with this fault, in the state of the first exchange. -/
theorem conduct_ends_iff (id : Text) (request : Request) (mode : ModeChoice) (language : Text) (before : List Bool)
    (w : Collaborators) (n : Nat) :
    let x := ((fresh id request mode language).abandon before).conduct w n
    x.1.pending? = none ∧
      ((∃ final, x.2 = [.ok final] ∧ x.1.state = final ∧ final.isTerminal = true) ↔
        ¬ (before = [] ∧ ∃ c e, KeyFault w request mode language c e)) ∧
      ∀ c e, before = [] → KeyFault w request mode language c e →
        x.2 = [.error e.toFault] ∧ x.1.state = .phase1Submitting c := by
  intro x
  have hk := (fresh id request mode language).keeps_abandon before
  have hc : ((fresh id request mode language).abandon before).cancelRequested = !before.isEmpty :=
    cancelRequested_abandon rfl before
  cases before with
  | cons own before =>
    have hx : x = (_, _) := conduct_of_abandoned hk.started hc w n
    rw [hx]
    exact ⟨rfl, ⟨fun _ h => absurd h.1 (List.cons_ne_nil _ _), fun _ => ⟨_, rfl, rfl, rfl⟩⟩, nofun⟩
  | nil =>
    obtain ⟨hidle, he⟩ : x.1.pending? = none ∧ Ending w (fresh id request mode language) _ x.1 x.2 :=
      ending_conduct w rfl rfl n
    refine ⟨hidle, ⟨?_, fun hn => ?_⟩, fun c e _ hkey => he.of_keyFault hkey⟩
    · rintro ⟨final, hfinal, -⟩ ⟨-, c, e, hkey⟩
      exact nomatch hfinal.symm.trans (he.of_keyFault hkey).1
    · generalize x.1 = s', x.2 = outcomes at he
      cases he with
      | stumbles hs => exact absurd ⟨rfl, _, _, stumbles_first_iff.mp hs⟩ hn
      | settles _ ht => exact ⟨_, rfl, rfl, ht⟩

/-- A certificate whose key is named by an identifier that is no kind of key. -/
def foreignKey : Certificate where
  der := [
    48, 130, 1, 81, 48, 129, 248, 160, 3, 2, 1, 2, 2, 5, 18, 52, 86, 120, 144, 48, 10, 6, 8, 42, 134, 72, 206, 61,
    4, 3, 2, 48, 26, 49, 11, 48, 9, 6, 3, 85, 4, 6, 19, 2, 69, 69, 49, 11, 48, 9, 6, 3, 85, 4, 3, 12, 2, 67, 65, 48,
    30, 23, 13, 50, 52, 48, 49, 48, 49, 48, 48, 48, 48, 48, 48, 90, 23, 13, 51, 52, 48, 49, 48, 49, 48, 48, 48, 48,
    48, 48, 90, 48, 51, 49, 11, 48, 9, 6, 3, 85, 4, 6, 19, 2, 69, 69, 49, 36, 48, 34, 6, 3, 85, 4, 3, 12, 27, 197,
    189, 65, 73, 75, 79, 86, 83, 75, 73, 44, 73, 71, 79, 82, 44, 51, 55, 49, 48, 49, 48, 49, 48, 48, 50, 49, 48, 89,
    48, 19, 6, 7, 42, 134, 72, 206, 61, 2, 5, 6, 8, 42, 134, 72, 206, 61, 3, 1, 7, 3, 66, 0, 4, 28, 225, 7, 32, 224,
    63, 204, 7, 162, 42, 116, 74, 36, 210, 64, 177, 101, 20, 66, 94, 88, 88, 25, 221, 222, 115, 75, 186, 145, 82,
    215, 38, 206, 218, 104, 34, 28, 116, 113, 74, 252, 61, 124, 245, 213, 156, 141, 7, 197, 249, 36, 74, 66, 121,
    192, 125, 141, 87, 186, 113, 227, 7, 4, 153, 163, 18, 48, 16, 48, 14, 6, 3, 85, 29, 15, 1, 1, 255, 4, 4, 3, 2,
    6, 64, 48, 10, 6, 8, 42, 134, 72, 206, 61, 4, 3, 2, 3, 72, 0, 48, 69, 2, 33, 0, 229, 162, 165, 252, 147, 103,
    202, 151, 140, 85, 26, 222, 59, 36, 159, 11, 84, 37, 135, 88, 50, 246, 88, 246, 238, 195, 3, 146, 118, 172, 244,
    176, 2, 32, 123, 137, 213, 81, 220, 212, 104, 221, 112, 145, 241, 246, 164, 255, 182, 61, 46, 181, 207, 19, 11,
    136, 251, 210, 97, 231, 25, 86, 110, 206, 80, 149]

theorem exists_keyType_foreignKey : ∃ e, foreignKey.keyType = .error e := by
  have h : foreignKey.keyType.isOk = false := by decide +kernel
  cases hk : foreignKey.keyType with
  | error e => exact ⟨e, rfl⟩
  | ok => rw [hk] at h; cases h

/-- A token that has this certificate, and a service that answers with a hash. -/
def foreignKeyCollaborators : Collaborators
  | .select _ => ⟨[], .ok (.backend (some 1)), rfl, nofun⟩
  | .fetch .. => ⟨[], .ok (.certificate foreignKey), rfl, nofun⟩
  | .submit (.phase1 ..) => ⟨[], .ok (.reply (.hash ⟨[102, 111, 111], ⟨.sha512, some .ec⟩⟩)), rfl, nofun⟩
  | .submit _ | .sign .. => ⟨[], .error (.runtime "no answer"), rfl, nofun⟩

/-- A run which nobody disturbs ends with a fault, and its session has no final state. -/
theorem conduct_of_foreignKey :
    let x := (fresh "a" sampleRequest (.mode .auto) "en").conduct foreignKeyCollaborators 0
    (∃ f, x.2 = [.error f]) ∧ x.1.pending? = none ∧ x.1.state = .phase1Submitting foreignKey ∧
      x.1.state.isTerminal = false := by
  intro x
  obtain ⟨e, hkey⟩ := exists_keyType_foreignKey
  have hfault : KeyFault foreignKeyCollaborators sampleRequest (.mode .auto) "en" foreignKey e :=
    ⟨rfl, ⟨1, _, ⟨rfl, rfl⟩, ⟨rfl, rfl⟩, ⟨rfl, rfl⟩⟩, hkey⟩
  obtain ⟨hidle, he⟩ : x.1.pending? = none ∧ Ending foreignKeyCollaborators (fresh "a" _ _ _) _ x.1 x.2 :=
    ending_conduct _ rfl rfl 0
  obtain ⟨houtcomes, hstate⟩ := he.of_keyFault hfault
  exact ⟨⟨_, houtcomes⟩, hidle, hstate, by rw [hstate]; rfl⟩

end Session

end RemoteSigning
