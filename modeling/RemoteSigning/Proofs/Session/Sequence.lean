import RemoteSigning.Proofs.Session.Acceptance

/-!
# Calls come one after the other

Over its whole life a session makes the calls of one protocol, in order and none of them twice, and it makes each only
because of the value that the one before has ended with. A call to the service is one request, or none if it cannot be
sent.

- `Trail.kinds_append_upcoming`: what has been called and what is still to come is the protocol;
- `Turn.InOrder` reads a dialogue turn by turn, `Trail.inOrder`: each call is made for a reason;
- `Trail.posted`: what goes out to the service are the requests of the calls;
- `Network.calls_in_sequence`: all of this for every session of a network.
-/

namespace RemoteSigning

variable {address : Text}

/-! ## The protocol -/

inductive CallKind where
  | select
  | fetch
  | phase1
  | sign
  | phase2
  | mobileId
  deriving DecidableEq, Repr

def Call.kind : Call → CallKind
  | .select _ => .select
  | .fetch .. => .fetch
  | .submit (.phase1 ..) => .phase1
  | .submit (.phase2 _) => .phase2
  | .submit (.mobileId ..) => .mobileId
  | .sign .. => .sign

def Signer.protocol : Signer → List CallKind
  | .localToken => [.select, .fetch, .phase1, .sign, .phase2]
  | .mobileId _ => [.mobileId]

/-- The calls that are still to come when a call is pending. -/
def Pending.upcoming : Pending → List CallKind
  | .select => [.fetch, .phase1, .sign, .phase2]
  | .fetch _ => [.phase1, .sign, .phase2]
  | .phase1 .. => [.sign, .phase2]
  | .sign .. => [.phase2]
  | .phase2 _ | .mobileId _ => []

theorem Pending.kind_first (s : Session) :
    ((first s.request.signer).call s).kind :: (first s.request.signer).upcoming = s.request.signer.protocol := by
  cases s.request.signer <;> rfl

theorem Pending.Leads.upcoming_eq {p p' : Pending} {v : Value} (h : p.Leads v p') (s : Session) :
    p.upcoming = (p'.call s).kind :: p'.upcoming := by
  cases h <;> rfl

theorem Call.filterMap_call?_opening (c : Call) : (c.opening address).filterMap Turn.call? = [c] := by
  have h : c.opening address = .asked c :: (c.opening address).tail := rfl
  rw [h, List.filterMap_cons, filterMap_call?_tail_opening]
  rfl

/-- What has been called and what is still to come is the protocol. -/
theorem Session.Trail.kinds_append_upcoming {s : Session} {p : Pending} {d : List Turn} (ht : s.Trail address p d) :
    (d.filterMap Turn.call?).map Call.kind ++ p.upcoming = s.request.signer.protocol := by
  induction ht with
  | first hp =>
    subst hp
    rw [Call.filterMap_call?_opening]
    exact Pending.kind_first s
  | next _ hh hl ih =>
    rw [List.filterMap_append, List.filterMap_append, filterMap_call?_of_isIncoming hh.isIncoming,
      Call.filterMap_call?_opening, List.append_nil, List.map_append, List.append_assoc, ← ih, hl.upcoming_eq s]
    rfl

/-! ## The reasons for calls -/

namespace Session

variable {s : Session} {last : Option (Call × Option (Except Fault Value))} {d : List Turn}

/-- A call is the first one, or the one before has ended with a value that leads to it. -/
inductive Because (s : Session) : Option (Call × Option (Except Fault Value)) → Call → Prop
  | first : Because s none ((Pending.first s.request.signer).call s)
  | next {p p' : Pending} {v : Value} : p.Leads v p' → Because s (some (p.call s, some (.ok v))) (p'.call s)

/-- Each call of a dialogue is made for a reason; the last call before the dialogue is given. -/
def InOrder (s : Session) : Option (Call × Option (Except Fault Value)) → List Turn → Prop
  | _, [] => True
  | last, t :: d => (∀ c, t = .asked c → s.Because last c) ∧ s.InOrder (Turn.track last t) d

theorem inOrder_append {e : List Turn} :
    s.InOrder last (d ++ e) ↔ s.InOrder last d ∧ s.InOrder (d.foldl Turn.track last) e := by
  induction d generalizing last with
  | nil => simp [InOrder]
  | cons t d ih => simp [InOrder, ih, and_assoc]

/-- What comes in is no call. -/
theorem inOrder_of_isIncoming (h : ∀ t ∈ d, t.isIncoming = true) : s.InOrder last d := by
  induction d generalizing last with
  | nil => trivial
  | cons t d ih =>
    refine ⟨fun c hc => ?_, ih fun t ht => h t (List.mem_cons_of_mem _ ht)⟩
    exact nomatch hc ▸ h t List.mem_cons_self

theorem inOrder_opening {c : Call} (h : s.Because last c) : s.InOrder last (c.opening address) := by
  have hcall : ∀ c', Turn.asked c = .asked c' → s.Because last c' := fun c' hc => Turn.asked.inj hc ▸ h
  unfold Call.opening
  split
  · exact ⟨hcall, trivial⟩
  · split
    · exact ⟨hcall, nofun, trivial⟩
    · exact ⟨hcall, trivial⟩

theorem Trail.inOrder {p : Pending} (ht : s.Trail address p d) : s.InOrder none d := by
  induction ht with
  | first hp => subst hp; exact inOrder_opening .first
  | next ht hh hl ih =>
    rw [inOrder_append, inOrder_append]
    refine ⟨⟨ih, inOrder_of_isIncoming hh.isIncoming⟩, ?_⟩
    have hlast : (_ : List Turn).foldl Turn.track none = _ := ht.lastCall?_append hh
    rw [hlast]
    exact inOrder_opening (.next hl)

/-- In a dialogue in order, the reason for a call has come before it. -/
theorem InOrder.because {before after : List Turn} {c : Call}
    (h : s.InOrder none (before ++ .asked c :: after)) : s.Because (RemoteSigning.lastCall? before) c :=
  (inOrder_append.mp h).2.1 c rfl

end Session

/-! ## Requests -/

def Turn.posted? : Turn → Option (Endpoint × Url × Text)
  | .posted e url body => some (e, url, body)
  | _ => none

/-- The request of a call to the service, if it can be sent. -/
def Call.sends? (address : Text) (c : Call) : Option (Endpoint × Url × Text) :=
  c.request?.bind fun o => (o.prepare address).toOption.map fun sent => (o.endpoint, sent)

/-- A request goes to its exchange at the address of the service. -/
theorem Outgoing.requestUrl_of_prepare {o : Outgoing} {url : Url} {body : Text}
    (h : o.prepare address = .ok (url, body)) : requestUrl address o.endpoint = .ok url := by
  obtain ⟨-, -, h⟩ := exists_of_bind_eq_ok h
  obtain ⟨url', hurl, h⟩ := exists_of_bind_eq_ok h
  obtain ⟨body', -, h⟩ := exists_of_bind_eq_ok h
  obtain ⟨-, -, h⟩ := exists_of_bind_eq_ok h
  obtain ⟨rfl, -⟩ := Prod.mk.inj (Except.ok.inj h)
  cases hr : requestUrl address o.endpoint with
  | error e => rw [hr] at hurl; cases hurl
  | ok u => rw [hr] at hurl; exact congrArg _ (Except.ok.inj hurl)

theorem Call.filterMap_posted?_opening (c : Call) :
    (c.opening address).filterMap Turn.posted? = (c.sends? address).toList := by
  unfold opening sends?
  cases c.request? with
  | none => rfl
  | some o =>
    dsimp only [Option.bind_some]
    cases o.prepare address <;> rfl

theorem filterMap_posted?_of_isIncoming {l : List Turn} (h : ∀ t ∈ l, t.isIncoming = true) :
    l.filterMap Turn.posted? = [] := by
  rw [List.filterMap_eq_nil_iff]
  intro t ht
  cases t with
  | posted => cases h _ ht
  | _ => rfl

namespace Session

/-- What goes out to the service are the requests of the calls. -/
theorem Trail.posted {s : Session} {p : Pending} {d : List Turn} (ht : s.Trail address p d) :
    d.filterMap Turn.posted? = (d.filterMap Turn.call?).filterMap (Call.sends? address) := by
  have hopening (c : Call) : (c.opening address).filterMap Turn.posted? =
      ((c.opening address).filterMap Turn.call?).filterMap (Call.sends? address) := by
    rw [Call.filterMap_posted?_opening, Call.filterMap_call?_opening, List.filterMap_cons]
    cases c.sends? address <;> rfl
  induction ht with
  | first => exact hopening _
  | next _ hh _ ih =>
    simp only [List.filterMap_append, filterMap_posted?_of_isIncoming hh.isIncoming,
      filterMap_call?_of_isIncoming hh.isIncoming, List.filterMap_nil, ih, hopening]

/-- A session with the local token sends nothing before it has a backend and its certificate. -/
theorem Trail.of_posted {s : Session} {p : Pending} {d : List Turn} (ht : s.Trail address p d) {e : Endpoint}
    {url : Url} {body : Text} (hm : .posted e url body ∈ d) (hs : s.request.signer = .localToken) :
    ∃ b c, [.asked (.select s.mode), .answered (.ok (.backend (some b))), .asked (.fetch b s.language),
      .answered (.ok (.certificate c))] <+: d := by
  cases p with
  | select =>
    obtain ⟨-, rfl⟩ := ht.select
    simp at hm
  | fetch b =>
    obtain ⟨-, rfl⟩ := ht.fetch
    simp at hm
  | phase1 b c =>
    obtain ⟨-, rfl⟩ := ht.phase1
    exact ⟨b, c, List.prefix_append ..⟩
  | sign b c h =>
    obtain ⟨-, _, _, _, -, -, rfl⟩ := ht.sign
    exact ⟨b, c, _, rfl⟩
  | phase2 sig =>
    obtain ⟨-, b, c, _, _, _, -, -, rfl⟩ := ht.phase2
    exact ⟨b, c, _, rfl⟩
  | mobileId m =>
    obtain ⟨hs', -⟩ := ht.mobileId
    exact nomatch hs.symm.trans hs'

end Session

namespace Network

/-- **Calls come one after the other.** Over the whole life of a session its calls are those of the protocol for its
signer, in order, none twice and none left out before the last. Each but the first is made because the one before has
ended with a value that leads to it. What goes out to the service is one request for each call to the service that can
be sent, to the exchange of this call; and with the local token nothing goes out before a backend has been selected and
its certificate has arrived. -/
theorem calls_in_sequence {c : Coordinator} {l : List (Text × Incident)} {id : Text} {s : Session}
    (h : ((init address c).run l).1.session? id = some s) :
    let d := turnsOf id ((init address c).run l).2
    (d.filterMap Turn.call?).map Call.kind <+: s.request.signer.protocol ∧
    (∀ before call after, d = before ++ .asked call :: after → s.Because (lastCall? before) call) ∧
    d.filterMap Turn.posted? = (d.filterMap Turn.call?).filterMap (Call.sends? address) ∧
    (∀ e url body, .posted e url body ∈ d → requestUrl address e = .ok url) ∧
    (s.request.signer = .localToken → ∀ e url body, .posted e url body ∈ d →
      ∃ b cert, [.asked (.select s.mode), .answered (.ok (.backend (some b))), .asked (.fetch b s.language),
        .answered (.ok (.certificate cert))] <+: d) := by
  intro d
  have hl := life_of_session? h
  by_cases hd : d = []
  · rw [hd]
    exact ⟨List.nil_prefix, fun before _ _ hsplit => absurd hsplit.symm (by simp), rfl, nofun, nofun⟩
  · obtain ⟨p, way, heard, ht, hd, hh⟩ := hl.exists_trail hd
    have hd : d = way ++ heard := hd
    have hcalls : d.filterMap Turn.call? = way.filterMap Turn.call? := by
      rw [hd, List.filterMap_append, filterMap_call?_of_isIncoming hh, List.append_nil]
    have hposted : d.filterMap Turn.posted? = way.filterMap Turn.posted? := by
      rw [hd, List.filterMap_append, filterMap_posted?_of_isIncoming hh, List.append_nil]
    have hway {e : Endpoint} {url : Url} {body : Text} (hm : .posted e url body ∈ d) : .posted e url body ∈ way :=
      Session.mem_way hh rfl (hd ▸ hm)
    have hinOrder : s.InOrder none d := by
      rw [hd, Session.inOrder_append]
      exact ⟨ht.inOrder, Session.inOrder_of_isIncoming hh⟩
    refine ⟨?_, fun before call after hsplit => ?_, ?_, fun e url body hm => ?_, fun hs e url body hm => ?_⟩
    · rw [hcalls, ← ht.kinds_append_upcoming]
      exact List.prefix_append ..
    · rw [hsplit] at hinOrder
      exact hinOrder.because
    · rw [hcalls, hposted, ht.posted]
    · obtain ⟨q, hq, -⟩ := ht.exists_of_outgoing (hway hm) rfl
      rcases Call.mem_opening hq with hc | ⟨o, url', body', -, hp, hc⟩
      · cases hc
      · obtain ⟨rfl, rfl, -⟩ := Turn.posted.inj hc
        exact Outgoing.requestUrl_of_prepare hp
    · obtain ⟨b, cert, hprefix⟩ := ht.of_posted (hway hm) hs
      exact ⟨b, cert, hprefix.trans (hd ▸ List.prefix_append ..)⟩

/-- A document for a person with Mobile-ID. -/
def phoneRequest : Request := ⟨"contract", .mobileId ⟨"60001019939", "+37200000366", by decide, by decide⟩, by decide⟩

/-- A session that asks for a signature by Mobile-ID. -/
def phoneRun : List (Text × Incident) := [("a", .plain (.open phoneRequest)), ("a", .plain (.start false 0))]

/-- When the token has signed, all five calls have been made, the last of them for its reason, and two requests have
gone out; with Mobile-ID it is one call and one request. -/
theorem calls_in_sequence_signedRun :
    let d := turnsOf "a" (sampleNetwork.run signedRun).2
    let d' := turnsOf "a" (sampleNetwork.run phoneRun).2
    (d.filterMap Turn.call?).length = 5 ∧ (∃ s before after, (sampleNetwork.run signedRun).1.session? "a" = some s ∧
      (d.filterMap Turn.call?).map Call.kind <+: s.request.signer.protocol ∧
      d = before ++ .asked (.submit (.phase2 sampleSignature)) :: after ∧
      s.Because (lastCall? before) (.submit (.phase2 sampleSignature))) ∧
    (d.filterMap Turn.posted?).map (·.2.1.text) =
      [Text.ofString "https://signing.test/p1", Text.ofString "https://signing.test/p2"] ∧
    (∀ e url body, .posted e url body ∈ d → requestUrl "https://signing.test" e = .ok url) ∧
    (d'.filterMap Turn.call?).map Call.kind = [.mobileId] ∧
    (d'.filterMap Turn.posted?).map (·.2.1.text) = [Text.ofString "https://signing.test/mid"] := by
  intro d d'
  have hlength : (d.filterMap Turn.call?).length = 5 := by decide +kernel
  have hm : .submit (.phase2 sampleSignature) ∈ d.filterMap Turn.call? := by decide +kernel
  obtain ⟨t, htd, hc⟩ := List.mem_filterMap.mp hm
  obtain rfl := Turn.eq_asked_of_call? hc
  obtain ⟨before, after, hsplit⟩ := List.append_of_mem htd
  obtain ⟨s, hs, -⟩ := exists_life htd
  obtain ⟨hkinds, hbecause, -, hurls, -⟩ := calls_in_sequence hs
  exact ⟨hlength, ⟨s, before, after, hs, hkinds, hsplit, hbecause _ _ _ hsplit⟩, by decide +kernel, hurls,
    by decide +kernel, by decide +kernel⟩

end Network

end RemoteSigning
