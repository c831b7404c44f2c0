import RemoteSigning.Proofs.Token.Selection
import RemoteSigning.Rehearsal.Stage

/-!
# Signatures with a card

What is done at a card module to sign one hash, and what comes of it. The user is asked first; then one token is opened,
one key is looked up on it by the reference in the certificate, and that key is applied once if it suits the algorithm.

- `SignCourse` lists the ways a signature can go, `CardModule.signHash_course`: there are no others;
- `SignCourse.openings_eq`, `SignCourse.lookUps_eq` and `SignCourse.operations_eq` read off what was done;
- `CardModule.signAsking_answers`: when the user is asked, what is done at the module, and when there is a signature;
- `Stage.askSignature_card`, `Stage.signWithPin_card`: a rehearsal plays the same, with one question and not more.
-/

namespace RemoteSigning

/-! ## What is seen at a module -/

namespace CardEvent

/-- A token that is opened, with what it is given to log in. -/
def opening? : CardEvent → Option (Int × Login)
  | .open slot login _ => some (slot, login)
  | _ => none

def lookUp? : CardEvent → Option (Int × Option Bytes)
  | .getKey slot id => some (slot, id)
  | _ => none

/-- A private key that is applied. -/
def operation? : CardEvent → Option (Bytes × Mechanism)
  | .keySign data mechanism => some (data, mechanism)
  | _ => none

def openings (es : List CardEvent) : List (Int × Login) := es.filterMap opening?

def lookUps (es : List CardEvent) : List (Int × Option Bytes) := es.filterMap lookUp?

/-- The uses of private keys. -/
def operations (es : List CardEvent) : List (Bytes × Mechanism) := es.filterMap operation?

/-- Whoever does not look at a search sees what comes after it. -/
theorem filterMap_search_append {β : Type} {f : CardEvent → Option β} (hf : ∀ e, e.isSearch = true → f e = none)
    {search : List CardEvent} (hs : ∀ e ∈ search, e.isSearch = true) (rest : List CardEvent) :
    (search ++ rest).filterMap f = rest.filterMap f := by
  have hnone : ∀ e ∈ search, f e = none := fun e he => hf e (hs e he)
  rw [List.filterMap_append, List.filterMap_eq_nil_iff.mpr hnone, List.nil_append]

theorem opening?_of_isSearch {e : CardEvent} (h : e.isSearch = true) : e.opening? = none := by
  cases e <;> first | rfl | cases h

theorem lookUp?_of_isSearch {e : CardEvent} (h : e.isSearch = true) : e.lookUp? = none := by
  cases e <;> first | rfl | cases h

theorem operation?_of_isSearch {e : CardEvent} (h : e.isSearch = true) : e.operation? = none := by
  cases e <;> first | rfl | cases h

end CardEvent

/-! ## Keys and PINs -/

/-- The way to log in: with what the user has answered, or by the reader if there is nobody to ask. -/
inductive CardConfig.LogsIn (c : CardConfig) (answer : Except Fault (Option Text)) : Login → Prop
  | protectedPath : c.prompts = false → c.LogsIn answer .protectedPath
  | pin {entered : Text} : c.prompts = true → answer = .ok (some entered) → c.LogsIn answer (.pin entered)

/-- How a key is applied to a hash: an RSA key to the digest with its hash function, a key on a curve to the digest, and
either only if the algorithm names no other kind of key. -/
inductive CardKey.Prepares (k : CardKey) (h : HashToSign) : Bytes → Mechanism → Prop
  | rsa : k.type = .known .rsa → h.algorithm.key = none ∨ h.algorithm.key = some .rsa →
      k.Prepares h (h.hashName.digestInfo h.digest) .rsaPkcs
  | ec : k.type = .known .ec → h.algorithm.key = none ∨ h.algorithm.key = some .ec → k.Prepares h h.digest .ecdsa

/-- Why a key cannot be applied to a hash. -/
inductive CardKey.Unsuited (k : CardKey) (h : HashToSign) : Text → Prop
  | type {n : Nat} : k.type = .other n → k.Unsuited h ("Unsupported key type " ++ Text.ofNat n)
  | algorithm {type : KeyType} : k.type = .known type → h.algorithm.key ≠ none → h.algorithm.key ≠ some type →
      k.Unsuited h
        (Text.ofString h.algorithm.identifier ++ " cannot be used with a " ++ Text.ofString type.name ++ " key")

/-- A key is applied in one way. -/
theorem CardKey.Prepares.unique {k : CardKey} {h : HashToSign} {data data' : Bytes} {mechanism mechanism' : Mechanism}
    (hp : k.Prepares h data mechanism) (hp' : k.Prepares h data' mechanism') :
    data = data' ∧ mechanism = mechanism' := by
  cases hp with
  | rsa ht =>
    cases hp' with
    | rsa => exact ⟨rfl, rfl⟩
    | ec ht' => exact nomatch CardKeyType.known.inj (ht.symm.trans ht')
  | ec ht =>
    cases hp' with
    | rsa ht' => exact nomatch CardKeyType.known.inj (ht.symm.trans ht')
    | ec => exact ⟨rfl, rfl⟩

/-- A key that can be applied has a kind that the algorithm allows. -/
theorem CardKey.Prepares.exists_type {k : CardKey} {h : HashToSign} {data : Bytes} {mechanism : Mechanism}
    (hp : k.Prepares h data mechanism) :
    ∃ type, k.type = .known type ∧ (h.algorithm.key = none ∨ h.algorithm.key = some type) := by
  cases hp with
  | rsa ht ha => exact ⟨_, ht, ha⟩
  | ec ht ha => exact ⟨_, ht, ha⟩

/-- A key that can be applied is not unsuited. -/
theorem CardKey.Prepares.not_unsuited {k : CardKey} {h : HashToSign} {data : Bytes} {mechanism : Mechanism}
    {message : Text} (hp : k.Prepares h data mechanism) : ¬ k.Unsuited h message := by
  obtain ⟨type, ht, ha⟩ := hp.exists_type
  intro hu
  cases hu with
  | type ht' => exact nomatch ht.symm.trans ht'
  | algorithm ht' hn hk =>
    obtain rfl := CardKeyType.known.inj (ht.symm.trans ht')
    exact ha.elim hn hk

/-- A key is refused in one way. -/
theorem CardKey.Unsuited.unique {k : CardKey} {h : HashToSign} {message message' : Text} (hu : k.Unsuited h message)
    (hu' : k.Unsuited h message') : message = message' := by
  cases hu with
  | type ht =>
    cases hu' with
    | type ht' => rw [CardKeyType.other.inj (ht.symm.trans ht')]
    | algorithm ht' => exact nomatch ht.symm.trans ht'
  | algorithm ht =>
    cases hu' with
    | type ht' => exact nomatch ht.symm.trans ht'
    | algorithm ht' => rw [CardKeyType.known.inj (ht.symm.trans ht')]

namespace CardModule

variable {m : CardModule} {c : CardConfig} {loaded : Bool} {d : Certificate} {h : HashToSign} {login : Login}
  {s : Slot} {k : CardKey}

/-- A key is either applied, once and in the way that suits it, or refused. -/
theorem applyKey_cases (k : CardKey) (h : HashToSign) :
    (∃ data mechanism, k.Prepares h data mechanism ∧
      applyKey k h = ([.keySign data mechanism], k.sign mechanism data)) ∨
    ∃ message, k.Unsuited h message ∧ applyKey k h = .fail (.decline .tokenError message) := by
  cases ht : k.type with
  | other n =>
    refine .inr ⟨_, .type ht, ?_⟩
    simp [applyKey, ht]
  | known type =>
    by_cases ha : h.algorithm.admits (some type) = true
    · have hkey := (h.algorithm.admits_some type).mp ha
      left
      cases type with
      | rsa => exact ⟨_, _, .rsa ht hkey, by simp [applyKey, ht, ha, preparation]⟩
      | ec => exact ⟨_, _, .ec ht hkey, by simp [applyKey, ht, ha, preparation]⟩
    · have hkey := (not_congr (h.algorithm.admits_some type)).mp ha
      rw [not_or] at hkey
      refine .inr ⟨_, .algorithm ht hkey.1 hkey.2, ?_⟩
      simp [applyKey, ht, ha]

/-- The key that a signature is made with: it is on the token that is used, and it is the only one there with the
reference in the certificate. -/
structure Finds (m : CardModule) (c : CardConfig) (loaded : Bool) (d : Certificate) (s : Slot) (k : CardKey) :
    Prop where
  token : (m.findToken c loaded).2 = .ok s
  opens : s.openFault = none
  looksUp : s.keyFault = none
  only : (s.keys.filter fun x => some x.id = d.keyRef) = [k]

namespace Finds

theorem id_eq (hf : Finds m c loaded d s k) : some k.id = d.keyRef := by
  have hk : k ∈ s.keys.filter fun x => some x.id = d.keyRef := by simp [hf.only]
  simpa using (List.mem_filter.mp hk).2

theorem unique {s' : Slot} {k' : CardKey} (hf : Finds m c loaded d s k) (hf' : Finds m c loaded d s' k') :
    s = s' ∧ k = k' := by
  have hs : s = s' := Except.ok.inj (hf.token.symm.trans hf'.token)
  subst hs
  have hk := hf.only.symm.trans hf'.only
  exact ⟨rfl, by simpa using hk⟩

end Finds

/-! ## The ways a signature can go -/

/-- A key is looked up on a token, and either there is exactly one, or there is a fault. -/
theorem findKey_cases (s : Slot) (id : Option Bytes) :
    (∃ k, s.keyFault = none ∧ (s.keys.filter fun x => some x.id = id) = [k] ∧
      findKey s id = ([.getKey s.slotId id], .ok k)) ∨
    ∃ f, findKey s id = ([.getKey s.slotId id], .error f) ∧
      ¬ ∃ k, s.keyFault = none ∧ (s.keys.filter fun x => some x.id = id) = [k] := by
  cases hfault : s.keyFault with
  | some f => exact .inr ⟨f, by simp [findKey, CardTask.bind, CardTask.event, hfault], by simp⟩
  | none =>
    cases hkeys : s.keys.filter fun x => some x.id = id with
    | nil =>
      refine .inr ⟨.card .noSuchKey none, ?_, by simp⟩
      simp [findKey, CardTask.bind, CardTask.event, CardTask.fail, hfault, hkeys]
    | cons k rest =>
      cases rest with
      | nil =>
        refine .inl ⟨k, rfl, rfl, ?_⟩
        simp [findKey, CardTask.bind, CardTask.event, CardTask.pure, hfault, hkeys]
      | cons k' rest =>
        refine .inr ⟨.card (.other "MultipleObjectsReturned") none, ?_, by simp⟩
        simp [findKey, CardTask.bind, CardTask.event, CardTask.fail, hfault, hkeys]

/-- How a signature goes, with what is done at the module after the search for a token. -/
inductive SignCourse (m : CardModule) (c : CardConfig) (loaded : Bool) (d : Certificate) (h : HashToSign)
    (login : Login) : CardTask Bytes → Prop
  /-- No token is found. -/
  | noToken {f : Fault} : (m.findToken c loaded).2 = .error f →
      SignCourse m c loaded d h login ([], .error f)
  /-- The token cannot be opened. -/
  | notOpened {s : Slot} {f : Fault} : (m.findToken c loaded).2 = .ok s → s.openFault = some f →
      SignCourse m c loaded d h login ([.open s.slotId login false], .error f)
  /-- There is not one key. -/
  | noKey {s : Slot} {f : Fault} : (m.findToken c loaded).2 = .ok s → s.openFault = none →
      (¬ ∃ k, Finds m c loaded d s k) →
      SignCourse m c loaded d h login
        ([.open s.slotId login true, .getKey s.slotId d.keyRef, .close s.slotId], .error f)
  /-- The key does not suit the hash. -/
  | unsuited {s : Slot} {k : CardKey} {message : Text} : Finds m c loaded d s k → k.Unsuited h message →
      SignCourse m c loaded d h login
        ([.open s.slotId login true, .getKey s.slotId d.keyRef, .close s.slotId], .error (.decline .tokenError message))
  /-- The key is applied. -/
  | applied {s : Slot} {k : CardKey} {data : Bytes} {mechanism : Mechanism} : Finds m c loaded d s k →
      k.Prepares h data mechanism →
      SignCourse m c loaded d h login
        ([.open s.slotId login true, .getKey s.slotId d.keyRef, .keySign data mechanism, .close s.slotId],
          k.sign mechanism data)

/-- After the search for a token, a signature goes in one of the ways. -/
theorem signHash_course (m : CardModule) (c : CardConfig) (loaded : Bool) (d : Certificate) (h : HashToSign)
    (login : Login) :
    ∃ rest, SignCourse m c loaded d h login (rest, (m.signHash c loaded d h login).2) ∧
      (m.signHash c loaded d h login).1 = (m.findToken c loaded).1 ++ rest := by
  cases htoken : (m.findToken c loaded).2 with
  | error f =>
    refine ⟨[], ?_, ?_⟩
    · simpa [signHash, CardTask.bind, htoken] using SignCourse.noToken htoken
    · simp [signHash, CardTask.bind, htoken]
  | ok s =>
    have hsign : m.signHash c loaded d h login =
        ((m.findToken c loaded).1 ++ (withSession s login ((findKey s d.keyRef).bind fun k => applyKey k h)).1,
          (withSession s login ((findKey s d.keyRef).bind fun k => applyKey k h)).2) := by
      simp [signHash, CardTask.bind, htoken]
    rw [hsign]
    refine ⟨_, ?_, rfl⟩
    cases hopen : s.openFault with
    | some f => simpa [withSession, hopen] using SignCourse.notOpened htoken hopen
    | none =>
      obtain ⟨k, hfault, honly, hfind⟩ | ⟨f, hfind, hnone⟩ := findKey_cases s d.keyRef
      · have hf : Finds m c loaded d s k := ⟨htoken, hopen, hfault, honly⟩
        obtain ⟨data, mechanism, hp, happly⟩ | ⟨message, hu, happly⟩ := applyKey_cases k h
        · simpa [withSession, hopen, hfind, CardTask.bind, happly] using SignCourse.applied hf hp
        · simpa [withSession, hopen, hfind, CardTask.bind, happly, CardTask.fail] using SignCourse.unsuited hf hu
      · have hn : ¬ ∃ k, Finds m c loaded d s k := by
          rintro ⟨k, hf⟩
          exact hnone ⟨k, hf.looksUp, hf.only⟩
        simpa [withSession, hopen, hfind, CardTask.bind] using SignCourse.noKey htoken hopen hn

namespace SignCourse

variable {t : CardTask Bytes}

/-- One token at most is opened, the one that is found. -/
theorem openings_eq (hc : SignCourse m c loaded d h login t) : CardEvent.openings t.1 = [] ∨
    ∃ s, (m.findToken c loaded).2 = .ok s ∧ CardEvent.openings t.1 = [(s.slotId, login)] := by
  cases hc with
  | noToken => exact .inl rfl
  | notOpened htoken => exact .inr ⟨_, htoken, rfl⟩
  | noKey htoken => exact .inr ⟨_, htoken, rfl⟩
  | unsuited hf => exact .inr ⟨_, hf.token, rfl⟩
  | applied hf => exact .inr ⟨_, hf.token, rfl⟩

/-- One key at most is looked up, on the token that is found and by the reference in the certificate. -/
theorem lookUps_eq (hc : SignCourse m c loaded d h login t) : CardEvent.lookUps t.1 = [] ∨
    ∃ s, (m.findToken c loaded).2 = .ok s ∧ CardEvent.lookUps t.1 = [(s.slotId, d.keyRef)] := by
  cases hc with
  | noToken => exact .inl rfl
  | notOpened => exact .inl rfl
  | noKey htoken => exact .inr ⟨_, htoken, rfl⟩
  | unsuited hf => exact .inr ⟨_, hf.token, rfl⟩
  | applied hf => exact .inr ⟨_, hf.token, rfl⟩

/-- A key that is found is either refused or applied. -/
theorem of_finds (hc : SignCourse m c loaded d h login t) (hf : Finds m c loaded d s k) :
    (∃ message, k.Unsuited h message ∧ CardEvent.operations t.1 = [] ∧
      t.2 = .error (.decline .tokenError message)) ∨
    ∃ data mechanism, k.Prepares h data mechanism ∧ CardEvent.operations t.1 = [(data, mechanism)] ∧
      t.2 = k.sign mechanism data := by
  cases hc with
  | noToken htoken => exact nomatch htoken.symm.trans hf.token
  | notOpened htoken hopen =>
    obtain rfl := Except.ok.inj (htoken.symm.trans hf.token)
    exact nomatch hopen.symm.trans hf.opens
  | noKey htoken _ hnone =>
    obtain rfl := Except.ok.inj (htoken.symm.trans hf.token)
    exact absurd ⟨k, hf⟩ hnone
  | unsuited hf' hu =>
    obtain ⟨-, rfl⟩ := hf.unique hf'
    exact .inl ⟨_, hu, rfl, rfl⟩
  | applied hf' hp =>
    obtain ⟨-, rfl⟩ := hf.unique hf'
    exact .inr ⟨_, _, hp, rfl, rfl⟩

/-- If no key is found, none is applied. -/
theorem of_not_finds (hc : SignCourse m c loaded d h login t) (hn : ∀ s k, ¬ Finds m c loaded d s k) :
    CardEvent.operations t.1 = [] ∧ ∃ f, t.2 = .error f := by
  cases hc with
  | noToken => exact ⟨rfl, _, rfl⟩
  | notOpened => exact ⟨rfl, _, rfl⟩
  | noKey => exact ⟨rfl, _, rfl⟩
  | unsuited hf => exact absurd hf (hn _ _)
  | applied hf => exact absurd hf (hn _ _)

/-- Either a key that suits the hash is found, and applied once; or no key is applied. -/
theorem operations_eq (hc : SignCourse m c loaded d h login t) :
    (∃ s k data mechanism, Finds m c loaded d s k ∧ k.Prepares h data mechanism ∧
      CardEvent.operations t.1 = [(data, mechanism)]) ∨
    CardEvent.operations t.1 = [] ∧ ∃ f, t.2 = .error f := by
  by_cases hfound : ∃ s k, Finds m c loaded d s k
  · obtain ⟨s, k, hf⟩ := hfound
    obtain ⟨message, -, hops, hresult⟩ | ⟨data, mechanism, hp, hops, -⟩ := hc.of_finds hf
    · exact .inr ⟨hops, _, hresult⟩
    · exact .inl ⟨s, k, data, mechanism, hf, hp, hops⟩
  · exact .inr (hc.of_not_finds fun s k hf => hfound ⟨s, k, hf⟩)

end SignCourse

/-! ## What a signature comes to -/

/-- What came of the task to sign a hash, once it is known how to log in. -/
structure Signed (m : CardModule) (c : CardConfig) (loaded : Bool) (d : Certificate) (h : HashToSign) (login : Login)
    (p : Performed Bytes) : Prop where
  /-- One token at most is opened, the one that is found. -/
  opened : CardEvent.openings p.events = [] ∨
    ∃ s, (m.findToken c loaded).2 = .ok s ∧ CardEvent.openings p.events = [(s.slotId, login)]
  /-- One key at most is looked up, on this token and by the reference in the certificate. -/
  lookedUp : CardEvent.lookUps p.events = [] ∨
    ∃ s, (m.findToken c loaded).2 = .ok s ∧ CardEvent.lookUps p.events = [(s.slotId, d.keyRef)]
  /-- One key at most is applied: it is found, and applied in the way that suits it. -/
  applied : ∀ operation ∈ CardEvent.operations p.events, CardEvent.operations p.events = [operation] ∧
    ∃ s k, Finds m c loaded d s k ∧ k.Prepares h operation.1 operation.2
  /-- A key that is found and suits the hash is applied, and there is a signature exactly if it makes one. -/
  suits : ∀ s k data mechanism, Finds m c loaded d s k → k.Prepares h data mechanism →
    CardEvent.operations p.events = [(data, mechanism)] ∧
      ∀ signature, p.result = .ok signature ↔ k.sign mechanism data = .ok signature
  /-- A key that is found and does not suit the hash is not applied, and the token declines. -/
  refused : ∀ s k message, Finds m c loaded d s k → k.Unsuited h message →
    CardEvent.operations p.events = [] ∧ p.result = .error (.decline .tokenError message)
  /-- There is no signature unless a key was applied. -/
  unsigned : CardEvent.operations p.events = [] → ∀ signature, p.result ≠ .ok signature

/-- The translation of faults keeps signatures and refusals. -/
theorem sign_result (m : CardModule) (c : CardConfig) (loaded : Bool) (d : Certificate) (h : HashToSign)
    (login : Login) :
    (m.sign c loaded d h login).events = (m.signHash c loaded d h login).1 ∧
    (∀ signature, (m.sign c loaded d h login).result = .ok signature ↔
      (m.signHash c loaded d h login).2 = .ok signature) ∧
    ∀ r message, (m.signHash c loaded d h login).2 = .error (.decline r message) →
      (m.sign c loaded d h login).result = .error (.decline r message) := by
  unfold sign
  split
  next es signature heq => simp [heq]
  next es heq => simp [heq, Fault.decline]
  next es f _ heq =>
    refine ⟨by simp [heq], by simp [heq], fun r message hr => ?_⟩
    rw [heq] at hr
    obtain rfl := Except.error.inj hr
    rfl

/-- Once it is known how to log in, a signature goes its way. -/
theorem sign_signed (m : CardModule) (c : CardConfig) (loaded : Bool) (d : Certificate) (h : HashToSign)
    (login : Login) : Signed m c loaded d h login (m.sign c loaded d h login) := by
  obtain ⟨rest, hc, hrest⟩ := m.signHash_course c loaded d h login
  obtain ⟨hevents, hok, hdeclined⟩ := m.sign_result c loaded d h login
  have hs := m.findToken_searches c loaded
  rw [hrest] at hevents
  have ho : CardEvent.openings (m.sign c loaded d h login).events = CardEvent.openings rest := by
    rw [hevents]
    exact CardEvent.filterMap_search_append (fun _ => CardEvent.opening?_of_isSearch) hs rest
  have hl : CardEvent.lookUps (m.sign c loaded d h login).events = CardEvent.lookUps rest := by
    rw [hevents]
    exact CardEvent.filterMap_search_append (fun _ => CardEvent.lookUp?_of_isSearch) hs rest
  have hp : CardEvent.operations (m.sign c loaded d h login).events = CardEvent.operations rest := by
    rw [hevents]
    exact CardEvent.filterMap_search_append (fun _ => CardEvent.operation?_of_isSearch) hs rest
  refine ⟨?opened, ?lookedUp, ?applied, ?suits, ?refused, ?unsigned⟩
  case opened => rw [ho]; exact hc.openings_eq
  case lookedUp => rw [hl]; exact hc.lookUps_eq
  case applied =>
    rw [hp]
    intro operation hoperation
    obtain ⟨s, k, data, mechanism, hf, hprep, hops⟩ | ⟨hops, -⟩ := hc.operations_eq
    · rw [hops] at hoperation ⊢
      obtain rfl := List.mem_singleton.mp hoperation
      exact ⟨rfl, s, k, hf, hprep⟩
    · rw [hops] at hoperation
      cases hoperation
  case suits =>
    intro s k data mechanism hf hprep
    obtain ⟨message, hu, -, -⟩ | ⟨data', mechanism', hprep', hops, hresult⟩ := hc.of_finds hf
    · exact absurd hu hprep.not_unsuited
    · obtain ⟨rfl, rfl⟩ := hprep.unique hprep'
      refine ⟨hp.trans hops, fun signature => ?_⟩
      rw [hok, ← hresult]
  case refused =>
    intro s k message hf hu
    obtain ⟨message', hu', hops, hresult⟩ | ⟨data, mechanism, hprep, -, -⟩ := hc.of_finds hf
    · obtain rfl := hu.unique hu'
      exact ⟨hp.trans hops, hdeclined _ _ hresult⟩
    · exact absurd hu hprep.not_unsuited
  case unsigned =>
    intro hnone signature hresult
    rw [hok] at hresult
    rw [hp] at hnone
    obtain ⟨s, k, data, mechanism, -, -, hops⟩ | ⟨-, f, hf⟩ := hc.operations_eq
    · exact nomatch hnone.symm.trans hops
    · exact nomatch hf.symm.trans hresult

/-- The user is asked if there is somebody to ask. -/
theorem signAsking_eq (m : CardModule) (c : CardConfig) (loaded : Bool) (h : HashToSign)
    (answer : Except Fault (Option Text)) (href : d.keyRef ≠ none) :
    m.signAsking c loaded d h answer =
      if c.prompts then (true, m.signAnswered c loaded d h answer)
      else (false, m.sign c loaded d h .protectedPath) := by
  cases hd : d.keyRef with
  | none => exact absurd hd href
  | some ref => cases hprompts : c.prompts <;> simp [signAsking, CardConfig.beginSign, hd, hprompts]

/-- Whoever can log in gets a signature that goes its way. -/
theorem signAsking_signed (m : CardModule) (loaded : Bool) (h : HashToSign) {answer : Except Fault (Option Text)}
    (href : d.keyRef ≠ none) (hlogin : c.LogsIn answer login) :
    Signed m c loaded d h login (m.signAsking c loaded d h answer).2 := by
  rw [signAsking_eq m c loaded h answer href]
  cases hlogin with
  | protectedPath hprompts =>
    rw [hprompts]
    exact m.sign_signed c loaded d h .protectedPath
  | @pin entered hprompts hanswer =>
    subst hanswer
    rw [hprompts]
    exact m.sign_signed c loaded d h (.pin entered)

/-- **A signature uses the right key on the right bytes, once at most.** The user is asked if there is somebody to ask
and the certificate has a reference to its key; without such a reference, or without an answer, nothing is done at the
module and the token declines. Otherwise a token is opened with what the user has answered, or by the reader, and what
follows is in `Signed`. -/
theorem signAsking_answers (m : CardModule) (c : CardConfig) (loaded : Bool) (d : Certificate) (h : HashToSign)
    (answer : Except Fault (Option Text)) :
    ((m.signAsking c loaded d h answer).1 = true ↔ d.keyRef ≠ none ∧ c.prompts = true) ∧
    (d.keyRef = none → (m.signAsking c loaded d h answer).2.events = [] ∧
      (m.signAsking c loaded d h answer).2.result =
        .error (.decline .noCertificate "Certificate was not read from this token")) ∧
    ((m.signAsking c loaded d h answer).1 = true →
      (answer = .ok none → (m.signAsking c loaded d h answer).2.events = [] ∧
        (m.signAsking c loaded d h answer).2.result = .error (.decline .cancelled "PIN entry cancelled")) ∧
      ∀ f, answer = .error f → (m.signAsking c loaded d h answer).2.events = [] ∧
        (m.signAsking c loaded d h answer).2.result = .error f) ∧
    (d.keyRef ≠ none → ∀ login, c.LogsIn answer login →
      Signed m c loaded d h login (m.signAsking c loaded d h answer).2) := by
  by_cases href : d.keyRef = none
  · rw [m.signAsking_of_no_reference c loaded h answer href]
    simp [href]
  · refine ⟨?asks, fun hnone => absurd hnone href, ?unanswered, fun _ _ => m.signAsking_signed loaded h href⟩
    case asks =>
      rw [signAsking_eq m c loaded h answer href]
      cases c.prompts <;> simp [href]
    case unanswered =>
      rw [signAsking_eq m c loaded h answer href]
      cases c.prompts with
      | false => simp
      | true =>
        refine fun _ => ⟨?_, ?_⟩
        · rintro rfl
          exact ⟨rfl, rfl⟩
        · rintro f rfl
          exact ⟨rfl, rfl⟩

end CardModule

/-! ## In a rehearsal -/

namespace Rehearsal.Stage

variable {st : Stage} {handle : Handle} {c : CardConfig} {loaded : Bool}

/-- Nothing changes if nothing was done. -/
theorem performed_nothing {α : Type} (st : Stage) (session : Option Text) (handle : Handle) (r : Except Fault α) :
    st.performed session handle ⟨[], [], r⟩ = (st, r) := by
  have hafter : ∀ b : Backend, b.after st.cast.cardModule [] = b := by
    intro b
    cases b <;> simp [Backend.after, CardModule.loadedAfter]
  have hbackends : (st.afterCard handle []) = st := by
    simp [afterCard, hafter]
  simp [performed, noteCard, record, write, hbackends]

/-- A card that is asked for a signature asks the user once, or not at all; the rest is `CardModule.signAsking`. -/
theorem askSignature_card (hb : st.backend? handle = some (.card c loaded)) (way : Route) (d : Certificate)
    (hash : HashToSign) (language : Text) (answer : Except Fault (Option Text)) :
    st.askSignature way handle d hash language =
      if (st.cast.cardModule.signAsking c loaded d hash answer).1 then (st, .cue (.pin handle d hash language))
      else
        let (st', r) := st.performed none handle (st.cast.cardModule.signAsking c loaded d hash answer).2
        ended (st'.answer way (r.map .signature)) := by
  unfold askSignature CardModule.signAsking
  rw [hb]
  dsimp only
  cases c.beginSign d with
  | refused f => simp [performed_nothing, Except.map]
  | ask => rfl
  | protectedPath => rfl

/-- When the user has answered, there is no further question. -/
theorem signWithPin_card (hb : st.backend? handle = some (.card c loaded)) (way : Route) (d : Certificate)
    (hash : HashToSign) (answer : Except Fault (Option Text))
    (hasked : (st.cast.cardModule.signAsking c loaded d hash answer).1 = true) :
    st.signWithPin way handle d hash answer =
      let (st', r) := st.performed none handle (st.cast.cardModule.signAsking c loaded d hash answer).2
      st'.answer way (r.map .signature) := by
  unfold CardModule.signAsking at hasked ⊢
  unfold signWithPin
  rw [hb]
  cases hstart : c.beginSign d with
  | refused f => simp [hstart] at hasked
  | ask => rfl
  | protectedPath => simp [hstart] at hasked

end Rehearsal.Stage

end RemoteSigning
