import RemoteSigning.Proofs.Token.Handles
import RemoteSigning.Proofs.Token.Signing

/-!
# How calls to a token end

Whoever calls a token through an adapter waits for a backend, and gets what the backend has come to. With a card or a
key in memory that is a value or a refusal, whatever the card module does. One thing comes between the adapter and the
card that is not the card's: the question for the PIN. A fault of the user's side is not turned into a refusal.

- `Orderly`: a value, a refusal, or a cancellation; `CardModule.fetch_orderly`, `SoftwareToken.sign_orderly`;
- `CardModule.signAsking_orderly_iff`: a signature with a card, with the question for the PIN;
- `Stage.Waits`: a caller waits for a backend; `Stage.answer_fetch`, `Stage.answer_sign`: what it gets;
- `Stage.performFetch_card`, `Stage.performSign_of_asked`, `Stage.performSign_of_not_asked` and
  `Stage.signWithPin_of_asked`: a card that is called through an adapter;
- `Stage.performFetch_ends`, `Stage.performSign_card`, `Stage.performSign_software` and `Stage.signWithPin_ends`: how
  the calls end;
- `Stage.declines_iff`: all of them end orderly, but for the faults of the question.
-/

namespace RemoteSigning

/-! ## Orderly ends -/

/-- A call ends with a value, or the token declines; or the call was cancelled. -/
def Orderly {α : Type} (r : Except Fault α) : Prop :=
  ∀ f, r = .error f → f = .cancelled ∨ ∃ reason message, f = .declined reason message

section Orderly

variable {α : Type}

theorem orderly_ok (a : α) : Orderly (.ok a) := nofun

theorem orderly_decline (reason : DeclineReason) (message : Text) :
    Orderly (.error (.decline reason message) : Except Fault α) := by
  rintro f h
  obtain rfl := Except.error.inj h
  exact .inr ⟨reason, _, rfl⟩

theorem Fault.exists_of_reason? {f : Fault} (h : f.reason?.isSome = true) :
    ∃ reason message, f = .declined reason message := by
  cases f with
  | declined reason message => exact ⟨reason, message, rfl⟩
  | _ => cases h

end Orderly

namespace CardModule

variable (m : CardModule) (c : CardConfig) (loaded : Bool)

theorem fetch_orderly : Orderly (m.fetch c loaded).result := by
  intro f hf
  by_cases hlive : f = .cancelled
  · exact .inl hlive
  · exact .inr (Fault.exists_of_reason? (m.fetch_declines c loaded f hf hlive))

theorem sign_orderly (d : Certificate) (h : HashToSign) (login : Login) :
    Orderly (m.sign c loaded d h login).result := by
  intro f hf
  by_cases hlive : f = .cancelled
  · exact .inl hlive
  · exact .inr (Fault.exists_of_reason? (m.sign_declines c loaded d h login f hf hlive))

/-- What comes of the answer of the user is orderly if the answer is. -/
theorem signAnswered_orderly_iff (d : Certificate) (h : HashToSign) (answer : Except Fault (Option Text)) :
    Orderly (m.signAnswered c loaded d h answer).result ↔ Orderly answer := by
  cases answer with
  | error f =>
    have hresult : (m.signAnswered c loaded d h (.error f)).result = .error f := rfl
    rw [hresult]
    constructor
    · intro ho g hg
      obtain rfl := Except.error.inj hg
      exact ho f rfl
    · intro ho g hg
      obtain rfl := Except.error.inj hg
      exact ho f rfl
  | ok entered =>
    refine iff_of_true ?_ (orderly_ok entered)
    cases entered with
    | none => exact orderly_decline _ _
    | some pin => exact m.sign_orderly c loaded d h (.pin pin)

/-- A signature with a card ends orderly, unless the user is asked for the PIN and the question does not. -/
theorem signAsking_orderly_iff (d : Certificate) (h : HashToSign) (answer : Except Fault (Option Text)) :
    Orderly (m.signAsking c loaded d h answer).2.result ↔
      ((m.signAsking c loaded d h answer).1 = true → Orderly answer) := by
  by_cases href : d.keyRef = none
  · rw [m.signAsking_of_no_reference c loaded h answer href]
    exact iff_of_true (orderly_decline _ _) nofun
  · rw [signAsking_eq m c loaded h answer href]
    cases c.prompts with
    | true => simpa using m.signAnswered_orderly_iff c loaded d h answer
    | false => exact iff_of_true (m.sign_orderly c loaded d h .protectedPath) nofun

end CardModule

/-- A key in memory declines, whatever is wrong. -/
theorem SoftwareToken.sign_orderly (t : SoftwareToken) (d : Certificate) (h : HashToSign) : Orderly (t.sign d h).1 := by
  unfold sign
  split
  · exact orderly_decline _ _
  · split
    · exact orderly_decline _ _
    · split
      · exact orderly_ok _
      · exact orderly_decline _ _

/-- A card, or a key in memory. -/
def Backend.isToken : Backend → Bool
  | .card .. | .software .. => true
  | .foreign .. => false

/-! ## Through an adapter -/

namespace Rehearsal.Stage

variable {st : Stage} {way : Route} {h : Handle} {c : CardConfig} {loaded : Bool} {hash : HashToSign}

/-- A caller waits for a backend. -/
def Waits (st : Stage) (way : Route) (w : Waiting) : Prop := (st.adapter way.through).waitingOf? way.who = some w

/-- The stage when a caller begins to wait. -/
def awaiting (st : Stage) (way : Route) (w : Waiting) : Stage :=
  st.setAdapter way.through ((st.adapter way.through).await way.who w)

/-- The stage when a caller waits no more. -/
def settled (st : Stage) (way : Route) : Stage :=
  st.setAdapter way.through ((st.adapter way.through).settle way.who)

theorem adapter_setAdapter (st : Stage) (name : Text) (a : Adapter) : (st.setAdapter name a).adapter name = a := by
  simp [setAdapter, adapter]

theorem waits_awaiting (st : Stage) (way : Route) (w : Waiting) : (st.awaiting way w).Waits way w := by
  rw [Waits, awaiting, adapter_setAdapter, Adapter.waitingOf?_await, if_pos rfl]

/-- What is done at a card module changes nothing for those who wait. -/
theorem Waits.performed {α : Type} {w : Waiting} (hw : st.Waits way w) (session : Option Text) (h : Handle)
    (p : Performed α) : (st.performed session h p).1.Waits way w := hw

/-- Whoever waits hears what the backend answers. -/
theorem answer_of_waits {w : Waiting} (hw : st.Waits way w) {r : Except Fault BackendAnswer} {v : Except Fault Value}
    (hv : Adapter.conclude st.shown w r = [.ended v]) : st.answer way r = (st.settled way, v) := by
  have htell : st.tell way (.answer r) = (st.settled way, [.ended v]) := by
    unfold tell Adapter.step
    rw [show (st.adapter way.through).waitingOf? way.who = some w from hw]
    dsimp only
    rw [hv]
    rfl
  rw [answer, htell]
  rfl

/-- Whoever waits for a certificate gets what the backend has come to. -/
theorem answer_fetch (hw : st.Waits way (.fetch h)) (r : Except Fault Certificate) :
    st.answer way (r.map .certificate) = (st.settled way, r.map .certificate) :=
  answer_of_waits hw (by cases r <;> rfl)

/-- Whoever waits for a signature gets what the backend has come to, over the hash that was passed. -/
theorem answer_sign (hw : st.Waits way (.sign h hash)) (r : Except Fault Bytes) :
    st.answer way (r.map .signature) = (st.settled way, r.map fun value => .signature ⟨value, hash⟩) :=
  answer_of_waits hw (by cases r <;> rfl)

theorem performFetch_of_holds (hh : (st.adapter way.through).holds h = true) (language : Text) :
    st.performFetch way (some h) language = (st.awaiting way (.fetch h)).askCertificate way h language := by
  have hr := (Adapter.require_eq_ok_iff st.shown (st.adapter way.through) (some h) h).mpr ⟨rfl, hh⟩
  have htell : st.tell way (.fetch (some h)) = (st.awaiting way (.fetch h), [.fetch h]) := by
    unfold tell Adapter.step
    dsimp only
    rw [hr]
    rfl
  rw [performFetch, htell]

theorem performSign_of_holds (hh : (st.adapter way.through).holds h = true) (d : Certificate) (hash : HashToSign)
    (language : Text) : st.performSign way (some h) d hash language =
      (st.awaiting way (.sign h hash)).askSignature way h d hash language := by
  have hr := (Adapter.require_eq_ok_iff st.shown (st.adapter way.through) (some h) h).mpr ⟨rfl, hh⟩
  have htell : st.tell way (.sign (some h) hash) = (st.awaiting way (.sign h hash), [.sign h]) := by
    unfold tell Adapter.step
    dsimp only
    rw [hr]
    rfl
  rw [performSign, htell]

/-- A card that is asked for its certificate reads it, and whoever waits gets what has come of that. -/
theorem performFetch_card (hh : (st.adapter way.through).holds h = true) (hb : st.backend? h = some (.card c loaded))
    (language : Text) :
    st.performFetch way (some h) language =
      (((st.awaiting way (.fetch h)).performed none h (st.cast.cardModule.fetch c loaded)).1.settled way,
        .ended ((st.cast.cardModule.fetch c loaded).result.map .certificate)) := by
  have hb' : (st.awaiting way (.fetch h)).backend? h = some (.card c loaded) := hb
  have hw := (st.waits_awaiting way (.fetch h)).performed none h (st.cast.cardModule.fetch c loaded)
  rw [performFetch_of_holds hh, askCertificate, hb']
  exact congrArg ended (answer_fetch hw (st.cast.cardModule.fetch c loaded).result)

/-- A certificate that is fetched is what the card has read, or that of the key in memory. -/
theorem performFetch_ends {b : Backend} (hh : (st.adapter way.through).holds h = true)
    (hb : st.backend? h = some b) (ht : b.isToken = true) (language : Text) :
    ∃ r, (st.performFetch way (some h) language).2 = .ended (r.map .certificate) ∧ Orderly r := by
  cases b with
  | card c loaded =>
    rw [performFetch_card hh hb]
    exact ⟨_, rfl, st.cast.cardModule.fetch_orderly c loaded⟩
  | software token mode =>
    have hb' : (st.awaiting way (.fetch h)).backend? h = some (.software token mode) := hb
    rw [performFetch_of_holds hh, askCertificate, hb']
    have hend := answer_fetch (st.waits_awaiting way (.fetch h)) (.ok token.certificate)
    exact ⟨.ok token.certificate, congrArg (fun r => (ended r).2) hend, orderly_ok _⟩
  | «foreign» kind name mode => cases ht

section Card

variable (hb : st.backend? h = some (.card c loaded)) (d : Certificate) (answer : Except Fault (Option Text))
include hb

/-- If the user is asked for the PIN, nothing else has been done before. -/
theorem performSign_of_asked (hh : (st.adapter way.through).holds h = true) (language : Text)
    (hasked : (st.cast.cardModule.signAsking c loaded d hash answer).1 = true) :
    st.performSign way (some h) d hash language =
      (st.awaiting way (.sign h hash), .cue (.pin h d hash language)) := by
  have hb' : (st.awaiting way (.sign h hash)).backend? h = some (.card c loaded) := hb
  rw [performSign_of_holds hh, askSignature_card hb' way d hash language answer]
  exact if_pos hasked

/-- If the user is not asked, whoever waits gets at once what has come of the signature. -/
theorem performSign_of_not_asked (hh : (st.adapter way.through).holds h = true) (language : Text)
    (hasked : (st.cast.cardModule.signAsking c loaded d hash answer).1 = false) :
    st.performSign way (some h) d hash language =
      (((st.awaiting way (.sign h hash)).performed none h
          (st.cast.cardModule.signAsking c loaded d hash answer).2).1.settled way,
        .ended ((st.cast.cardModule.signAsking c loaded d hash answer).2.result.map
          fun value => .signature ⟨value, hash⟩)) := by
  have hb' : (st.awaiting way (.sign h hash)).backend? h = some (.card c loaded) := hb
  have hw := (st.waits_awaiting way (.sign h hash)).performed none h
    (st.cast.cardModule.signAsking c loaded d hash answer).2
  have hend := answer_sign hw (st.cast.cardModule.signAsking c loaded d hash answer).2.result
  rw [performSign_of_holds hh, askSignature_card hb' way d hash language answer]
  exact (if_neg (Bool.eq_false_iff.mp hasked)).trans (congrArg ended hend)

/-- When the user has answered, whoever waits gets what has come of the signature. -/
theorem signWithPin_of_asked (hw : st.Waits way (.sign h hash))
    (hasked : (st.cast.cardModule.signAsking c loaded d hash answer).1 = true) :
    st.signWithPin way h d hash answer =
      ((st.performed none h (st.cast.cardModule.signAsking c loaded d hash answer).2).1.settled way,
        (st.cast.cardModule.signAsking c loaded d hash answer).2.result.map
          fun value => .signature ⟨value, hash⟩) := by
  rw [signWithPin_card hb way d hash answer hasked]
  exact answer_sign (hw.performed none h (st.cast.cardModule.signAsking c loaded d hash answer).2)
    (st.cast.cardModule.signAsking c loaded d hash answer).2.result

end Card

/-- A card signs or refuses at once, unless it has to ask for the PIN. -/
theorem performSign_card (hh : (st.adapter way.through).holds h = true) (hb : st.backend? h = some (.card c loaded))
    (d : Certificate) (hash : HashToSign) (language : Text) :
    (d.keyRef ≠ none ∧ c.prompts = true ∧
      st.performSign way (some h) d hash language = (st.awaiting way (.sign h hash), .cue (.pin h d hash language))) ∨
    ∃ r, (st.performSign way (some h) d hash language).2 =
      .ended (r.map fun value => .signature ⟨value, hash⟩) ∧ Orderly r := by
  have hasks := (st.cast.cardModule.signAsking_answers c loaded d hash (.ok none)).1
  -- The answer plays no part where there is no question.
  cases hasked : (st.cast.cardModule.signAsking c loaded d hash (.ok none)).1 with
  | true =>
    obtain ⟨href, hprompts⟩ := hasks.mp hasked
    exact .inl ⟨href, hprompts, performSign_of_asked hb d (.ok none) hh language hasked⟩
  | false =>
    rw [performSign_of_not_asked hb d (.ok none) hh language hasked]
    exact .inr ⟨_, rfl,
      (st.cast.cardModule.signAsking_orderly_iff c loaded d hash (.ok none)).mpr fun _ => orderly_ok none⟩

/-- A key in memory signs or refuses at once. -/
theorem performSign_software {token : SoftwareToken} {mode : BackendMode}
    (hh : (st.adapter way.through).holds h = true) (hb : st.backend? h = some (.software token mode))
    (d : Certificate) (hash : HashToSign) (language : Text) :
    ∃ r, (st.performSign way (some h) d hash language).2 =
      .ended (r.map fun value => .signature ⟨value, hash⟩) ∧ Orderly r := by
  have hb' : (st.awaiting way (.sign h hash)).backend? h = some (.software token mode) := hb
  have hw : ((st.awaiting way (.sign h hash)).record ((token.sign d hash).2.toList.map .softwareFailed)).Waits way
      (.sign h hash) := st.waits_awaiting way (.sign h hash)
  rw [performSign_of_holds hh, askSignature, hb']
  exact ⟨_, congrArg (fun r => (ended r).2) (answer_sign hw (token.sign d hash).1), token.sign_orderly d hash⟩

/-- When the user has answered, the card signs or refuses, or ends with the fault of the question. -/
theorem signWithPin_ends (hw : st.Waits way (.sign h hash)) (hb : st.backend? h = some (.card c loaded))
    {d : Certificate} (href : d.keyRef ≠ none) (hprompts : c.prompts = true)
    (answer : Except Fault (Option Text)) :
    ∃ r, (st.signWithPin way h d hash answer).2 = r.map (fun value => .signature ⟨value, hash⟩) ∧
      (Orderly r ↔ Orderly answer) := by
  have hasked := (st.cast.cardModule.signAsking_answers c loaded d hash answer).1.mpr ⟨href, hprompts⟩
  rw [signWithPin_of_asked hb d answer hw hasked]
  refine ⟨_, rfl, ?_⟩
  rw [CardModule.signAsking_orderly_iff]
  exact ⟨fun h => h hasked, fun h _ => h⟩

/-- **When the failures of a token surface as refusals.** Through an adapter that holds a card or a key in memory, a
certificate is fetched and a hash is signed, or the token declines, whatever the card module does and whatever is asked
for. The exception is a card that has to ask the user for the PIN: it signs or declines exactly if the question ends
with an answer or with a refusal; any other fault of the question reaches the caller as it is. In the meantime anything
may have happened on the stage. -/
theorem declines_iff (way : Route) {b : Backend} (hh : (st.adapter way.through).holds h = true)
    (hb : st.backend? h = some b) (ht : b.isToken = true) (d : Certificate) (hash : HashToSign) (language : Text) :
    (∃ r, (st.performFetch way (some h) language).2 = .ended (r.map .certificate) ∧ Orderly r) ∧
    ((∃ r, (st.performSign way (some h) d hash language).2 =
        .ended (r.map fun value => .signature ⟨value, hash⟩) ∧ Orderly r) ∨
      ∃ c loaded, b = .card c loaded ∧ d.keyRef ≠ none ∧ c.prompts = true ∧
        st.performSign way (some h) d hash language =
          (st.awaiting way (.sign h hash), .cue (.pin h d hash language)) ∧
        (st.awaiting way (.sign h hash)).Waits way (.sign h hash) ∧
        ∀ (st' : Stage) loaded', st'.backend? h = some (.card c loaded') → st'.Waits way (.sign h hash) → ∀ answer,
          ∃ r, (st'.signWithPin way h d hash answer).2 = r.map (fun value => .signature ⟨value, hash⟩) ∧
            (Orderly r ↔ Orderly answer)) := by
  refine ⟨performFetch_ends hh hb ht language, ?_⟩
  cases b with
  | card c loaded =>
    obtain ⟨href, hprompts, hasks⟩ | hends := performSign_card hh hb d hash language
    · exact .inr ⟨c, loaded, rfl, href, hprompts, hasks, st.waits_awaiting way _,
        fun st' loaded' hb' hw answer => signWithPin_ends hw hb' href hprompts answer⟩
    · exact .inl hends
  | software token mode => exact .inl (performSign_software hh hb d hash language)
  | «foreign» kind name mode => cases ht

/-- A card behind an adapter, and somebody who is asked for the PIN. -/
def cardStage : Stage where
  cast := {
    settings := { Settings.default with cardLibrary := some "module" }
    address := "https://signing.test"
    user := some []
    cardModule := ⟨none, none, [⟨1, "ID (PIN2)", [⟨[0x30], [2]⟩], [⟨[2], .known .ec, fun _ _ => .ok [0xC0]⟩],
      none, none, none, none⟩]⟩ }
  files := []
  system := .init ⟨.mode .auto, "et", false⟩
  adapters := [(mainAdapter, ⟨⟨true, false⟩, [(.pkcs11, 0)], []⟩)]
  backends := [(0, .card ⟨some "module", some "PIN2", none, true⟩ true)]

def cardStageCertificate : Certificate := ⟨[0x30], some [2]⟩

def cardStageHash : HashToSign := ⟨[102, 111, 111], ⟨.sha256, none⟩⟩

theorem declines_iff_cardStage :
    ((cardStage.adapter mainAdapter).holds 0 = true ∧
      cardStage.backend? 0 = some (.card ⟨some "module", some "PIN2", none, true⟩ true)) ∧
    (∃ r, (cardStage.performFetch (.ofSession "a") (some 0) "et").2 = .ended (r.map .certificate) ∧ Orderly r) ∧
    ∀ answer, ∃ r, ((cardStage.awaiting (.ofSession "a") (.sign 0 cardStageHash)).signWithPin (.ofSession "a") 0
        cardStageCertificate cardStageHash answer).2 = r.map (fun value => .signature ⟨value, cardStageHash⟩) ∧
      (Orderly r ↔ Orderly answer) := by
  have hheld : (cardStage.adapter mainAdapter).holds 0 = true := by decide
  have hbackend : cardStage.backend? 0 = some (.card ⟨some "module", some "PIN2", none, true⟩ true) := rfl
  obtain ⟨hfetch, hsign⟩ :=
    declines_iff (.ofSession "a") hheld hbackend rfl cardStageCertificate cardStageHash "et"
  refine ⟨⟨hheld, hbackend⟩, hfetch, fun answer => ?_⟩
  obtain ⟨r, hends, -⟩ | ⟨c, loaded, hc, -, -, -, hwaits, hanswered⟩ := hsign
  · exact nomatch hends
  · obtain ⟨rfl, rfl⟩ := Backend.card.inj hc
    exact hanswered (cardStage.awaiting (.ofSession "a") (.sign 0 cardStageHash)) true hbackend hwaits answer

/-- The question for the PIN ends with a fault, and it is this fault that the caller gets. -/
theorem not_orderly_cardStage :
    (cardStage.adapter mainAdapter).holds 0 = true ∧
    cardStage.backend? 0 = some (.card ⟨some "module", some "PIN2", none, true⟩ true) ∧
    cardStage.performSign (.ofSession "a") (some 0) cardStageCertificate cardStageHash "et" =
      (cardStage.awaiting (.ofSession "a") (.sign 0 cardStageHash),
        .cue (.pin 0 cardStageCertificate cardStageHash "et")) ∧
    ((cardStage.awaiting (.ofSession "a") (.sign 0 cardStageHash)).signWithPin (.ofSession "a") 0
      cardStageCertificate cardStageHash (.error (.runtime "no terminal"))).2 = .error (.runtime "no terminal") ∧
    ¬ Orderly (.error (.runtime "no terminal") : Except Fault Value) := by
  refine ⟨by decide, rfl, rfl, rfl, fun h => ?_⟩
  obtain hf | ⟨reason, message, hf⟩ := h _ rfl
  · cases hf
  · cases hf

end Rehearsal.Stage

end RemoteSigning
