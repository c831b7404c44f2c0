import RemoteSigning.Proofs.Rehearsal.Backstage
import RemoteSigning.Proofs.Service.Classification
import RemoteSigning.Proofs.Token.Declines
import RemoteSigning.Proofs.Token.Uncancelled
import RemoteSigning.Session.Network

/-!
# What calls end with on a stage

Whoever plays in a call may say anything: the line of another call, a fault, an answer that cannot be understood. The
call still ends with something that it can end with, and it ends cancelled only if somebody says so, or if a call at the
card module was.

- `Call.Fair`: such an end;
- `Stage.Serves`: a scripted call is there for a call of a session;
- `Stage.perform_begun`: a call begins with its end, or with a scripted call that is there for it;
- `Stage.conclude_fair`: what is played there ends the call.
-/

namespace RemoteSigning

/-- A call can end with this, and does not end cancelled where nobody cancels. -/
structure Call.Fair (calm : Prop) (c : Call) (r : Except Fault Value) : Prop where
  accepts : c.accepts r = true
  uncancelled : calm → Uncancelled r

/-- Whoever makes a call waits for this, once a backend has been asked. -/
inductive Call.Awaits : Call → Waiting → Prop
  | check {choice : ModeChoice} {m : BackendMode} {h : Handle} : Awaits (.select choice) (.check m h)
  | fetch {h : Handle} {language : Text} : Awaits (.fetch h language) (.fetch h)
  | sign {h : Handle} {d : Certificate} {hash : HashToSign} {language : Text} :
      Awaits (.sign h d hash language) (.sign h hash)

/-! ## The service -/

/-- What can be understood of an answer, or not, is not that the call was cancelled. -/
theorem uncancelled_readHttpAnswer (e : Endpoint) (a : HttpAnswer) : Uncancelled (readHttpAnswer e a) := by
  unfold readHttpAnswer
  split
  · exact uncancelled_error (by rintro ⟨⟩)
  · obtain ⟨v, -, hv⟩ | ⟨-, m, hm⟩ | ⟨-, m, hm⟩ := readBody_cases e a.body
    · rw [hv]
      split
      next heq => cases heq
      next members _ =>
        intro hread
        obtain ⟨s, hs, -⟩ := readMembers_eq_error hread
        cases hs
      · exact uncancelled_error (by rintro ⟨⟩)
    · rw [hm]
      exact uncancelled_error (by rintro ⟨⟩)
    · rw [hm]
      exact uncancelled_error (by rintro ⟨⟩)

/-- An exchange with the service is cancelled only if its request is. -/
theorem Endpoint.uncancelled_conclude (e : Endpoint) (u : Url) {outcome : Except Fault HttpAnswer}
    (h : Uncancelled outcome) : Uncancelled (e.conclude u outcome) := by
  unfold conclude
  cases outcome with
  | ok a =>
    rw [Except.bind, Url.accept]
    split
    · exact uncancelled_readHttpAnswer e a
    · exact uncancelled_error (by rintro ⟨⟩)
  | error f =>
    have hf : f ≠ .cancelled := fun he => h (he ▸ rfl)
    rw [Except.bind]
    unfold readOutcome
    split
    next heq => cases heq
    · exact uncancelled_error (by rintro ⟨⟩)
    next heq =>
      obtain rfl := Except.error.inj heq
      exact uncancelled_error hf

/-- Two steps are cancelled only if one of them is. -/
theorem Uncancelled.bind {α β : Type} {x : Except Fault α} {f : α → Except Fault β} (hx : Uncancelled x)
    (hf : ∀ a, Uncancelled (f a)) : Uncancelled (x >>= f) := by
  cases x with
  | error e => exact uncancelled_error fun he => hx (he ▸ rfl)
  | ok a => exact hf a

/-- An address to which no request can be sent is not a cancellation. -/
theorem UrlFault.uncancelled_mapError {α : Type} (x : Except UrlFault α) :
    Uncancelled (x.mapError UrlFault.toFault) := by
  cases x with
  | ok a => exact uncancelled_ok a
  | error f => cases f <;> exact uncancelled_error (by rintro ⟨⟩)

namespace Outgoing

theorem uncancelled_checkMembers (o : Outgoing) : Uncancelled o.checkMembers := by
  unfold checkMembers
  split
  · exact uncancelled_ok ()
  · exact uncancelled_error (by rintro ⟨⟩)

/-- A request that cannot be sent is not cancelled. -/
theorem uncancelled_prepare (o : Outgoing) (address : Text) : Uncancelled (o.prepare address) := by
  refine o.uncancelled_checkMembers.bind fun _ => (UrlFault.uncancelled_mapError _).bind fun url => ?_
  refine Uncancelled.bind (o.uncancelled_checkMembers.bind fun _ => ?_) fun body =>
    (UrlFault.uncancelled_mapError _).bind fun _ => uncancelled_ok (url, body)
  split
  · exact uncancelled_ok _
  · exact uncancelled_error (by rintro ⟨⟩)

end Outgoing

namespace Rehearsal

/-- The call is played by a backend, or by the user for one. -/
def Cue.isBackends : Cue → Bool
  | .pin .. | .health .. | .backendFetch .. | .backendSign .. => true
  | .select .. | .fetch .. | .sign .. | .http .. => false

namespace Stage

variable {st st' : Stage} {way : Route} {c : Call}

/-! ## What an adapter makes of answers -/

/-- Records do not end calls. -/
theorem endOf_recorded (st : Stage) (out : List AdapterOutput) : endOf (st.recorded out).2 = endOf out := by
  induction out generalizing st with
  | nil => rfl
  | cons o rest ih =>
    cases o with
    | record r => exact ih _
    | ended r => rfl
    | check | fetch | sign => exact ih st

/-- Whoever waits gets what the adapter makes of the answer. -/
theorem answer_eq_endOf {w : Waiting} (hw : st.Waits way w) (r : Except Fault BackendAnswer) :
    (st.answer way r).2 = endOf (Adapter.conclude st.shown w r) := by
  have htell : (st.tell way (.answer r)).2 = Adapter.conclude st.shown w r := by
    unfold tell Adapter.step
    rw [show (st.adapter way.through).waitingOf? way.who = some w from hw]
  rw [answer, ← htell]
  exact endOf_recorded _ _

/-- Whatever a backend answers, the call that waits for it ends with something that it can end with. -/
theorem answer_fair {w : Waiting} (hw : st.Waits way w) (ha : c.Awaits w) {calm : Prop}
    {r : Except Fault BackendAnswer} (hr : calm → Uncancelled r) : c.Fair calm (st.answer way r).2 := by
  rw [answer_eq_endOf hw]
  -- An answer to another question ends the call with a fault.
  have hmisfit (c : Call) : c.Fair calm (.error (.runtime "the call has no end")) :=
    ⟨rfl, fun _ => uncancelled_error (by rintro ⟨⟩)⟩
  cases r with
  | error f =>
    have hend : endOf (Adapter.conclude st.shown w (.error f)) = .error f := by cases w <;> rfl
    rw [hend]
    exact ⟨rfl, fun hcalm => uncancelled_error fun he => hr hcalm (he ▸ rfl)⟩
  | ok a =>
    cases ha with
    | check =>
      cases a with
      | ready usable => cases usable <;> exact ⟨rfl, fun _ => uncancelled_ok _⟩
      | certificate | signature => exact hmisfit _
    | fetch =>
      cases a with
      | certificate d => exact ⟨rfl, fun _ => uncancelled_ok _⟩
      | ready | signature => exact hmisfit _
    | sign =>
      cases a with
      | signature value => exact ⟨rfl, fun _ => uncancelled_ok _⟩
      | ready | certificate => exact hmisfit _

/-! ## How calls begin -/

/-- A scripted call is there for a call of a session: it takes its place, sends its request, or is played by a backend
while the session waits for one. -/
inductive Serves (st : Stage) (way : Route) : Call → Cue → Prop
  | select {choice : ModeChoice} {n : Handle} : Serves st way (.select choice) (.select choice n)
  | fetch {h : Handle} {language : Text} : Serves st way (.fetch h language) (.fetch h language)
  | sign {h : Handle} {d : Certificate} {hash : HashToSign} {language : Text} :
      Serves st way (.sign h d hash language) (.sign h d hash language)
  | http {o : Outgoing} {url : Url} {body : Text} : o.prepare st.cast.address = .ok (url, body) →
      Serves st way (.submit o) (.http o.endpoint url body)
  | backend {c : Call} {w : Waiting} {cue : Cue} : st.Waits way w → c.Awaits w → cue.isBackends = true →
      Serves st way c cue

/-- What is there for a call stays there, whatever happens, as long as adapters are left alone. -/
theorem Serves.congr {cue : Cue} (h : st.Serves way c cue) (hcast : st'.cast = st.cast)
    (hadapters : st'.adapters = st.adapters) : st'.Serves way c cue := by
  cases h with
  | select => exact .select
  | fetch => exact .fetch
  | sign => exact .sign
  | http hp => exact .http (hcast ▸ hp)
  | backend hw ha hb =>
    refine .backend ?_ ha hb
    rwa [Waits, adapter, hcast, hadapters]

/-- A call begins with its end, or with a scripted call that is there for it. -/
inductive Begun (way : Route) (c : Call) : Stage × Progress → Prop
  | ended {st : Stage} {r : Except Fault Value} : c.Fair st.cast.cardModule.Steady r → Begun way c (st, .ended r)
  | played {st : Stage} {cue : Cue} : st.Serves way c cue → Begun way c (st, .cue cue)

/-- A backend answers at once. -/
theorem begun_answer {w : Waiting} (hw : st.Waits way w) (ha : c.Awaits w) {r : Except Fault BackendAnswer}
    (hr : st.cast.cardModule.Steady → Uncancelled r) : Begun way c (ended (st.answer way r)) := by
  refine .ended ?_
  rw [(answer_backstage st way r).cast]
  exact answer_fair hw ha hr

theorem askHealth_begun {mode : BackendMode} {h : Handle} (hw : st.Waits way (.check mode h)) (choice : ModeChoice) :
    Begun way (.select choice) (st.askHealth way h) := by
  unfold askHealth
  split
  next config loaded _ =>
    exact begun_answer (hw.performed way.who h _) .check fun hm => (CardModule.check_uncancelled hm config loaded).map _
  · split
    · exact .played (.backend hw .check rfl)
    · exact begun_answer hw .check fun _ => uncancelled_ok _
  · exact begun_answer hw .check fun _ => uncancelled_ok _

theorem askCertificate_begun {h : Handle} (hw : st.Waits way (.fetch h)) (language : Text) :
    Begun way (.fetch h language) (st.askCertificate way h language) := by
  unfold askCertificate
  split
  next config loaded _ =>
    exact begun_answer (hw.performed none h _) .fetch fun hm => (CardModule.fetch_uncancelled hm config loaded).map _
  · exact begun_answer hw .fetch fun _ => uncancelled_ok _
  · exact .played (.backend hw .fetch rfl)
  · exact begun_answer hw .fetch fun _ => uncancelled_error (by rintro ⟨⟩)

theorem askSignature_begun {h : Handle} {hash : HashToSign} (hw : st.Waits way (.sign h hash)) (d : Certificate)
    (language : Text) : Begun way (.sign h d hash language) (st.askSignature way h d hash language) := by
  unfold askSignature
  split
  next config loaded _ =>
    split
    next f hf =>
      refine begun_answer hw .sign fun _ => uncancelled_error ?_
      unfold CardConfig.beginSign at hf
      split at hf
      · cases hf
        rintro ⟨⟩
      · split at hf <;> cases hf
    · exact .played (.backend hw .sign rfl)
    · exact begun_answer (hw.performed none h _) .sign fun hm =>
        (CardModule.sign_uncancelled hm config loaded d hash .protectedPath).map _
  next token mode _ =>
    have hw : (st.record ((token.sign d hash).2.toList.map .softwareFailed)).Waits way (.sign h hash) := hw
    exact begun_answer hw .sign fun _ => (token.sign_uncancelled d hash).map _
  · exact .played (.backend hw .sign rfl)
  · exact begun_answer hw .sign fun _ => uncancelled_error (by rintro ⟨⟩)

/-- Records are written, and nothing else is left than the end. -/
theorem recorded_records (st : Stage) (rs : List TokenRecord) (r : Except Fault Value) :
    (st.recorded (rs.map .record ++ [.ended r])).2 = [.ended r] := by
  induction rs generalizing st with
  | nil => rfl
  | cons _ rs ih => exact ih _

/-- An adapter that was made to wait does so, whatever backend is made for it. -/
theorem withMade_waits (st : Stage) (way : Route) (a : Adapter) (w : Waiting) (fresh : Handle) :
    ((st.setAdapter way.through (a.await way.who w)).withMade way fresh).Waits way w := by
  have hw : (st.setAdapter way.through (a.await way.who w)).Waits way w := by
    rw [Waits, adapter_setAdapter, Adapter.waitingOf?_await, if_pos rfl]
  unfold withMade
  split
  · split <;> exact hw
  · exact hw

theorem performSelect_begun (st : Stage) (way : Route) (choice : ModeChoice) :
    Begun way (.select choice) (st.performSelect way choice) := by
  have hs := (st.adapter way.through).selects_select way.who choice fun m => (st.make m).map fun _ => st.freeHandle
  have htell : st.tell way (.select choice fun m => (st.make m).map fun _ => st.freeHandle) =
      (st.setAdapter way.through ((st.adapter way.through).select way.who choice _).1,
        ((st.adapter way.through).select way.who choice _).2) := rfl
  rw [performSelect_eq, htell]
  generalize (st.adapter way.through).select way.who choice _ = x at hs
  cases hs with
  | nothing records =>
    have hnone := recorded_records ((st.setAdapter way.through (st.adapter way.through)).withMade way st.freeHandle)
      records (.ok (.backend none))
    rw [takeUp, Adapter.nothing]
    dsimp only
    rw [hnone]
    exact .ended ⟨rfl, fun _ => uncancelled_ok _⟩
  | held | made => exact askHealth_begun (withMade_waits st way _ _ _) choice

/-- A backend is held, or it is refused. -/
theorem holds_or_refused (st : Stage) (way : Route) (h : Handle) :
    (st.adapter way.through).holds h = true ∨
      ∃ f, f ≠ .cancelled ∧ (st.adapter way.through).require st.shown (some h) = .error f := by
  cases hh : (st.adapter way.through).holds h with
  | true => exact .inl rfl
  | false =>
    refine .inr ⟨.unavailable (some (st.shown h ++ " was not selected through this adapter")), by rintro ⟨⟩, ?_⟩
    rw [Adapter.require, if_neg (Bool.eq_false_iff.mp hh)]

theorem performFetch_begun (st : Stage) (way : Route) (h : Handle) (language : Text) :
    Begun way (.fetch h language) (st.performFetch way (some h) language) := by
  obtain hh | ⟨f, hf, hr⟩ := st.holds_or_refused way h
  · rw [performFetch_of_holds hh]
    exact askCertificate_begun (st.waits_awaiting way _) language
  · have htell : st.tell way (.fetch (some h)) =
        (st.setAdapter way.through (st.adapter way.through), [.ended (.error f)]) := by
      unfold tell Adapter.step
      dsimp only
      rw [hr]
    rw [performFetch, htell]
    exact .ended ⟨rfl, fun _ => uncancelled_error hf⟩

theorem performSign_begun (st : Stage) (way : Route) (h : Handle) (d : Certificate) (hash : HashToSign)
    (language : Text) : Begun way (.sign h d hash language) (st.performSign way (some h) d hash language) := by
  obtain hh | ⟨f, hf, hr⟩ := st.holds_or_refused way h
  · rw [performSign_of_holds hh]
    exact askSignature_begun (st.waits_awaiting way _) d language
  · have htell : st.tell way (.sign (some h) hash) =
        (st.setAdapter way.through (st.adapter way.through), [.ended (.error f)]) := by
      unfold tell Adapter.step
      dsimp only
      rw [hr]
    rw [performSign, htell]
    exact .ended ⟨rfl, fun _ => uncancelled_error hf⟩

/-- **A call begins** with its end, or with a scripted call that is there for it. -/
theorem perform_begun (st : Stage) (way : Route) (c : Call) : Begun way c (st.perform way c) := by
  cases c with
  | submit o =>
    have hprepare := o.uncancelled_prepare st.cast.address
    simp only [perform]
    split
    next f hf =>
      rw [hf] at hprepare
      exact .ended ⟨rfl, fun _ => uncancelled_error fun he => hprepare (he ▸ rfl)⟩
    next url body hp => exact .played (.http hp)
  | select choice =>
    simp only [perform]
    split
    · exact .played .select
    · exact performSelect_begun st way choice
  | fetch h language =>
    simp only [perform]
    split
    · exact .played .fetch
    · exact performFetch_begun st way h language
  | sign h d hash language =>
    simp only [perform]
    split
    · exact .played .sign
    · exact performSign_begun st way h d hash language

/-! ## How calls end -/

/-- What the user answers, or does not, ends the call of whoever waits for a signature. -/
theorem signWithPin_fair {w : Waiting} (hw : st.Waits way w) (ha : c.Awaits w) (h : Handle) (d : Certificate)
    (hash : HashToSign) (entered : Except Fault (Option Text)) :
    c.Fair (st.cast.cardModule.Steady ∧ Uncancelled entered) (st.signWithPin way h d hash entered).2 := by
  unfold signWithPin
  split
  next config loaded _ =>
    refine answer_fair (hw.performed none h _) ha ?_
    rintro ⟨hm, he⟩
    exact (CardModule.signAnswered_uncancelled hm config loaded d hash he).map _
  · exact answer_fair hw ha fun _ => uncancelled_error (by rintro ⟨⟩)

/-- **What is played ends the call** that it is there for, and cancels it only if it says so. -/
theorem conclude_fair {cue : Cue} (hs : st.Serves way c cue) (r : Except Fault Line) :
    c.Fair (st.cast.cardModule.Steady ∧ Uncancelled r) (st.conclude way cue r).2 := by
  -- A fault that is played is the fault of whatever comes of it.
  have hplayed {α : Type} {f : Fault} (hcalm : st.cast.cardModule.Steady ∧
      Uncancelled (.error f : Except Fault Line)) : Uncancelled (.error f : Except Fault α) :=
    uncancelled_error fun he => hcalm.2 (he ▸ rfl)
  have hfault {c : Call} {f : Fault} :
      c.Fair (st.cast.cardModule.Steady ∧ Uncancelled (.error f : Except Fault Line)) (.error f) := ⟨rfl, hplayed⟩
  have hmisplaced {c : Call} {calm : Prop} : c.Fair calm (.error misplaced) :=
    ⟨rfl, fun _ => uncancelled_error (by rintro ⟨⟩)⟩
  cases hs with
  | select =>
    cases r with
    | error f => exact hfault
    | ok l =>
      cases l with
      | backend => exact ⟨rfl, fun _ => uncancelled_ok _⟩
      | _ => exact hmisplaced
  | fetch =>
    cases r with
    | error f => exact hfault
    | ok l =>
      cases l with
      | certificate => exact ⟨rfl, fun _ => uncancelled_ok _⟩
      | _ => exact hmisplaced
  | sign =>
    cases r with
    | error f => exact hfault
    | ok l =>
      cases l with
      | signature => exact ⟨rfl, fun _ => uncancelled_ok _⟩
      | _ => exact hmisplaced
  | @http o url body hp =>
    have hanswered (outcome : Except Fault HttpAnswer) (calm : Prop) (ho : calm → Uncancelled outcome) :
        (Call.submit o).Fair calm ((o.endpoint.conclude url outcome).map .reply) := by
      have hconclude : o.conclude st.cast.address outcome = o.endpoint.conclude url outcome := by
        rw [Outgoing.conclude, hp]
        rfl
      refine ⟨?_, fun hcalm => (o.endpoint.uncancelled_conclude url (ho hcalm)).map _⟩
      rw [← hconclude]
      exact Call.accepts_result st.cast.address o outcome
    cases r with
    | error f => exact hanswered (.error f) _ hplayed
    | ok l =>
      cases l with
      | http a => exact hanswered (.ok a) _ fun _ => uncancelled_ok a
      | _ => exact hmisplaced
  | backend hw ha hb =>
    cases cue with
    | pin h d hash language =>
      cases r with
      | error f =>
        have hpin := signWithPin_fair hw ha h d hash (.error f)
        exact ⟨hpin.accepts, fun hcalm => hpin.uncancelled ⟨hcalm.1, hplayed hcalm⟩⟩
      | ok l =>
        cases l with
        | pin entered =>
          have hpin := signWithPin_fair hw ha h d hash (.ok entered)
          exact ⟨hpin.accepts, fun hcalm => hpin.uncancelled ⟨hcalm.1, uncancelled_ok entered⟩⟩
        | _ => exact hmisplaced
    | health =>
      cases r with
      | error f => exact answer_fair hw ha hplayed
      | ok l =>
        cases l with
        | usable yes => exact answer_fair hw ha fun _ => uncancelled_ok _
        | _ => exact hmisplaced
    | backendFetch =>
      cases r with
      | error f => exact answer_fair hw ha hplayed
      | ok l =>
        cases l with
        | certificate => exact answer_fair hw ha fun _ => uncancelled_ok _
        | _ => exact hmisplaced
    | backendSign =>
      cases r with
      | error f => exact answer_fair hw ha hplayed
      | ok l =>
        cases l with
        | signature => exact answer_fair hw ha fun _ => uncancelled_ok _
        | _ => exact hmisplaced
    | select | fetch | sign | http => cases hb

end Stage

end Rehearsal

end RemoteSigning
