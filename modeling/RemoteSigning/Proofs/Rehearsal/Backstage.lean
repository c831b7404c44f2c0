import RemoteSigning.Proofs.Secrecy.Stage

/-!
# Behind the scenes

What a stage does about a call before somebody with a script plays it, and when it has been played, is done by adapters
and backends, at the card module and in the log. Sessions do not change by it, and nobody begins or ceases to be kept
pending. It may be noted, but what is noted is neither a call nor a report nor the end of a run.

- `Stage.Backstage`: two stages between which nothing else has happened;
- `perform_backstage`: a call begins behind the scenes, up to the moment when it has to be played;
- `conclude_backstage`: a call ends behind the scenes, from the moment when it was played;
- `play_ofSession`: in between, a session makes a scripted call, which ends or is kept pending.
-/

namespace RemoteSigning.Rehearsal

/-- The event is no scripted call, no report and no end of a run. -/
def Event.isAside : Event → Bool
  | .card _ | .cancelled _ | .interrupted _ => true
  | .cue _ | .report _ | .finished _ => false

namespace Stage

variable {st st' st'' : Stage}

/-- The second stage comes from the first one by what is done behind the scenes. -/
structure Backstage (st st' : Stage) : Prop where
  cast : st'.cast = st.cast
  plans : st'.plans = st.plans
  system : st'.system = st.system
  held : st'.held = st.held
  notes : ∃ ns, st'.notes = st.notes ++ ns ∧ ∀ n ∈ ns, n.event.isAside = true

namespace Backstage

/-- Nothing is noted. -/
theorem of_notes_eq (hcast : st'.cast = st.cast) (hplans : st'.plans = st.plans) (hsystem : st'.system = st.system)
    (hheld : st'.held = st.held) (hnotes : st'.notes = st.notes) : st.Backstage st' :=
  ⟨hcast, hplans, hsystem, hheld, [], by rw [hnotes, List.append_nil], List.forall_mem_nil _⟩

theorem refl (st : Stage) : st.Backstage st := of_notes_eq rfl rfl rfl rfl rfl

theorem trans (h : st.Backstage st') (h' : st'.Backstage st'') : st.Backstage st'' := by
  obtain ⟨ns, hns, haside⟩ := h.notes
  obtain ⟨ns', hns', haside'⟩ := h'.notes
  refine ⟨h'.cast.trans h.cast, h'.plans.trans h.plans, h'.system.trans h.system, h'.held.trans h.held, ns ++ ns', ?_,
    List.forall_mem_append.mpr ⟨haside, haside'⟩⟩
  rw [hns', hns, List.append_assoc]

end Backstage

/-! ## Records, backends and adapters -/

theorem note_backstage (st : Stage) (session : Option Text) {e : Event} (he : e.isAside = true) :
    st.Backstage (st.note session e) :=
  ⟨rfl, rfl, rfl, rfl, [⟨session, e⟩], rfl, fun _ hn => List.mem_singleton.mp hn ▸ he⟩

theorem write_backstage (st : Stage) (lines : List LogLine) : st.Backstage (st.write lines) :=
  .of_notes_eq rfl rfl rfl rfl rfl

theorem noteCard_backstage (st : Stage) (session : Option Text) (es : List CardEvent) :
    st.Backstage (st.noteCard session es) := by
  refine ⟨rfl, rfl, rfl, rfl, _, rfl, fun n hn => ?_⟩
  obtain ⟨e, -, rfl⟩ := List.mem_map.mp hn
  rfl

theorem record_backstage (st : Stage) (rs : List TokenRecord) : st.Backstage (st.record rs) := write_backstage st _

theorem noteCancel_backstage (st : Stage) (id : Text) (out : List Output) : st.Backstage (st.noteCancel id out) := by
  induction out generalizing st with
  | nil => exact .refl st
  | cons o rest ih =>
    cases o with
    | record r => exact (write_backstage st [r.line id]).trans (ih _)
    | answered abandoned => exact (note_backstage st (some id) rfl).trans (ih _)
    | «opened» | call | interrupt | report | ended => exact ih st

theorem performed_backstage {α : Type} (st : Stage) (session : Option Text) (h : Handle) (p : Performed α) :
    st.Backstage (st.performed session h p).1 :=
  ((noteCard_backstage st session p.events).trans (record_backstage _ p.records)).trans
    (.of_notes_eq rfl rfl rfl rfl rfl)

theorem tell_backstage (st : Stage) (way : Route) (e : AdapterHappening) : st.Backstage (st.tell way e).1 :=
  .of_notes_eq rfl rfl rfl rfl rfl

theorem recorded_backstage (st : Stage) (out : List AdapterOutput) : st.Backstage (st.recorded out).1 := by
  induction out generalizing st with
  | nil => exact .refl st
  | cons o rest ih =>
    cases o with
    | record r => exact (record_backstage st [r]).trans (ih _)
    | check | fetch | sign | ended => exact ih st

theorem answer_backstage (st : Stage) (way : Route) (r : Except Fault BackendAnswer) :
    st.Backstage (st.answer way r).1 :=
  (tell_backstage st way (.answer r)).trans (recorded_backstage _ _)

theorem withMade_backstage (st : Stage) (way : Route) (fresh : Handle) : st.Backstage (st.withMade way fresh) := by
  unfold withMade
  split
  · split
    · exact .of_notes_eq rfl rfl rfl rfl rfl
    · exact .refl st
  · exact .refl st

/-! ## Calls -/

theorem askHealth_backstage (st : Stage) (way : Route) (h : Handle) : st.Backstage (st.askHealth way h).1 := by
  unfold askHealth
  split
  · exact (performed_backstage st way.who h _).trans (answer_backstage _ way _)
  · split
    · exact .refl st
    · exact answer_backstage st way _
  · exact answer_backstage st way _

theorem askCertificate_backstage (st : Stage) (way : Route) (h : Handle) (language : Text) :
    st.Backstage (st.askCertificate way h language).1 := by
  unfold askCertificate
  split
  · exact (performed_backstage st none h _).trans (answer_backstage _ way _)
  · exact answer_backstage st way _
  · exact .refl st
  · exact answer_backstage st way _

theorem askSignature_backstage (st : Stage) (way : Route) (h : Handle) (d : Certificate) (hash : HashToSign)
    (language : Text) : st.Backstage (st.askSignature way h d hash language).1 := by
  unfold askSignature
  split
  · split
    · exact answer_backstage st way _
    · exact .refl st
    · exact (performed_backstage st none h _).trans (answer_backstage _ way _)
  · exact (record_backstage st _).trans (answer_backstage _ way _)
  · exact .refl st
  · exact answer_backstage st way _

theorem takeUp_backstage (way : Route) (r : Stage × List AdapterOutput) : r.1.Backstage (takeUp way r).1 := by
  unfold takeUp
  split
  · exact askHealth_backstage r.1 way _
  · exact .refl r.1

theorem performSelect_backstage (st : Stage) (way : Route) (choice : ModeChoice) :
    st.Backstage (st.performSelect way choice).1 := by
  rw [performSelect_eq]
  exact (((tell_backstage st way _).trans (withMade_backstage _ way _)).trans (recorded_backstage _ _)).trans
    (takeUp_backstage way _)

theorem performFetch_backstage (st : Stage) (way : Route) (backend : Option Handle) (language : Text) :
    st.Backstage (st.performFetch way backend language).1 := by
  refine (tell_backstage st way (.fetch backend)).trans ?_
  unfold performFetch
  dsimp only
  split
  · exact askCertificate_backstage _ way _ language
  · exact .refl _

theorem performSign_backstage (st : Stage) (way : Route) (backend : Option Handle) (d : Certificate)
    (hash : HashToSign) (language : Text) : st.Backstage (st.performSign way backend d hash language).1 := by
  refine (tell_backstage st way (.sign backend hash)).trans ?_
  unfold performSign
  dsimp only
  split
  · exact askSignature_backstage _ way _ d hash language
  · exact .refl _

/-- A call begins behind the scenes, up to the moment when it has to be played. -/
theorem perform_backstage (st : Stage) (way : Route) (c : Call) : st.Backstage (st.perform way c).1 := by
  cases c with
  | submit request =>
    simp only [perform]
    split <;> exact .refl st
  | select choice =>
    simp only [perform]
    split
    · exact .refl st
    · exact performSelect_backstage st way choice
  | fetch h language =>
    simp only [perform]
    split
    · exact .refl st
    · exact performFetch_backstage st way (some h) language
  | sign h d hash language =>
    simp only [perform]
    split
    · exact .refl st
    · exact performSign_backstage st way (some h) d hash language

theorem signWithPin_backstage (st : Stage) (way : Route) (h : Handle) (d : Certificate) (hash : HashToSign)
    (entered : Except Fault (Option Text)) : st.Backstage (st.signWithPin way h d hash entered).1 := by
  unfold signWithPin
  split
  · exact (performed_backstage st none h _).trans (answer_backstage _ way _)
  · exact answer_backstage st way _

/-- A call ends behind the scenes, from the moment when it was played. -/
theorem conclude_backstage (st : Stage) (way : Route) (c : Cue) (r : Except Fault Line) :
    st.Backstage (st.conclude way c r).1 := by
  cases r with
  | error f =>
    cases c with
    | pin h d hash language => exact signWithPin_backstage st way h d hash (.error f)
    | health | backendFetch | backendSign => exact answer_backstage st way (.error f)
    | select | fetch | sign | http => exact .refl st
  | ok l =>
    cases c with
    | http e url body =>
      cases l with
      | http a =>
        simp only [conclude]
        split
        · exact record_backstage st _
        · exact .refl st
      | _ => exact .refl st
    | pin h d hash language =>
      cases l with
      | pin entered => exact signWithPin_backstage st way h d hash (.ok entered)
      | _ => exact .refl st
    | health =>
      cases l with
      | usable yes => exact answer_backstage st way _
      | _ => exact .refl st
    | backendFetch =>
      cases l with
      | certificate d => exact answer_backstage st way _
      | _ => exact .refl st
    | backendSign =>
      cases l with
      | signature value other => exact answer_backstage st way _
      | _ => exact .refl st
    | select | fetch | sign => cases l <;> exact .refl st

/-! ## Playing -/

/-- The stage when the session with a name has made a scripted call, and has perhaps been cancelled from within it. -/
def meeting (st : Stage) (id : Text) (c : Cue) : Stage :=
  if (st.take c.role).2.cancels then ((st.take c.role).1.note (some id) (.cue c)).cancelWithin (some id)
  else (st.take c.role).1.note (some id) (.cue c)

/-- The stage when a call is kept pending. -/
def keep (st : Stage) (w : Held) : Stage := { st with held := st.held ++ [w] }

/-- A scripted call of a session ends, or it is kept pending. -/
theorem play_ofSession (st : Stage) (id : Text) (c : Cue) :
    st.play (.ofSession id) c =
      if (st.take c.role).2.holds || (st.take c.role).2.sigint then
        ((st.meeting id c).keep ⟨id, c, (st.take c.role).2⟩, none)
      else (((st.meeting id c).conclude (.ofSession id) c (st.take c.role).2.result).1,
        some ((st.meeting id c).conclude (.ofSession id) c (st.take c.role).2.result).2) := rfl

/-- What a session does when it is cancelled from within a call is done behind the scenes. -/
theorem cancelWithin_backstage (st : Stage) (id : Text) :
    Backstage { st with system := (st.system.step id (.cancel true)).1 } (st.cancelWithin (some id)) :=
  noteCancel_backstage _ id _

end Stage

end RemoteSigning.Rehearsal
