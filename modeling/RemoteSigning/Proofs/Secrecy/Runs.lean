import RemoteSigning.Proofs.Secrecy.Stage

/-!
# Runs on two stages that differ in secrets

Calls that have begun on two stages are played after scripts that differ in PINs only. They end alike, and the sessions
go on, so that the stages stay alike whatever happens on them.

- `conclude_alike`, `play_alike`: how a scripted call ends, and how it is played;
- `proceed_alike`: what sessions do, until their runs end or wait;
- `happen_alike`, `release_alike`, `close_alike`: what the happenings of a rehearsal lead to.
-/

namespace RemoteSigning.Rehearsal

variable {L : Likeness}

/-! ## Scripts -/

theorem getElem?_alike {α : Type} {R : α → α → Prop} {l l' : List α} (h : List.Forall₂ R l l') (n : Nat) :
    Option.Rel R l[n]? l'[n]? := by
  induction h generalizing n with
  | nil => exact .none
  | cons hab _ ih =>
    cases n with
    | zero => exact .some hab
    | succ n => exact ih n

theorem turn_alike {l l' : Script} (h : List.Forall₂ Behaviour.Alike l l') (n : Nat) :
    (l.turn n).Alike (l'.turn n) := by
  have hn := getElem?_alike h n
  have hlast : Option.Rel Behaviour.Alike l.getLast? l'.getLast? := by
    rw [List.getLast?_eq_getElem?, List.getLast?_eq_getElem?, h.length_eq]
    exact getElem?_alike h _
  unfold Script.turn
  generalize l[n]? = b at hn ⊢
  generalize l'[n]? = b' at hn ⊢
  cases hn with
  | some hb => exact hb
  | none =>
    generalize l.getLast? = b at hlast ⊢
    generalize l'.getLast? = b' at hlast ⊢
    cases hlast with
    | some hb => exact hb
    | none => exact .refl _

namespace Stage

variable {st st' : Stage}

theorem script_alike (h : st.Alike L st') (r : Role) : List.Forall₂ Behaviour.Alike (st.script r) (st'.script r) := by
  cases r with
  | user =>
    have hu := h.cast.user
    rw [Stage.script, Stage.script]
    generalize st.cast.user = u at hu ⊢
    generalize st'.cast.user = u' at hu ⊢
    cases hu with
    | some hu => exact hu
    | none => exact .nil
  | select | fetch | sign =>
    rw [Stage.script, Stage.script, h.cast.token]
    exact forall₂_of_eq .refl _
  | service path =>
    rw [Stage.script, Stage.script, h.cast.service, h.cast.elsewhere]
    exact forall₂_of_eq .refl _
  | health b | backendFetch b | backendSign b =>
    rw [Stage.script, Stage.script, h.plans]
    exact forall₂_of_eq .refl _

theorem take_alike (h : st.Alike L st') (r : Role) : YieldAlike L Behaviour.Alike (st.take r) (st'.take r) := by
  unfold take
  rw [h.turnsOf]
  exact ⟨{ h with turns := by simp only [h.turns] }, turn_alike (script_alike h r) _⟩

theorem signWithPin_alike (h : st.Alike L st') (way : Route) (b : Handle) (certificate : Certificate)
    (hash : HashToSign) {r r' : Except Fault (Option Text)} (hr : EndAlike EnteredAlike r r') :
    YieldAlike L (EndAlike (Value.Alike L)) (st.signWithPin way b certificate hash r)
      (st'.signWithPin way b certificate hash r') := by
  unfold signWithPin
  rw [h.backend?]
  split
  next config loaded _ =>
    obtain ⟨hst, hp⟩ := performed_alike h none b
      (CardModule.signAnswered_alike h.cast.cardModule config loaded certificate hash hr)
    exact answer_alike hst way (hp.map fun _ _ hab => .signature hab)
  · exact answer_alike h way (.error _)

/-- What comes of an exchange does not depend on what was sent. -/
theorem conclude_http (h : st.Alike L st') (way : Route) (e : Endpoint) (url : Url) (body body' : Text)
    (r : Except Fault Line) :
    YieldAlike L (EndAlike (Value.Alike L)) (st.conclude way (.http e url body) r)
      (st'.conclude way (.http e url body') r) := by
  cases r with
  | error f => exact ⟨h, .of_eq .same _⟩
  | ok l =>
    cases l with
    | http a =>
      simp only [conclude]
      refine ⟨?_, .of_eq .same _⟩
      split
      · exact h.record _
      · exact h
    | _ => exact ⟨h, .error _⟩

/-- **Scripted calls** end alike. -/
theorem conclude_alike (h : st.Alike L st') (way : Route) {c c' : Cue} (hc : c.Alike L c')
    {r r' : Except Fault Line} (hr : EndAlike Line.Alike r r') :
    YieldAlike L (EndAlike (Value.Alike L)) (st.conclude way c r) (st'.conclude way c' r') := by
  cases hc with
  | phase2 url hs =>
    cases hr with
    | error f => exact conclude_http h way .phase2 url _ _ (.error f)
    | @ok l _ hl =>
      cases hl with
      | same => exact conclude_http h way .phase2 url _ _ (.ok l)
      | pin => exact ⟨h, .error _⟩
  | same c =>
    cases hr with
    | error f =>
      cases c with
      | http e url body => exact conclude_http h way e url body body (.error f)
      | pin b certificate hash language => exact signWithPin_alike h way b certificate hash (.error f)
      | health | backendFetch | backendSign => exact answer_alike h way (.error f)
      | select | fetch | sign => exact ⟨h, .error f⟩
    | @ok l _ hl =>
      cases hl with
      | pin he =>
        cases c with
        | pin b certificate hash language => exact signWithPin_alike h way b certificate hash (.ok he)
        | _ => exact ⟨h, .error _⟩
      | same =>
        cases c with
        | http e url body => exact conclude_http h way e url body body (.ok l)
        | pin b certificate hash language =>
          cases l with
          | pin entered => exact signWithPin_alike h way b certificate hash (.ok (.same entered))
          | _ => exact ⟨h, .error _⟩
        | health =>
          cases l with
          | usable => exact answer_alike h way (.of_eq .same _)
          | _ => exact ⟨h, .error _⟩
        | backendFetch =>
          cases l with
          | certificate => exact answer_alike h way (.of_eq .same _)
          | _ => exact ⟨h, .error _⟩
        | backendSign =>
          cases l with
          | signature => exact answer_alike h way (.of_eq .same _)
          | _ => exact ⟨h, .error _⟩
        | select =>
          cases l with
          | backend => exact ⟨h, .of_eq .same _⟩
          | _ => exact ⟨h, .error _⟩
        | fetch =>
          cases l with
          | certificate => exact ⟨h, .of_eq .same _⟩
          | _ => exact ⟨h, .error _⟩
        | sign =>
          cases l with
          | signature => exact ⟨h, .of_eq .same _⟩
          | _ => exact ⟨h, .error _⟩

/-! ## Playing -/

/-- A line that two records have in common is written. -/
theorem Alike.writeLine (h : st.Alike L st') {r r' : SessionRecord} (hr : r.Alike r') (id : Text) :
    (st.write [r.line id]).Alike L (st'.write [r'.line id]) := by
  rw [hr id]
  exact h.write _

theorem Alike.setSystem (h : st.Alike L st') {s s' : System} (hs : s.Alike L s') :
    Alike L { st with system := s } { st' with system := s' } := { h with system := hs }

theorem noteCancel_alike (h : st.Alike L st') (id : Text) {out out' : List Output}
    (hout : List.Forall₂ (Output.Alike L) out out') : (st.noteCancel id out).Alike L (st'.noteCancel id out') := by
  induction hout generalizing st st' with
  | nil => exact h
  | @cons o _ _ _ ho _ ih =>
    cases ho with
    | call => exact ih h
    | record hr => exact ih (h.writeLine hr id)
    | same =>
      cases o with
      | record r => exact ih (h.write _)
      | answered b => exact ih (h.note _ (.same _))
      | «opened» | call | interrupt | report | ended => exact ih h

theorem cancelWithin_alike (h : st.Alike L st') (who : Caller) :
    (st.cancelWithin who).Alike L (st'.cancelWithin who) := by
  cases who with
  | none => exact h
  | some id =>
    obtain ⟨hsystem, hout⟩ := System.step_alike h.system id (.same (.cancel true))
    exact noteCancel_alike (h.setSystem hsystem) id hout

/-- **Scripted calls** are played alike: both end, or both are kept pending. -/
theorem play_alike (h : st.Alike L st') (way : Route) {c c' : Cue} (hc : c.Alike L c') :
    YieldAlike L (Option.Rel (EndAlike (Value.Alike L))) (st.play way c) (st'.play way c') := by
  obtain ⟨who, through⟩ := way
  have ht := take_alike h c.role
  unfold play
  rw [← hc.role]
  generalize st.take c.role = t at ht ⊢
  generalize st'.take c.role = t' at ht ⊢
  obtain ⟨u, b⟩ := t
  obtain ⟨u', b'⟩ := t'
  obtain ⟨hu, hb⟩ := ht
  have hplayed : Alike L
      (if b.cancels then (u.note who (.cue c)).cancelWithin who else u.note who (.cue c))
      (if b'.cancels then (u'.note who (.cue c')).cancelWithin who else u'.note who (.cue c')) := by
    rw [hb.cancels]
    split
    · exact cancelWithin_alike (hu.note _ (.cue hc)) _
    · exact hu.note _ (.cue hc)
  obtain ⟨hended, hr⟩ := conclude_alike hplayed ⟨who, through⟩ hc hb.result
  cases who with
  | none => exact ⟨hended, .some hr⟩
  | some id =>
    dsimp only at hended hr ⊢
    rw [hb.holds, hb.sigint]
    split
    · exact ⟨{ hplayed with held := List.rel_append hplayed.held (.cons ⟨rfl, hc, hb⟩ .nil) }, .none⟩
    · exact ⟨hended, .some hr⟩

theorem call_alike (h : st.Alike L st') (way : Route) {c c' : Call} (hc : c.Alike L c') :
    YieldAlike L (Option.Rel (EndAlike (Value.Alike L))) (st.call way c) (st'.call way c') := by
  have hp := perform_alike h way hc
  unfold call
  generalize st.perform way c = p at hp ⊢
  generalize st'.perform way c' = p' at hp ⊢
  obtain ⟨u, progress⟩ := p
  obtain ⟨u', progress'⟩ := p'
  obtain ⟨hu, hprogress⟩ := hp
  cases hprogress with
  | ended hr => exact ⟨hu, .some hr⟩
  | cue hc => exact play_alike hu way hc

theorem Alike.heldOf? (h : st.Alike L st') (id : Text) : Option.Rel (Held.Alike L) (st.heldOf? id) (st'.heldOf? id) :=
  find?_alike (fun a b hab => by rw [hab.session]) h.held

theorem Alike.unhold (h : st.Alike L st') (id : Text) : (st.unhold id).Alike L (st'.unhold id) := by
  have hsession (w w' : Held) (hw : w.Alike L w') :
      decide (w.session ≠ id) = true ↔ decide (w'.session ≠ id) = true := by
    rw [hw.session]
  exact { h with held := List.rel_filter hsession h.held }

theorem interrupted_alike {b b' : Behaviour} (h : b.Alike b') :
    EndAlike Line.Alike (Behaviour.interrupted b) (Behaviour.interrupted b') := by
  unfold Behaviour.interrupted
  rw [h.onCancel]
  split
  · exact .error _
  · exact h.result
  · exact .error _
  · exact .error _

/-- Pending calls that are asked to stop end alike. -/
theorem stop_alike (h : st.Alike L st') {w w' : Held} (hw : w.Alike L w') :
    YieldAlike L (EndAlike (Value.Alike L)) (st.stop w) (st'.stop w') := by
  unfold stop
  rw [hw.session]
  exact conclude_alike ((h.unhold _).note _ (.interrupted hw.cue)) _ hw.cue (interrupted_alike hw.behaviour)

/-! ## Runs -/

/-- **What sessions do** on two stages, until their runs end or wait. The induction is on the calls that can still end
at once, and for each number of them on what is left to be done. -/
theorem proceed_alike (fuel : Nat) (h : st.Alike L st') (id : Text) {out out' : List Output}
    (hout : List.Forall₂ (Output.Alike L) out out') : (proceed fuel st id out).Alike L (proceed fuel st' id out') := by
  induction fuel using Nat.strong_induction_on generalizing st st' out out' with
  | _ fuel ih =>
  induction hout generalizing st st' with
  | nil =>
    rw [proceed, proceed]
    exact h
  | @cons o o' rest rest' ho hrest ihrest =>
    have hcall {c c' : Call} (hc : c.Alike L c') :
        (proceed fuel st id (.call c :: rest)).Alike L (proceed fuel st' id (.call c' :: rest')) := by
      rw [proceed, proceed]
      have hcalled := call_alike h (.ofSession id) hc
      generalize st.call (.ofSession id) c = r at hcalled ⊢
      generalize st'.call (.ofSession id) c' = r' at hcalled ⊢
      obtain ⟨u, r⟩ := r
      obtain ⟨u', r'⟩ := r'
      obtain ⟨hu, hr⟩ := hcalled
      cases hr with
      | none => exact ihrest hu
      | some hr =>
        cases fuel with
        | zero => exact hu
        | succ fuel =>
          obtain ⟨hsystem, hout⟩ := System.step_alike hu.system id (.finish hr)
          exact ih fuel fuel.lt_succ_self (hu.setSystem hsystem) (List.rel_append hout hrest)
    cases ho with
    | call hc => exact hcall hc
    | record hr =>
      rw [proceed, proceed]
      exact ihrest (h.writeLine hr id)
    | same =>
      cases o with
      | call c => exact hcall (.same c)
      | record r => rw [proceed, proceed]; exact ihrest (h.write _)
      | report r => rw [proceed, proceed]; exact ihrest (h.note _ (.same _))
      | ended outcome n => rw [proceed, proceed]; exact ihrest (h.note _ (.same _))
      | «opened» mobileId length => rw [proceed, proceed]; exact ihrest (h.write _)
      | answered b => rw [proceed, proceed]; exact ihrest h
      | interrupt =>
        rw [proceed, proceed]
        have hheld := h.heldOf? id
        generalize st.heldOf? id = w at hheld ⊢
        generalize st'.heldOf? id = w' at hheld ⊢
        cases hheld with
        | none => exact ihrest h
        | @some w w' hw =>
          obtain ⟨hu, hr⟩ := stop_alike h hw
          cases fuel with
          | zero => exact hu
          | succ fuel =>
            obtain ⟨hsystem, hout⟩ := System.step_alike hu.system id (.finish hr)
            exact ih fuel fuel.lt_succ_self (hu.setSystem hsystem) (List.rel_append hout hrest)

/-- Systems go on after something has happened to a session. -/
theorem stepped_alike (h : st.Alike L st') (id : Text) {e e' : Happening} (he : e.Alike L e') (fuel : Nat) :
    (proceed fuel { st with system := (st.system.step id e).1 } id (st.system.step id e).2).Alike L
      (proceed fuel { st' with system := (st'.system.step id e').1 } id (st'.system.step id e').2) := by
  obtain ⟨hsystem, hout⟩ := System.step_alike h.system id he
  exact proceed_alike fuel (h.setSystem hsystem) id hout

theorem deliverInterrupts_alike (h : st.Alike L st') (id : Text) (fuel : Nat) :
    (st.deliverInterrupts id fuel).Alike L (st'.deliverInterrupts id fuel) := by
  induction fuel generalizing st st' with
  | zero => exact h
  | succ fuel ih =>
    have hheld := h.heldOf? id
    unfold deliverInterrupts
    generalize st.heldOf? id = w at hheld ⊢
    generalize st'.heldOf? id = w' at hheld ⊢
    cases hheld with
    | none => exact h
    | @some w w' hw =>
      dsimp only
      rw [hw.behaviour.sigint]
      split
      · exact ih (stepped_alike h id (.same _) _)
      · exact h

theorem noteStart_alike (h : st.Alike L st') (id : Text) {e e' : Happening} (he : e.Alike L e') :
    (st.noteStart id e).Alike L (st'.noteStart id e') := by
  cases he with
  | finish => exact h
  | same =>
    cases e with
    | start =>
      rw [noteStart, noteStart, h.started]
      split
      · exact h
      · exact { h with started := rfl }
    | «open» | make | finish | cancel | interrupt => exact h

/-- **Something happens** to a session on two stages, with all that it leads to. -/
theorem happen_alike (h : st.Alike L st') (id : Text) {e e' : Happening} (he : e.Alike L e') :
    (st.happen id e).Alike L (st'.happen id e') :=
  deliverInterrupts_alike (stepped_alike (noteStart_alike h id he) id he _) id _

/-- Pending calls are continued. -/
theorem release_alike (h : st.Alike L st') (id : Text) : (st.release id).Alike L (st'.release id) := by
  have hheld := h.heldOf? id
  unfold release
  generalize st.heldOf? id = w at hheld ⊢
  generalize st'.heldOf? id = w' at hheld ⊢
  cases hheld with
  | none => exact h
  | some hw =>
    obtain ⟨hst, hr⟩ := conclude_alike (h.unhold id) (.ofSession id) hw.cue hw.behaviour.result
    exact happen_alike hst id (.finish hr)

theorem interruptAll_alike (h : st.Alike L st') : st.interruptAll.Alike L st'.interruptAll := by
  have hone {u u' : Stage} (hu : u.Alike L u') {id id' : Text} (hid : id = id') : Alike L
      (if (u.heldOf? id).isSome then u.happen id .interrupt else u)
      (if (u'.heldOf? id').isSome then u'.happen id' .interrupt else u') := by
    subst hid
    rw [isSome_alike (hu.heldOf? id)]
    split
    · exact happen_alike hu id (.same _)
    · exact hu
  unfold interruptAll
  rw [h.started]
  exact List.rel_foldl (P := Alike L) (R := Eq) (fun _ _ hu _ _ hid => hone hu hid) h (forall₂_of_eq (fun _ => rfl) _)

/-- All runs are ended. -/
theorem close_alike (h : st.Alike L st') : st.close.Alike L st'.close := by
  have hrounds (n : Nat) : Alike L (Nat.repeat interruptAll n st) (Nat.repeat interruptAll n st') := by
    induction n with
    | zero => exact h
    | succ n ih => exact interruptAll_alike ih
  exact hrounds _

end Stage

end RemoteSigning.Rehearsal
