import RemoteSigning.Proofs.Session.Continuation
import RemoteSigning.Proofs.Session.Refusal

/-!
# What the records say of a session

A session records every change of its state, before the last one why it ends, and the first request to give it up. So
the records of a session say what states it has been in and how it ended.

- `recordsOf` are the records of a session;
- `Session.Chronicle`: what the records so far say of a session; `Session.Chronicle.step`: every step keeps it;
- `System.chronicle_of_session?`: this is what they say, whatever has happened in a system;
- `System.unasked_or_asked`: the request that is recorded is the first one that was granted.
-/

namespace RemoteSigning

/-! ## What is to be seen of records -/

def Action.record? : Action → Option SessionRecord
  | .record r => some r
  | _ => none

def Output.record? : Output → Option SessionRecord
  | .record r => some r
  | _ => none

def recordsOf (id : Text) (l : List (Text × Output)) : List SessionRecord := seenAt id Output.record? l

namespace SessionRecord

def change? : SessionRecord → Option (State × State)
  | .transition a b => some (a, b)
  | _ => none

/-- The state in which a request to cancel is recorded. -/
def request? : SessionRecord → Option State
  | .cancelRequested s => some s
  | _ => none

/-- The record belongs to the end of a session. -/
def isClosing : SessionRecord → Bool
  | .failing .. | .succeeding _ => true
  | .transition _ b => b.isTerminal
  | _ => false

theorem isClosing_of_isEnding {r : SessionRecord} (h : r.isEnding = true) : r.isClosing = true := by
  cases r <;> first | rfl | cases h

theorem isClosing_of_isNote {r : SessionRecord} (h : r.isNote = true) :
    r.isClosing = false ∧ r.change? = none ∧ r.request? = none := by
  cases r <;> first | exact ⟨rfl, rfl, rfl⟩ | cases h

theorem Announces.isClosing {r : SessionRecord} {final : State} (h : r.Announces final) :
    final.isTerminal = true ∧ r.change? = none ∧ r.request? = none := by
  cases h <;> exact ⟨rfl, rfl, rfl⟩

end SessionRecord

theorem Action.filterMap_record? (rs : List SessionRecord) (rest : List Action) :
    (rs.map Action.record ++ rest).filterMap Action.record? = rs ++ rest.filterMap Action.record? := by
  rw [List.filterMap_append, List.filterMap_map]
  exact congrArg (· ++ _) (List.filterMap_some)

namespace Session

variable {s s' : Session} {rs : List SessionRecord}

/-! ## What the records say of a session -/

/-- The changes of state are those of the history. What belongs to the end of the session stands at the end of the
records: the announcement, and the change to the last state. -/
structure Chronicle (s : Session) (rs : List SessionRecord) : Prop where
  changes : rs.filterMap SessionRecord.change? = s.history.zip s.history.tail
  unfinished : s.state.isTerminal = false → ∀ r ∈ rs, r.isClosing = false
  finished : s.state.isTerminal = true → ∃ before announcement a,
    rs = before ++ [announcement, .transition a s.state] ∧ announcement.Announces s.state ∧
      ∀ r ∈ before, r.isClosing = false

theorem Chronicle.fresh (id : Text) (request : Request) (mode : ModeChoice) (language : Text) :
    (fresh id request mode language).Chronicle [] where
  changes := rfl
  unfinished _ := List.forall_mem_nil _
  finished h := nomatch h

/-- The records say nothing but of the state and the history. -/
theorem Chronicle.congr (h : s.Chronicle rs) (hstate : s'.state = s.state) (hhistory : s'.history = s.history) :
    s'.Chronicle rs := by
  refine ⟨?_, ?_, ?_⟩
  · rw [hhistory]; exact h.changes
  · rw [hstate]; exact h.unfinished
  · rw [hstate]; exact h.finished

/-- Nothing is recorded where nothing changes. -/
theorem Chronicle.silent (h : s.Chronicle rs) {l : List Action} (hl : l.filterMap Action.record? = [])
    (hstate : s'.state = s.state) (hhistory : s'.history = s.history) :
    s'.Chronicle (rs ++ l.filterMap Action.record?) := by
  rw [hl, List.append_nil]
  exact h.congr hstate hhistory

/-- One more state is one more change. -/
theorem zip_tail_concat {α : Type} {l : List α} {a : α} (ha : l.getLast? = some a) (b : α) :
    (l ++ [b]).zip (l ++ [b]).tail = l.zip l.tail ++ [(a, b)] := by
  induction l with
  | nil => cases ha
  | cons x l ih =>
    cases l with
    | nil => cases ha; rfl
    | cons y l =>
      rw [List.getLast?_cons_cons] at ha
      simpa using ih ha

/-- What is recorded on the way is no change of state, and nothing of an end. -/
theorem Chronicle.onTheWay (h : s.Chronicle rs) (hs : s.state.isTerminal = false) {l : List SessionRecord}
    (hl : ∀ r ∈ l, r.isClosing = false ∧ r.change? = none) : s.Chronicle (rs ++ l) where
  changes := by
    rw [List.filterMap_append, h.changes, List.filterMap_eq_nil_iff.mpr fun r hr => (hl r hr).2, List.append_nil]
  unfinished _ r hr := by
    rcases List.mem_append.mp hr with hr | hr
    · exact h.unfinished hs r hr
    · exact (hl r hr).1
  finished ht := nomatch hs.symm.trans ht

/-- A session goes on to its next state. -/
theorem Chronicle.calling (h : s.Chronicle rs) (hlast : s.history.getLast? = some s.state)
    (hs : s.state.isTerminal = false) (p : Pending) (n : Nat) :
    (s.calling p n).Chronicle (rs ++ [.transition s.state p.state]) where
  changes := by
    rw [List.filterMap_append, h.changes]
    exact (zip_tail_concat hlast _).symm
  unfinished _ r hr := by
    rcases List.mem_append.mp hr with hr | hr
    · exact h.unfinished hs r hr
    · rw [List.mem_singleton.mp hr]
      exact p.isTerminal_state
  finished ht := nomatch p.isTerminal_state.symm.trans ht

/-- A session announces its end, and ends. -/
theorem Chronicle.ended (h : s.Chronicle rs) (hlast : s.history.getLast? = some s.state)
    (hs : s.state.isTerminal = false) {announcement : SessionRecord} {final : State}
    (ha : announcement.Announces final) :
    (s.ended final).Chronicle (rs ++ [announcement, .transition s.state final]) where
  changes := by
    have hchanges : [announcement, .transition s.state final].filterMap SessionRecord.change? = [(s.state, final)] := by
      rw [List.filterMap_cons_none ha.isClosing.2.1]
      rfl
    rw [List.filterMap_append, h.changes, hchanges]
    exact (zip_tail_concat hlast _).symm
  unfinished ht := nomatch ha.isClosing.1.symm.trans ht
  finished _ := ⟨rs, announcement, s.state, rfl, ha, h.unfinished hs⟩

/-- What a run does next keeps the records in order. -/
theorem Chronicle.continues {n : Nat} {x : Session × List Action} (h : s.Chronicle rs)
    (hlast : s.history.getLast? = some s.state) (hs : s.state.isTerminal = false) (hc : s.Continues n x) :
    x.1.Chronicle (rs ++ x.2.filterMap Action.record?) := by
  have honTheWay {notes : List SessionRecord} (hnotes : ∀ r ∈ notes, r.isNote = true) : s.Chronicle (rs ++ notes) :=
    h.onTheWay hs fun r hr =>
      have hr := SessionRecord.isClosing_of_isNote (hnotes r hr)
      ⟨hr.1, hr.2.1⟩
  cases hc with
  | rests => exact h.silent rfl rfl rfl
  | @goesOn notes p hnotes =>
    rw [Action.filterMap_record?, ← List.append_assoc]
    exact (honTheWay hnotes).calling hlast hs p n
  | @ends notes announcement final hnotes ha =>
    rw [Action.filterMap_record?, ← List.append_assoc]
    exact (honTheWay hnotes).ended hlast hs ha
  | stumbles => exact h.silent rfl rfl rfl

/-- What is recorded of a request to give the session up. -/
theorem records_cancel (s : Session) (own : Bool) : (s.cancel own).2.2.filterMap Action.record? =
    if s.done || s.cancelRequested then [] else [.cancelRequested s.state] := by
  unfold cancel
  split
  next hd => simp [hd]
  next hd =>
    split
    next hc => simp [hc]
    next hc =>
      rw [if_neg (by simp [hd, hc])]
      split
      · split <;> rfl
      · rfl

/-- **Every step keeps the records in order.** -/
theorem Chronicle.step (h : s.Chronicle rs) (hs : s.Ordered) (e : Happening) :
    (s.step e).1.Chronicle (rs ++ (s.step e).2.filterMap Action.record?) := by
  cases e with
  | «open» => exact h.silent rfl rfl rfl
  | make => exact h.silent rfl rfl rfl
  | start _ n =>
    show (s.start n).1.Chronicle (rs ++ (s.start n).2.filterMap Action.record?)
    cases hn : s.started with
    | true =>
      have hstart : s.start n = (s, [.raised (refusal s.id) n]) := by simp [start, hn, refusal]
      rw [hstart]
      exact h.silent rfl rfl rfl
    | false =>
      have hbegun : s.begun.Chronicle rs := h.congr rfl rfl
      refine hbegun.continues hs.last ?_ (continues_start hn n)
      rw [show s.begun.state = .idle from hs.idle hn]
      rfl
  | finish r =>
    show (s.resume r).1.Chronicle (rs ++ (s.resume r).2.filterMap Action.record?)
    cases ht : s.run with
    | none =>
      rw [resume_of_idle ht]
      exact h.silent rfl rfl rfl
    | some t =>
      refine h.continues hs.last ?_ (continues_resume ht r)
      rw [(hs.waiting t.pending (by simp [pending?, ht])).2]
      exact t.pending.isTerminal_state
  | cancel own =>
    show (s.cancel own).1.Chronicle (rs ++ (s.cancel own).2.2.filterMap Action.record?)
    have hk := s.keeps_cancel own
    rw [records_cancel]
    cases hd : s.state.isTerminal with
    | true => simpa [done, hd] using h.congr hk.state hk.history
    | false =>
      refine (h.onTheWay hd fun r hr => ?_).congr hk.state hk.history
      split at hr
      · cases hr
      · rw [List.mem_singleton.mp hr]
        exact ⟨rfl, rfl⟩
  | interrupt =>
    show s.interrupt.1.Chronicle (rs ++ s.interrupt.2.filterMap Action.record?)
    unfold interrupt
    split <;> exact h.silent rfl rfl rfl

/-- The records stay in order, whatever happens. -/
theorem Chronicle.follow (h : s.Chronicle rs) (hs : s.Ordered) (es : List Happening) :
    (s.follow es).1.Chronicle (rs ++ (s.follow es).2.filterMap Action.record?) := by
  induction es generalizing s rs with
  | nil => exact h.silent rfl rfl rfl
  | cons e es ih =>
    rw [Session.follow, List.filterMap_append, ← List.append_assoc]
    exact ih (h.step hs e) (ordered_of_moves hs (s.moves_step e))

/-- Where a change to a last state is recorded, its announcement has been recorded just before, and nothing else of an
end anywhere. -/
theorem Chronicle.announced (h : s.Chronicle rs) {before after : List SessionRecord} {a b : State}
    (hsplit : rs = before ++ .transition a b :: after) (hb : b.isTerminal = true) :
    ∃ earlier announcement, before = earlier ++ [announcement] ∧ announcement.Announces b ∧
      ∀ r ∈ earlier ++ after, r.isClosing = false := by
  have hmem : .transition a b ∈ rs := hsplit ▸ List.mem_append_right _ List.mem_cons_self
  cases hs : s.state.isTerminal with
  | false => exact nomatch (h.unfinished hs _ hmem).symm.trans hb
  | true =>
    obtain ⟨earlier, announcement, a', hrs, ha, hearlier⟩ := h.finished hs
    have heq : (earlier ++ [announcement]) ++ [.transition a' s.state] = before ++ .transition a b :: after := by
      rw [← hsplit, hrs, List.append_assoc]
      rfl
    induction after using List.reverseRecOn with
    | nil =>
      obtain ⟨rfl, hlast⟩ := List.append_inj' heq rfl
      obtain ⟨-, rfl⟩ := SessionRecord.transition.inj (List.cons.inj hlast).1
      exact ⟨earlier, announcement, rfl, ha, by simpa using hearlier⟩
    | append_singleton after last _ =>
      -- The change would stand before the announcement, or be the announcement.
      rw [← List.cons_append, ← List.append_assoc] at heq
      obtain ⟨heq, -⟩ := List.append_inj' heq rfl
      have hbefore : .transition a b ∈ earlier ++ [announcement] := heq ▸ List.mem_append_right _ List.mem_cons_self
      rcases List.mem_append.mp hbefore with hm | hm
      · exact nomatch (hearlier _ hm).symm.trans hb
      · rw [← List.mem_singleton.mp hm] at ha
        cases ha

end Session

/-! ## The request that is recorded -/

namespace Session

variable {s : Session} {e : Happening}

theorem Continues.requests {n : Nat} {x : Session × List Action} (h : s.Continues n x) :
    (x.2.filterMap Action.record?).filterMap SessionRecord.request? = [] := by
  have hnone {notes : List SessionRecord} (hnotes : ∀ r ∈ notes, r.isNote = true) :
      notes.filterMap SessionRecord.request? = [] :=
    List.filterMap_eq_nil_iff.mpr fun r hr => (SessionRecord.isClosing_of_isNote (hnotes r hr)).2.2
  cases h with
  | rests => rfl
  | goesOn notes hnotes =>
    rw [Action.filterMap_record?, List.filterMap_append, hnone hnotes]
    rfl
  | ends notes hnotes ha =>
    rw [Action.filterMap_record?, List.filterMap_append, hnone hnotes]
    exact List.filterMap_cons_none ha.isClosing.2.2
  | stumbles => rfl

/-- Nothing but a request is recorded as one. -/
theorem requests_step_of_ne (h : ∀ own, e ≠ .cancel own) :
    ((s.step e).2.filterMap Action.record?).filterMap SessionRecord.request? = [] := by
  cases e with
  | «open» => rfl
  | make => rfl
  | start _ n =>
    cases hs : s.started with
    | true => simp [step, start, hs, Action.record?]
    | false => exact (continues_start hs n).requests
  | finish r =>
    cases ht : s.run with
    | none => simp [step, resume_of_idle ht]
    | some t => exact (continues_resume ht r).requests
  | cancel own => exact absurd rfl (h own)
  | interrupt =>
    unfold step interrupt
    dsimp only
    split <;> rfl

/-- In a step a request is recorded if it is granted and is the first one; otherwise none is. -/
theorem requests_step (s : Session) (e : Happening) :
    let requests := ((s.step e).2.filterMap Action.record?).filterMap SessionRecord.request?
    (requests = [] ∧ (s.step e).1.cancelRequested = s.cancelRequested ∧
      ∀ own, e = .cancel own → s.done = false → s.cancelRequested = true) ∨
    ∃ own, e = .cancel own ∧ s.done = false ∧ s.cancelRequested = false ∧ requests = [s.state] ∧
      (s.step e).1.cancelRequested = true := by
  cases e with
  | cancel own =>
    have hrecords := s.records_cancel own
    cases hc : s.cancelRequested with
    | true =>
      refine .inl ⟨?_, cancelRequested_step hc _, fun _ _ _ => rfl⟩
      rw [step, hrecords, hc, Bool.or_true, if_pos rfl]
      rfl
    | false =>
      cases hd : s.done with
      | true =>
        have hsame : s.cancel own = (s, false, []) := by simp [cancel, hd]
        exact .inl ⟨by simp [step, hsame], by simp [step, hsame, hc], by simp⟩
      | false =>
        refine .inr ⟨own, rfl, rfl, rfl, ?_, cancelRequested_cancel hd own⟩
        rw [step, hrecords, hc, hd, if_neg (by simp)]
        rfl
  | _ =>
    exact .inl ⟨requests_step_of_ne (by simp), s.cancelRequested_step_of_ne (by simp), by simp⟩

end Session

namespace System

variable {c : Coordinator} {id : Text} {x : Session} {l : List (Text × Happening)}

theorem shows_records : Shows Output.record? Action.record? where
  action c reported a := by
    cases a with
    | returned state n => exact filterMap_endOutputs (fun _ => rfl) c reported state n
    | _ => rfl
  opened _ _ := rfl
  answered _ := rfl

/-- The records of a session say what has become of it. -/
theorem chronicle_of_session? (hx : ((init c).run l).1.session? id = some x) :
    x.Chronicle (recordsOf id ((init c).run l).2) := by
  obtain ⟨request, mode, language, es, rfl, hseen⟩ := exists_follow (s := init c) rfl hx
  rw [recordsOf, hseen shows_records]
  exact (Session.Chronicle.fresh id request mode language).follow (.fresh ..) es

/-- The first request to give a session up that was granted was made in a state. -/
def FirstGranted (c : Coordinator) (l : List (Text × Happening)) (id : Text) (state : State) : Prop :=
  ∃ before own after y, l = before ++ (id, .cancel own) :: after ∧
    ((init c).run before).1.session? id = some y ∧ y.state = state ∧
    .answered true ∈ (((init c).run before).1.step id (.cancel own)).2 ∧
    (id, .answered true) ∉ ((init c).run before).2

theorem FirstGranted.append {state : State} (h : FirstGranted c l id state) (l' : List (Text × Happening)) :
    FirstGranted c (l ++ l') id state := by
  obtain ⟨before, own, after, y, rfl, hy⟩ := h
  exact ⟨before, own, after ++ l', y, by simp, hy⟩

/-- A request is granted if there is a session to give up. -/
theorem granted_iff {s : System} {e : Happening} : .answered true ∈ (s.step id e).2 ↔
    ∃ own y, e = .cancel own ∧ s.session? id = some y ∧ y.done = false := by
  have hactions (reported : Bool) (l : List Action) : .answered true ∉ l.flatMap (outputs s.coordinator reported) := by
    intro hm
    obtain ⟨a, -, ha⟩ := List.mem_flatMap.mp hm
    cases a with
    | returned state n =>
      have hends : .answered true ∈ endOutputs s.coordinator reported state n := ha
      unfold endOutputs at hends
      split at hends <;> simp at hends
    | _ => simp [outputs] at ha
  unfold step session?
  cases hm : s.member? id with
  | none => cases e <;> simp
  | some m => cases e <;> simp [hactions, Session.answer_cancel]

/-- The states in which requests to give up the session with a name are recorded. -/
def requestsOf (id : Text) (l : List (Text × Output)) : List State :=
  (recordsOf id l).filterMap SessionRecord.request?

theorem snd_run_concat (s : System) (l : List (Text × Happening)) (name : Text) (e : Happening) :
    (s.run (l ++ [(name, e)])).2 = (s.run l).2 ++ ((s.run l).1.step name e).2.map (name, ·) := by
  rw [run_append]
  simp [run]

/-- What happens to a session last is recorded last. -/
theorem requestsOf_concat_self (s : System) (l : List (Text × Happening)) (id : Text) (e : Happening) :
    requestsOf id (s.run (l ++ [(id, e)])).2 = requestsOf id (s.run l).2 ++
      ((Session.stepAt (s.run l).1.coordinator id ((s.run l).1.session? id) e).2.filterMap Action.record?).filterMap
        SessionRecord.request? := by
  rw [snd_run_concat, requestsOf, recordsOf, seenAt_append, seenAt_map_self, shows_records.step, List.filterMap_append]
  rfl

theorem requestsOf_concat_of_ne (s : System) (l : List (Text × Happening)) {name : Text} (hn : name ≠ id)
    (e : Happening) : requestsOf id (s.run (l ++ [(name, e)])).2 = requestsOf id (s.run l).2 := by
  rw [snd_run_concat, requestsOf, recordsOf, seenAt_append, seenAt_map_of_ne hn, List.append_nil]
  rfl

/-- A request has been granted if one had been granted before, or if one is granted now. -/
theorem granted_concat_iff {s : System} {name : Text} {e : Happening} :
    (id, .answered true) ∈ (s.run (l ++ [(name, e)])).2 ↔ (id, .answered true) ∈ (s.run l).2 ∨
      name = id ∧ ∃ own y, e = .cancel own ∧ (s.run l).1.session? id = some y ∧ y.done = false := by
  rw [snd_run_concat, List.mem_append]
  refine or_congr_right ?_
  by_cases hn : name = id
  · subst hn
    rw [← granted_iff]
    simp
  · simp [hn]

/-- No request to give the session up has been granted, and none is recorded. -/
structure Unasked (c : Coordinator) (l : List (Text × Happening)) (id : Text) : Prop where
  requests : requestsOf id ((init c).run l).2 = []
  granted : (id, .answered true) ∉ ((init c).run l).2
  session : ∀ x ∈ ((init c).run l).1.session? id, x.cancelRequested = false

/-- The first request to give the session up that was granted is the one that is recorded. -/
structure Asked (c : Coordinator) (l : List (Text × Happening)) (id : Text) (state : State) : Prop where
  requests : requestsOf id ((init c).run l).2 = [state]
  first : FirstGranted c l id state
  session : ∃ x, ((init c).run l).1.session? id = some x ∧ x.cancelRequested = true

/-- What happens to a session that has not been given up. -/
theorem Unasked.concat (h : Unasked c l id) (e : Happening) :
    Unasked c (l ++ [(id, e)]) id ∨ ∃ state, Asked c (l ++ [(id, e)]) id state := by
  have hrequests := requestsOf_concat_self (init c) l id e
  have hsession := session?_step_self ((init c).run l).1 id e
  rw [← run_concat] at hsession
  rw [h.requests, List.nil_append] at hrequests
  cases hy : ((init c).run l).1.session? id with
  | none =>
    obtain ⟨hnothing, hfresh⟩ := stepAt_none ((init c).run l).1.coordinator id e
    rw [hy] at hrequests hsession
    refine .inl ⟨by rw [hrequests, hnothing]; rfl, ?_, fun x hx => ?_⟩
    · rw [granted_concat_iff, hy]
      simpa using h.granted
    · obtain ⟨_, _, _, rfl⟩ := hfresh x (hsession ▸ hx)
      rfl
  | some y =>
    have hc := h.session y hy
    rw [hy] at hrequests hsession
    obtain ⟨hquiet, hsame, hgrant⟩ | ⟨own, rfl, hdone, -, hrequest, hnext⟩ := y.requests_step e
    · refine .inl ⟨hrequests.trans hquiet, ?_, fun x hx => ?_⟩
      · rw [granted_concat_iff]
        rintro (hm | ⟨-, own, z, he, hz, hdone⟩)
        · exact h.granted hm
        · obtain rfl := Option.some.inj (hy.symm.trans hz)
          exact absurd (hc.symm.trans (hgrant own he hdone)) (by decide)
      · obtain rfl := Option.some.inj (hsession.symm.trans hx)
        exact hsame.trans hc
    · refine .inr ⟨y.state, hrequests.trans hrequest, ?_, _, hsession, hnext⟩
      exact ⟨l, own, [], y, rfl, hy, rfl, granted_iff.mpr ⟨own, y, rfl, hy, hdone⟩, h.granted⟩

/-- A session that has been given up is given up once. -/
theorem Asked.concat {state : State} (h : Asked c l id state) (e : Happening) :
    Asked c (l ++ [(id, e)]) id state := by
  obtain ⟨y, hy, hc⟩ := h.session
  have hnext := session?_step_of_session? hy e
  rw [← run_concat] at hnext
  obtain ⟨hquiet, -, -⟩ | ⟨_, -, -, hn, -, -⟩ := y.requests_step e
  · refine ⟨?_, h.first.append _, _, hnext, Session.cancelRequested_step hc e⟩
    rw [requestsOf_concat_self, h.requests, hy]
    exact congrArg (state :: ·) hquiet
  · exact absurd (hc.symm.trans hn) (by decide)

/-- **The request that is recorded is the first one that was granted**, if there is one. -/
theorem unasked_or_asked (c : Coordinator) (l : List (Text × Happening)) (id : Text) :
    Unasked c l id ∨ ∃ state, Asked c l id state := by
  -- The induction adds what happens last, to this session or to another one.
  induction l using List.reverseRecOn with
  | nil => exact .inl ⟨rfl, List.not_mem_nil, fun x hx => nomatch hx⟩
  | append_singleton l e ih =>
    obtain ⟨name, e⟩ := e
    by_cases hn : name = id
    · subst hn
      obtain h | ⟨state, h⟩ := ih
      · exact h.concat e
      · exact .inr ⟨state, h.concat e⟩
    · have hsession : ((init c).run (l ++ [(name, e)])).1.session? id = ((init c).run l).1.session? id := by
        rw [run_concat, session?_step_of_ne _ hn]
      obtain ⟨hnone, hnot, hall⟩ | ⟨state, hstate, hfirst, hx⟩ := ih
      · exact .inl ⟨(requestsOf_concat_of_ne _ _ hn e).trans hnone, by simpa [granted_concat_iff, hn] using hnot,
          hsession ▸ hall⟩
      · exact .inr ⟨state, (requestsOf_concat_of_ne _ _ hn e).trans hstate, hfirst.append _, hsession ▸ hx⟩

end System

end RemoteSigning
