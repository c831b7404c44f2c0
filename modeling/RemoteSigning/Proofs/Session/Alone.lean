import RemoteSigning.Proofs.Session.Life
import RemoteSigning.Proofs.Session.Reachable

/-!
# A session among others

A session on the network is what it would be alone: an incident at it does to it what it does to a single session
(`Session.meet`), and incidents at the others do nothing to it.

- `Session.lives_meetAll`: the invariant of a single session, through any list of incidents;
- `Network.run_alone`: the session in a network and its turns are those of the single session;
- `Network.lives_run`: every session of a network has the invariant.
-/

namespace RemoteSigning

variable {address : Text}

namespace Session

/-! ## A session alone -/

/-- What an incident makes of the session with a name, if there is one, and the turns of the session. -/
def meet (address : Text) (c : Coordinator) (id : Text) (o : Option Session) (i : Incident) :
    Option Session × List Turn :=
  match i.reading? address (o.bind waitsFor?) with
  | none => (o, [])
  | some (heard, h) =>
    let (o', actions) := stepAt c id o h
    (o', heard ++ (actions.filterMap Action.call?).flatMap (Call.opening address))

/-- What a list of incidents makes of the session with a name, in order, and all its turns. -/
def meetAll (address : Text) (c : Coordinator) (id : Text) (o : Option Session) :
    List Incident → Option Session × List Turn
  | [] => (o, [])
  | i :: is =>
    let (o', turns) := meet address c id o i
    let (o'', turns') := meetAll address c id o' is
    (o'', turns ++ turns')

/-- While no call is pending nothing comes in. -/
theorem heard_of_reading?_none {i : Incident} {heard : List Turn} {h : Happening}
    (hi : i.reading? address none = some (heard, h)) : heard = [] ∧ ∀ r, h ≠ .finish r := by
  cases i with
  | http => cases hi
  | plain e =>
    cases e with
    | finish => cases hi
    | _ =>
      obtain ⟨rfl, rfl⟩ := Prod.mk.inj (Option.some.inj hi)
      exact ⟨rfl, nofun⟩

/-- While a call is pending, either nothing comes in or the call ends. -/
theorem heard_of_reading?_some {c : Call} {i : Incident} {heard : List Turn} {h : Happening}
    (hi : i.reading? address (some c) = some (heard, h)) :
    (heard = [] ∧ ∀ r, h ≠ .finish r) ∨ ∃ r, h = .finish r ∧ c.Hears address r heard := by
  cases i with
  | http outcome =>
    cases hq : c.request? with
    | none => simp [Incident.reading?, hq] at hi
    | some o =>
      obtain rfl := Call.eq_submit_of_request? hq
      obtain ⟨rfl, rfl⟩ := Prod.mk.inj (Option.some.inj hi)
      exact .inr ⟨_, rfl, .service rfl⟩
  | plain e =>
    cases e with
    | finish r =>
      simp only [Incident.reading?] at hi
      split at hi
      next ha =>
        obtain ⟨rfl, rfl⟩ := Prod.mk.inj (Option.some.inj hi)
        rw [Bool.and_eq_true, Option.isNone_iff_eq_none] at ha
        exact .inr ⟨r, rfl, .token ha.1 ha.2⟩
      · cases hi
    | _ =>
      obtain ⟨rfl, rfl⟩ := Prod.mk.inj (Option.some.inj hi)
      exact .inl ⟨rfl, nofun⟩

theorem hears?_eq_none {s : Session} {h : Happening} (hf : ∀ r, h ≠ .finish r) : s.hears? h = none := by
  cases h with
  | finish r => exact absurd rfl (hf r)
  | _ => rfl

/-- What an incident is to a session: something that happens to it while nothing comes in, or the end of its pending
call. -/
theorem overhears_of_reading? {s : Session} {i : Incident} {heard : List Turn} {h : Happening}
    (hi : i.reading? address s.waitsFor? = some (heard, h)) : s.Overhears address (s.hears? h) heard := by
  cases hr : s.run with
  | none =>
    rw [waitsFor?, hr] at hi
    obtain ⟨rfl, hf⟩ := heard_of_reading?_none hi
    rw [hears?_eq_none hf]
    exact .nothing
  | some t =>
    have hp : s.pending? = some t.pending := by rw [pending?, hr]; rfl
    rw [waitsFor?, hr] at hi
    rcases heard_of_reading?_some hi with ⟨rfl, hf⟩ | ⟨r, rfl, hh⟩
    · rw [hears?_eq_none hf]
      exact .nothing
    · rw [hears?_finish hr, if_pos hh.accepts]
      exact .answer hp hh

/-- The invariant of the session with a name, if there is one. -/
def Lives (address : Text) : Option Session → List Turn → Prop
  | none, d => d = []
  | some s, d => s.Life address d

theorem lives_meet {c : Coordinator} {id : Text} {o : Option Session} {d : List Turn} (h : Lives address o d)
    (i : Incident) :
    Lives address (meet address c id o i).1 (d ++ (meet address c id o i).2) := by
  unfold meet
  split
  · simpa using h
  next heard e hi =>
    cases o with
    | none =>
      obtain rfl : d = [] := h
      obtain ⟨rfl, -⟩ := heard_of_reading?_none hi
      cases e with
      | «open» => exact Life.fresh ..
      | make => exact Life.fresh ..
      | _ => rfl
    | some s =>
      rw [← List.append_assoc]
      exact life_of_moves h (overhears_of_reading? hi) (s.moves_step e)

theorem lives_meetAll {c : Coordinator} {id : Text} {o : Option Session} {d : List Turn} (h : Lives address o d)
    (is : List Incident) : Lives address (meetAll address c id o is).1 (d ++ (meetAll address c id o is).2) := by
  induction is generalizing o d with
  | nil => simpa [meetAll] using h
  | cons i is ih =>
    simp only [meetAll]
    rw [← List.append_assoc]
    exact ih (lives_meet h i)

end Session

namespace Network

theorem address_step (n : Network) (id : Text) (i : Incident) : (n.step id i).1.address = n.address := by
  unfold step
  split <;> rfl

theorem coordinator_step (n : Network) (id : Text) (i : Incident) :
    (n.step id i).1.system.coordinator = n.system.coordinator := by
  unfold step
  split
  · rfl
  · exact System.coordinator_step ..

/-- An incident at one session leaves the others as they are. -/
theorem session?_step_of_ne (n : Network) {id other : Text} (h : id ≠ other) (i : Incident) :
    (n.step id i).1.session? other = n.session? other := by
  unfold step
  split
  · rfl
  · exact System.session?_step_of_ne n.system h _

/-- An incident at a session does what it would do if the session were alone. -/
theorem step_self (n : Network) (id : Text) (i : Incident) :
    ((n.step id i).1.session? id, (n.step id i).2) =
      Session.meet n.address n.system.coordinator id (n.session? id) i := by
  unfold step Session.meet
  cases i.reading? n.address ((n.session? id).bind Session.waitsFor?) with
  | none => rfl
  | some r =>
    obtain ⟨heard, h⟩ := r
    refine Prod.ext (n.system.session?_step_self id h) ?_
    exact congrArg (fun calls => heard ++ calls.flatMap (Call.opening n.address)) (System.shows_calls.step n.system id h)

/-- The incidents at the session with a name. -/
def incidentsAt (id : Text) (l : List (Text × Incident)) : List Incident := (l.filter (·.1 = id)).map (·.2)

theorem incidentsAt_filter (id : Text) (l : List (Text × Incident)) :
    incidentsAt id (l.filter (·.1 = id)) = incidentsAt id l := by
  simp [incidentsAt]

/-- **To a session it is as if it were alone**: what becomes of it and its turns depend on the incidents at it only. -/
theorem run_alone (n : Network) (id : Text) (l : List (Text × Incident)) :
    ((n.run l).1.session? id, turnsOf id (n.run l).2) =
      Session.meetAll n.address n.system.coordinator id (n.session? id) (incidentsAt id l) := by
  induction l generalizing n with
  | nil => rfl
  | cons e l ih =>
    -- An incident at another session changes neither side, so it may be left out.
    obtain ⟨name, i⟩ := e
    have ih := ih (n.step name i).1
    rw [address_step, coordinator_step] at ih
    by_cases h : name = id
    · subst h
      have hi : incidentsAt name ((name, i) :: l) = i :: incidentsAt name l := by simp [incidentsAt]
      rw [hi, Session.meetAll, ← step_self]
      dsimp only
      rw [← ih]
      simp only [run, turnsOf_append, turnsOf_map_self]
    · have hi : incidentsAt id ((name, i) :: l) = incidentsAt id l := by simp [incidentsAt, h]
      rw [hi, ← n.session?_step_of_ne h i, ← ih]
      simp only [run, turnsOf_append, turnsOf_map_of_ne h, List.nil_append]

/-- **Every session of a network has the invariant**, whatever has happened to it and to the others. -/
theorem lives_run (address : Text) (c : Coordinator) (l : List (Text × Incident)) (id : Text) :
    Session.Lives address (((init address c).run l).1.session? id) (turnsOf id ((init address c).run l).2) := by
  have hn : Session.Lives address ((init address c).session? id) [] := rfl
  have hl : Session.Lives address (Session.meetAll address c id ((init address c).session? id) _).1 _ :=
    Session.lives_meetAll hn (incidentsAt id l)
  have ha : _ = Session.meetAll address c id _ _ := (init address c).run_alone id l
  rwa [← ha] at hl

theorem life_of_session? {c : Coordinator} {l : List (Text × Incident)} {id : Text} {s : Session}
    (h : ((init address c).run l).1.session? id = some s) :
    s.Life address (turnsOf id ((init address c).run l).2) := by
  have hl := lives_run address c l id
  rwa [h] at hl

/-- Where there are turns there is a session. -/
theorem exists_life {c : Coordinator} {l : List (Text × Incident)} {id : Text} {t : Turn}
    (h : t ∈ turnsOf id ((init address c).run l).2) :
    ∃ s, ((init address c).run l).1.session? id = some s ∧
      s.Life address (turnsOf id ((init address c).run l).2) := by
  have hl := lives_run address c l id
  cases hs : ((init address c).run l).1.session? id with
  | none =>
    rw [hs] at hl
    rw [show _ = [] from hl] at h
    cases h
  | some s =>
    rw [hs] at hl
    exact ⟨s, rfl, hl⟩

end Network

end RemoteSigning
