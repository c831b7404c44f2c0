import RemoteSigning.Proofs.Session.Reachable

/-!
# One session of a system, as it is seen from outside

Of a session in a system one sees the calls that it makes and the ends of its runs. Both depend only on what happens to
this session: it may be followed alone (`Session.follow`), whatever happens to the others in the meantime.

- `callsOf`, `endsOf` are the calls and the ends;
- `System.Shows.run`: what is seen of a session in a system is what would be seen of the session alone;
- `System.exists_follow`: so each session is what it has become since it was opened.
-/

namespace RemoteSigning

variable {β : Type}

/-- The happenings at the session with a name. -/
def happeningsAt (id : Text) (l : List (Text × Happening)) : List Happening := (l.filter (·.1 = id)).map (·.2)

/-- What is seen of the session with a name. -/
def seenAt (id : Text) (f : Output → Option β) (l : List (Text × Output)) : List β :=
  ((l.filter (·.1 = id)).map (·.2)).filterMap f

def Output.outcome? : Output → Option (Except Fault State)
  | .ended outcome _ => some outcome
  | _ => none

/-- The calls of the session with a name. -/
def callsOf (id : Text) (l : List (Text × Output)) : List Call := seenAt id Output.call? l

/-- The ends of runs of the session with a name. -/
def endsOf (id : Text) (l : List (Text × Output)) : List (Except Fault State) := seenAt id Output.outcome? l

theorem happeningsAt_cons_self (id : Text) (e : Happening) (l : List (Text × Happening)) :
    happeningsAt id ((id, e) :: l) = e :: happeningsAt id l := by
  simp [happeningsAt]

theorem happeningsAt_cons_of_ne {id other : Text} (h : other ≠ id) (e : Happening) (l : List (Text × Happening)) :
    happeningsAt id ((other, e) :: l) = happeningsAt id l := by
  simp [happeningsAt, h]

theorem happeningsAt_map_self (id : Text) (es : List Happening) : happeningsAt id (es.map (id, ·)) = es := by
  simp [happeningsAt, List.filter_map, Function.comp_def]

theorem seenAt_append (id : Text) (f : Output → Option β) (l m : List (Text × Output)) :
    seenAt id f (l ++ m) = seenAt id f l ++ seenAt id f m := by
  simp [seenAt]

theorem seenAt_map_self (id : Text) (f : Output → Option β) (out : List Output) :
    seenAt id f (out.map (id, ·)) = out.filterMap f := by
  have h : ((out.map (id, ·)).filter (·.1 = id)).map (·.2) = out := by simp [List.filter_map, Function.comp_def]
  rw [seenAt, h]

theorem seenAt_map_of_ne {id other : Text} (h : other ≠ id) (f : Output → Option β) (out : List Output) :
    seenAt id f (out.map (other, ·)) = [] := by
  simp [seenAt, List.filter_map, Function.comp_def, h]

namespace Session

/-- What a list of happenings makes of a session, in order, and all that the session does. -/
def follow (s : Session) : List Happening → Session × List Action
  | [] => (s, [])
  | e :: es => (((s.step e).1.follow es).1, (s.step e).2 ++ ((s.step e).1.follow es).2)

end Session

namespace System

variable {f : Output → Option β} {g : Action → Option β}

theorem shows_ends : Shows Output.outcome? Action.outcome? where
  action c reported a := by
    cases a with
    | returned state n => exact filterMap_endOutputs (fun _ => rfl) c reported state n
    | _ => rfl
  opened _ _ := rfl
  answered _ := rfl

theorem session?_step_of_session? {s : System} {id : Text} {x : Session} (hx : s.session? id = some x)
    (e : Happening) : (s.step id e).1.session? id = some (x.step e).1 := by
  rw [session?_step_self, hx]
  rfl

/-- **A session may be followed alone**: what becomes of it and what is seen of it depend on what happens to it only. -/
theorem Shows.run (h : Shows f g) {s : System} {id : Text} {x : Session} (hx : s.session? id = some x)
    (l : List (Text × Happening)) :
    (s.run l).1.session? id = some (x.follow (happeningsAt id l)).1 ∧
      seenAt id f (s.run l).2 = (x.follow (happeningsAt id l)).2.filterMap g := by
  induction l generalizing s x with
  | nil => exact ⟨hx, rfl⟩
  | cons e l ih =>
    obtain ⟨name, e⟩ := e
    by_cases hn : name = id
    · subst hn
      obtain ⟨hsession, hseen⟩ := ih (session?_step_of_session? hx e)
      rw [happeningsAt_cons_self]
      refine ⟨hsession, ?_⟩
      simp only [System.run, seenAt_append, seenAt_map_self, h.step, hx, hseen, Session.stepAt, Session.follow,
        List.filterMap_append]
    · -- What happens to another session is not seen at this one.
      obtain ⟨hsession, hseen⟩ := ih ((session?_step_of_ne s hn e).trans hx)
      rw [happeningsAt_cons_of_ne hn]
      refine ⟨hsession, ?_⟩
      simp only [System.run, seenAt_append, seenAt_map_of_ne hn, hseen, List.nil_append]

/-- What happens to nobody is not seen, and at most it opens a session. -/
theorem stepAt_none (c : Coordinator) (id : Text) (e : Happening) :
    (Session.stepAt c id none e).2 = [] ∧
      ∀ x ∈ (Session.stepAt c id none e).1, ∃ request mode language, x = Session.fresh id request mode language := by
  cases e with
  | «open» request => exact ⟨rfl, fun x hx => ⟨_, _, _, (Option.some.inj hx).symm⟩⟩
  | make request mode language => exact ⟨rfl, fun x hx => ⟨_, _, _, (Option.some.inj hx).symm⟩⟩
  | _ => exact ⟨rfl, fun x hx => by cases hx⟩

/-- **A session is what has happened to it since it was opened**, and this is all that has been seen of it. -/
theorem exists_follow {s : System} {id : Text} {x : Session} (hs : s.session? id = none)
    {l : List (Text × Happening)} (hx : (s.run l).1.session? id = some x) :
    ∃ request mode language es, x = ((Session.fresh id request mode language).follow es).1 ∧
      ∀ {β : Type} {f : Output → Option β} {g : Action → Option β}, Shows f g →
        seenAt id f (s.run l).2 = ((Session.fresh id request mode language).follow es).2.filterMap g := by
  induction l generalizing s with
  | nil =>
    have hx : s.session? id = some x := hx
    rw [hs] at hx
    cases hx
  | cons e l ih =>
    obtain ⟨name, e⟩ := e
    by_cases hn : name = id
    · subst hn
      have hself := session?_step_self s name e
      rw [hs] at hself
      obtain ⟨hnothing, hfresh⟩ := stepAt_none s.coordinator name e
      have hunseen {β : Type} {f : Output → Option β} {g : Action → Option β} (h : Shows f g) :
          seenAt name f (s.run ((name, e) :: l)).2 = seenAt name f ((s.step name e).1.run l).2 := by
        simp only [System.run, seenAt_append, seenAt_map_self, h.step, hs, hnothing]
        rfl
      cases hy : (s.step name e).1.session? name with
      | none =>
        obtain ⟨request, mode, language, es, hfollow, hseen⟩ := ih hy hx
        exact ⟨request, mode, language, es, hfollow, fun h => (hunseen h).trans (hseen h)⟩
      | some y =>
        obtain ⟨request, mode, language, rfl⟩ := hfresh y (hself.symm.trans hy)
        refine ⟨request, mode, language, happeningsAt name l, ?_, fun h => (hunseen h).trans (h.run hy l).2⟩
        exact Option.some.inj (hx.symm.trans (shows_calls.run hy l).1)
    · -- What happens to another session is not seen at this one.
      obtain ⟨request, mode, language, es, hfollow, hseen⟩ := ih ((session?_step_of_ne s hn e).trans hs) hx
      refine ⟨request, mode, language, es, hfollow, fun h => ?_⟩
      rw [← hseen h]
      simp only [System.run, seenAt_append, seenAt_map_of_ne hn, List.nil_append]

end System

end RemoteSigning
