import RemoteSigning.Proofs.Token.Handles

/-!
# Selections share their backends

An adapter holds what its selections make, and callers select at the same time: between the moment when a backend is
asked whether it can be used and its answer, others select and register as they like; calls that are under way at the
same time have callers of different names. What a caller gets is decided when its check starts, and what is held
changes by a registration, or by a selection that finds nothing.

- `Configured.Resolves` says which mode a choice stands for, `Configured.meant_eq_some_iff`: it is the one looked for;
- `Adapter.Checks` is the backend that a selection has checked, looked up or made; `Adapter.checks_or_nothing`: a
  selection has it checked, or leaves the adapter as it is;
- `Adapter.holding?_step` tells all that changes what is held, `Adapter.holding?_run`: a backend stays until another
  one is registered;
- `Adapter.checkedLast_iff`: the check that a caller waits for goes back to its selection;
- `Adapter.cache_consistent`: who gets which backend, and what is held then.
-/

namespace RemoteSigning

/-! ## The mode that is meant -/

/-- A choice names a mode: it is the mode, or its word in any case. -/
inductive ModeChoice.Names : ModeChoice → BackendMode → Prop
  | mode (m : BackendMode) : Names (.mode m) m
  | text {t : Text} {m : BackendMode} : t.lower = Text.ofString m.word → Names (.text t) m

/-- No two modes have one word. -/
theorem BackendMode.ofText?_eq_some_iff {t : Text} {m : BackendMode} :
    ofText? t = some m ↔ t.lower = Text.ofString m.word := by
  unfold ofText?
  constructor
  · intro h
    have hword := List.find?_some h
    exact (of_decide_eq_true hword).symm
  · intro h
    rw [h]
    cases m <;> decide

theorem ModeChoice.mode?_eq_some_iff {choice : ModeChoice} {m : BackendMode} :
    choice.mode? = some m ↔ choice.Names m := by
  constructor
  · intro h
    cases choice with
    | mode n =>
      obtain rfl : n = m := Option.some.inj h
      exact .mode n
    | text t => exact .text (BackendMode.ofText?_eq_some_iff.mp h)
  · rintro (_ | h)
    · rfl
    · exact BackendMode.ofText?_eq_some_iff.mpr h

/-- The mode of the backend that a choice stands for. A choice that leaves it open stands for the card module if there
is one, and else for the key file; without either, and with a word that names no mode, it stands for nothing. -/
inductive Configured.Resolves (c : Configured) (choice : ModeChoice) : BackendMode → Prop
  | named {m : BackendMode} : choice.Names m → m ≠ .auto → Resolves c choice m
  | card : choice.Names .auto → c.pkcs11 = true → Resolves c choice .pkcs11
  | keyFile : choice.Names .auto → c.pkcs11 = false → c.software = true → Resolves c choice .software

/-- The mode that is looked for is the one that the choice stands for. -/
theorem Configured.meant_eq_some_iff {c : Configured} {choice : ModeChoice} {m : BackendMode} :
    c.meant choice = some m ↔ c.Resolves choice m := by
  unfold meant
  rw [Option.bind_eq_some_iff]
  constructor
  · rintro ⟨wanted, hw, hr⟩
    have hn := ModeChoice.mode?_eq_some_iff.mp hw
    cases wanted with
    | auto =>
      rw [resolve_auto] at hr
      split at hr
      next hp =>
        obtain rfl := Option.some.inj hr
        exact .card hn hp
      next hp =>
        split at hr
        next hs =>
          obtain rfl := Option.some.inj hr
          exact .keyFile hn (Bool.eq_false_iff.mpr hp) hs
        next => cases hr
    | pkcs11 =>
      obtain rfl := Option.some.inj hr
      exact .named hn (by decide)
    | software =>
      obtain rfl := Option.some.inj hr
      exact .named hn (by decide)
  · rintro (⟨hn, hm⟩ | ⟨hn, hp⟩ | ⟨hn, hp, hs⟩)
    · refine ⟨m, ModeChoice.mode?_eq_some_iff.mpr hn, ?_⟩
      cases m with
      | auto => exact absurd rfl hm
      | pkcs11 => rfl
      | software => rfl
    · exact ⟨_, ModeChoice.mode?_eq_some_iff.mpr hn, by simp [resolve_auto, hp]⟩
    · exact ⟨_, ModeChoice.mode?_eq_some_iff.mpr hn, by simp [resolve_auto, hp, hs]⟩

/-- A choice stands for one mode at most. -/
theorem Configured.Resolves.unique {c : Configured} {choice : ModeChoice} {m n : BackendMode}
    (h : c.Resolves choice m) (h' : c.Resolves choice n) : m = n :=
  Option.some.inj ((meant_eq_some_iff.mpr h).symm.trans (meant_eq_some_iff.mpr h'))

theorem Configured.makes_eq_some_iff {c : Configured} {make : BackendMode → Except Fault Handle} {m : BackendMode}
    {h : Handle} : c.makes make m = some h ↔ c.has m = true ∧ make m = .ok h := by
  unfold makes
  cases hm : make m <;> simp [Except.toOption]

namespace Adapter

variable {shown : Handle → Text} {a : Adapter} {who : Caller} {c : Configured} {choice : ModeChoice}
  {make : BackendMode → Except Fault Handle} {m n : BackendMode} {h k : Handle}

/-! ## The backend that is checked -/

/-- The backend that a selection has checked: the one that is held for the mode, or, if none is held, the one that is
made for it. -/
inductive Checks (a : Adapter) (choice : ModeChoice) (make : BackendMode → Except Fault Handle) (m : BackendMode)
    (h : Handle) : Prop
  | held : a.configured.Resolves choice m → a.holding? m = some h → Checks a choice make m h
  | made : a.configured.Resolves choice m → a.holding? m = none → a.configured.has m = true → make m = .ok h →
      Checks a choice make m h

theorem Checks.resolves (hc : a.Checks choice make m h) : a.configured.Resolves choice m := by
  cases hc <;> assumption

/-- It is one backend, for one mode. -/
theorem Checks.unique (hc : a.Checks choice make m h) (hk : a.Checks choice make n k) : m = n ∧ h = k := by
  obtain rfl := hc.resolves.unique hk.resolves
  refine ⟨rfl, ?_⟩
  rcases hc with ⟨-, hh⟩ | ⟨-, hh, -, hh'⟩ <;> rcases hk with ⟨-, hk⟩ | ⟨-, hk, -, hk'⟩
  · exact Option.some.inj (hh.symm.trans hk)
  · exact nomatch hh.symm.trans hk
  · exact nomatch hh.symm.trans hk
  · exact Except.ok.inj (hh'.symm.trans hk')

/-- A selection has a backend checked, which is held from then on if it was not before, or there is none to be checked
and the adapter stays as it is. -/
theorem checks_or_nothing (a : Adapter) (who : Caller) (choice : ModeChoice)
    (make : BackendMode → Except Fault Handle) :
    (∃ m h, a.Checks choice make m h ∧ (a.select who choice make).2 = [.check h] ∧
      (a.select who choice make).1.waitingOf? who = some (.check m h) ∧
      (a.select who choice make).1.holding? m = some h) ∨
    (∀ m h, ¬ a.Checks choice make m h) ∧ ∃ records, a.select who choice make = a.nothing records := by
  have hs := selects_select a who choice make
  generalize a.select who choice make = r at hs ⊢
  cases hs with
  | nothing records hn =>
    refine .inr ⟨?_, records, rfl⟩
    rintro m h (⟨hr, hh⟩ | ⟨hr, -, hhas, hmake⟩)
    · exact nomatch hh.symm.trans (hn m (Configured.meant_eq_some_iff.mpr hr)).1
    · have hmakes := Configured.makes_eq_some_iff.mpr ⟨hhas, hmake⟩
      exact nomatch hmakes.symm.trans (hn m (Configured.meant_eq_some_iff.mpr hr)).2
  | @held m h hm hh =>
    refine .inl ⟨m, h, .held (Configured.meant_eq_some_iff.mp hm) hh, rfl, ?_, hh⟩
    exact (waitingOf?_await a who who _).trans (if_pos rfl)
  | @made m h hm hn hh =>
    obtain ⟨hhas, hmake⟩ := Configured.makes_eq_some_iff.mp hh
    refine .inl ⟨m, h, .made (Configured.meant_eq_some_iff.mp hm) hn hhas hmake, rfl, ?_, ?_⟩
    · exact (waitingOf?_await (a.hold m h) who who _).trans (if_pos rfl)
    · exact (holding?_hold a m m h).trans (if_pos rfl)

variable (who) in
/-- What a selection does that has a backend checked. -/
theorem Checks.select (hc : a.Checks choice make m h) :
    (a.select who choice make).2 = [.check h] ∧ (a.select who choice make).1.waitingOf? who = some (.check m h) ∧
      (a.select who choice make).1.holding? m = some h := by
  rcases checks_or_nothing a who choice make with ⟨n, k, hk, hout⟩ | ⟨hnone, -⟩
  · obtain ⟨rfl, rfl⟩ := hc.unique hk
    exact hout
  · exact absurd hc (hnone m h)

/-- There is nothing to be checked if the choice stands for no mode, and if none is held for it and none can be made:
nothing is configured for it, or making it fails. -/
theorem forall_not_checks_iff : (∀ m h, ¬ a.Checks choice make m h) ↔
    ∀ m, a.configured.Resolves choice m →
      a.holding? m = none ∧ (a.configured.has m = false ∨ ∃ f, make m = .error f) := by
  constructor
  · intro hnone m hr
    have hheld : a.holding? m = none := Option.eq_none_iff_forall_ne_some.mpr fun h hh => hnone m h (.held hr hh)
    refine ⟨hheld, ?_⟩
    cases hhas : a.configured.has m with
    | false => exact .inl rfl
    | true =>
      cases hmake : make m with
      | error f => exact .inr ⟨f, rfl⟩
      | ok h => exact absurd (.made hr hheld hhas hmake) (hnone m h)
  · rintro hnone m h (⟨hr, hh⟩ | ⟨hr, -, hhas, hmake⟩)
    · exact nomatch hh.symm.trans (hnone m hr).1
    · rcases (hnone m hr).2 with hno | ⟨f, hf⟩
      · exact nomatch hno.symm.trans hhas
      · exact nomatch hf.symm.trans hmake

/-- A selection that has nothing checked gets no backend at once, and the adapter stays as it is. -/
theorem none_mem_select_iff : .ended (.ok (.backend none)) ∈ (a.select who choice make).2 ↔
    ∀ m h, ¬ a.Checks choice make m h := by
  rcases checks_or_nothing a who choice make with ⟨m, h, hc, hout, -⟩ | ⟨hnone, records, hsel⟩
  · rw [hout]
    simp only [List.mem_singleton, reduceCtorEq, false_iff, not_forall, not_not]
    exact ⟨m, h, hc⟩
  · rw [hsel]
    simp [nothing, hnone]

theorem select_eq_self (hnone : ∀ m h, ¬ a.Checks choice make m h) : (a.select who choice make).1 = a := by
  rcases checks_or_nothing a who choice make with ⟨m, h, hc, -⟩ | ⟨-, records, hsel⟩
  · exact absurd hc (hnone m h)
  · rw [hsel]
    rfl

/-- What making a backend comes to is of no account, unless none is held for the mode that is meant. -/
theorem select_congr {make' : BackendMode → Except Fault Handle}
    (hmake : ∀ m, a.configured.Resolves choice m → a.holding? m = none → a.configured.has m = true →
      make m = make' m) : a.select who choice make = a.select who choice make' := by
  unfold Adapter.select
  cases hmode : choice.mode? with
  | none => rfl
  | some wanted =>
    dsimp only
    cases hr : a.configured.resolve wanted with
    | none => rfl
    | some m =>
      have hm : a.configured.Resolves choice m :=
        Configured.meant_eq_some_iff.mp (by simp [Configured.meant, hmode, hr])
      dsimp only
      cases hh : a.holding? m with
      | some h => rfl
      | none =>
        dsimp only
        by_cases hhas : a.configured.has m = true
        · rw [hmake m hm hh hhas]
        · simp [hhas]

/-! ## What changes what is held -/

variable (shown who) in
/-- What is held for a mode changes by a registration for it, or by a selection that makes one where none is held. -/
theorem holding?_step (hone : a.HoldsOne) (m : BackendMode) (e : AdapterHappening) :
    (a.step shown who e).1.holding? m = a.holding? m ∨
    (∃ h, e = .register m h ∧ (a.step shown who e).1.holding? m = some h) ∨
    ∃ choice make h, e = .select choice make ∧ a.configured.Resolves choice m ∧ a.holding? m = none ∧
      a.configured.has m = true ∧ make m = .ok h ∧ (a.step shown who e).1.holding? m = some h := by
  obtain ⟨-, -, hheld⟩ := hone.step shown who e
  rw [hheld m]
  cases e with
  | register n h =>
    by_cases hn : n = m
    · subst hn
      exact .inr (.inl ⟨h, rfl, if_pos rfl⟩)
    · exact .inl (if_neg hn)
  | select choice make =>
    by_cases hm : a.configured.meant choice = some m
    · have hsucceed : succeed a.configured m (a.holding? m) (.select choice make) =
          (a.holding? m <|> a.configured.makes make m) := if_pos hm
      rw [hsucceed]
      cases hh : a.holding? m with
      | some h => exact .inl rfl
      | none =>
        cases hmakes : a.configured.makes make m with
        | none => exact .inl rfl
        | some h =>
          obtain ⟨hhas, hmake⟩ := Configured.makes_eq_some_iff.mp hmakes
          exact .inr (.inr ⟨choice, make, h, rfl, Configured.meant_eq_some_iff.mp hm, rfl, hhas, hmake, rfl⟩)
    · exact .inl (if_neg hm)
  | fetch => exact .inl rfl
  | sign => exact .inl rfl
  | answer => exact .inl rfl

/-- A backend that is held stays until another one is registered in its place. -/
theorem holding?_run {l : List (Caller × AdapterHappening)} (hone : a.HoldsOne) (hheld : a.holding? m = some h)
    (hl : ∀ x ∈ l, ∀ k, x.2 ≠ .register m k) : (a.run shown l).1.holding? m = some h := by
  induction l generalizing a with
  | nil => exact hheld
  | cons x l ih =>
    have hx := hl x List.mem_cons_self
    have hrest := fun y hy => hl y (List.mem_cons_of_mem x hy)
    refine ih (hone.step shown x.1 x.2).2.1 ?_ hrest
    rcases holding?_step shown x.1 hone m x.2 with hsame | ⟨k, hk, -⟩ | ⟨choice, make, k, -, -, hnone, -⟩
    · exact hsame.trans hheld
    · exact absurd hk (hx k)
    · exact nomatch hnone.symm.trans hheld

/-- Two selections for one mode have one backend checked, unless another one is registered in between. -/
theorem Checks.eq_of_run {choice' : ModeChoice} {make' : BackendMode → Except Fault Handle}
    {l : List (Caller × AdapterHappening)} (hone : a.HoldsOne) (hc : a.Checks choice make m h)
    (hl : ∀ x ∈ l, ∀ k, x.2 ≠ .register m k)
    (hc' : ((a.step shown who (.select choice make)).1.run shown l).1.Checks choice' make' m k) : k = h := by
  have hheld : (a.step shown who (.select choice make)).1.holding? m = some h := (hc.select who).2.2
  have hstays : ((a.step shown who (.select choice make)).1.run shown l).1.holding? m = some h :=
    holding?_run (hone.step shown who _).2.1 hheld hl
  rcases hc' with ⟨-, hk⟩ | ⟨-, hk, -⟩
  · exact Option.some.inj (hk.symm.trans hstays)
  · exact nomatch hk.symm.trans hstays

/-! ## The end of a check -/

/-- The check that a caller waits for: the selection that began it, the backend that was held for the mode then, and
nothing for the caller since. -/
def CheckedLast (shown : Handle → Text) (c : Configured) (who : Caller) (l : List (Caller × AdapterHappening))
    (choice : ModeChoice) (m : BackendMode) (h : Handle) : Prop :=
  ∃ before make after, l = before ++ (who, .select choice make) :: after ∧
    ((init c).run shown before).1.Checks choice make m h ∧
    (((init c).run shown before).1.step shown who (.select choice make)).1.holding? m = some h ∧
    Undisturbed shown who (((init c).run shown before).1.step shown who (.select choice make)).1 after

theorem CheckedLast.resolves {l : List (Caller × AdapterHappening)} (hl : CheckedLast shown c who l choice m h) :
    c.Resolves choice m := by
  obtain ⟨before, make, after, -, hc, -⟩ := hl
  exact (holdsOne_run shown c before).1 ▸ hc.resolves

/-- A caller that waits for a check has selected the backend. -/
theorem checkedLast_iff {l : List (Caller × AdapterHappening)} :
    ((init c).run shown l).1.waitingOf? who = some (.check m h) ↔ ∃ choice, CheckedLast shown c who l choice m h := by
  constructor
  · intro hw
    obtain ⟨before, e, after, hl, hrests, hw, hu⟩ := exists_last_of_waitingOf? hw
    rcases rests_or_asks_of_waitingOf? hw with ⟨hr, -⟩ | ⟨o, hasks⟩
    · exact absurd hr hrests
    · cases hasks with
      | @check choice make =>
        rw [step_select] at hw
        rcases checks_or_nothing ((init c).run shown before).1 who choice make with
          ⟨n, k, hc, -, hw', hheld⟩ | ⟨-, records, hsel⟩
        · obtain ⟨rfl, rfl⟩ := Waiting.check.inj (Option.some.inj (hw'.symm.trans hw))
          exact ⟨choice, before, make, after, hl, hc, hheld, hu⟩
        · refine absurd ⟨nofun, ?_⟩ hrests
          rw [step_select, hsel]
          exact (Passes.select records : Passes (.select choice make) _).rests.2
  · rintro ⟨choice, before, make, after, rfl, hc, -, hu⟩
    rw [run_append]
    exact hu.waitingOf?_run.trans (hc.select who).2.1

/-- A caller gets a backend if the one that it waits for has answered that it can be used. -/
theorem backend_mem_conclude_iff {w : Waiting} {r : Except Fault BackendAnswer} :
    .ended (.ok (.backend (some h))) ∈ conclude shown w r ↔ r = .ok (.ready true) ∧ ∃ m, w = .check m h := by
  cases r with
  | error f => simp [conclude]
  | ok answer =>
    cases w with
    | check n k => cases answer with
      | ready usable => cases usable <;> simp [conclude, eq_comm]
      | _ => simp [conclude]
    | fetch k => cases answer <;> simp [conclude]
    | sign k hash => cases answer <;> simp [conclude]

/-- **Selections keep the backends that are held.** Whatever has been selected and registered, in any order and before
or after the answer to any check: an adapter holds at most one backend for a mode. A caller gets a backend exactly if
the last thing that it waits for is a check, begun by a selection whose choice stands for a mode, and the backend held
for this mode then, looked up or made, answers that it can be used. What making a backend comes to is of no account
unless none is held for the mode and it is configured; what is held for a mode changes by making one where there is
none, and by a registration. A selection has the backend checked that is held, or else the one that it makes, and
without a registration in between a later one has the same backend checked. A selection ends at once, with nothing,
exactly if its choice stands for no mode, or if it has to make the backend and none is configured or making it fails,
and then the adapter stays as it is; a registered backend is used whatever is configured. A check that fails ends with
nothing, one that raises a fault ends with it, and no answer changes what is held. -/
theorem cache_consistent (shown : Handle → Text) (c : Configured) (l : List (Caller × AdapterHappening))
    (who : Caller) :
    let a := ((init c).run shown l).1
    a.HoldsOne ∧
    (∀ e h, .ended (.ok (.backend (some h))) ∈ (a.step shown who e).2 ↔
      e = .answer (.ok (.ready true)) ∧ ∃ choice m, c.Resolves choice m ∧ CheckedLast shown c who l choice m h) ∧
    (∀ choice make make', (∀ m, c.Resolves choice m → a.holding? m = none → c.has m = true → make m = make' m) →
      a.step shown who (.select choice make) = a.step shown who (.select choice make')) ∧
    (∀ m e, (a.step shown who e).1.holding? m = a.holding? m ∨
      (∃ h, e = .register m h ∧ (a.step shown who e).1.holding? m = some h) ∨
      ∃ choice make h, e = .select choice make ∧ c.Resolves choice m ∧ a.holding? m = none ∧ c.has m = true ∧
        make m = .ok h ∧ (a.step shown who e).1.holding? m = some h) ∧
    (∀ choice make m h, a.Checks choice make m h → (a.step shown who (.select choice make)).2 = [.check h] ∧
      (a.step shown who (.select choice make)).1.holding? m = some h ∧
      ∀ between, (∀ x ∈ between, ∀ k, x.2 ≠ .register m k) → ∀ choice' make' k,
        ((a.step shown who (.select choice make)).1.run shown between).1.Checks choice' make' m k → k = h) ∧
    (∀ choice make, (.ended (.ok (.backend none)) ∈ (a.step shown who (.select choice make)).2 ↔
        ∀ m, c.Resolves choice m → a.holding? m = none ∧ (c.has m = false ∨ ∃ f, make m = .error f)) ∧
      (.ended (.ok (.backend none)) ∈ (a.step shown who (.select choice make)).2 →
        (a.step shown who (.select choice make)).1 = a)) ∧
    (∀ choice m h, CheckedLast shown c who l choice m h →
      .ended (.ok (.backend none)) ∈ (a.step shown who (.answer (.ok (.ready false)))).2 ∧
      ∀ f, (a.step shown who (.answer (.error f))).2 = [.ended (.error f)]) ∧
    ∀ r, (a.step shown who (.answer r)).1.held = a.held := by
  intro a
  obtain ⟨hc, hone, -⟩ : a.configured = c ∧ a.HoldsOne ∧ _ := holdsOne_run shown c l
  refine ⟨hone, fun e h => ?_, fun choice make make' hmake => ?_, fun m e => ?_,
    fun choice make m h hk => ?_, fun choice make => ?_, fun choice m h hlast => ?_, fun r => ?_⟩
  · rw [mem_step_iff_mem_conclude (by simp)]
    constructor
    · rintro ⟨r, w, rfl, hw, hmem⟩
      obtain ⟨rfl, m, rfl⟩ := backend_mem_conclude_iff.mp hmem
      obtain ⟨choice, hlast⟩ := checkedLast_iff.mp hw
      exact ⟨rfl, choice, m, hlast.resolves, hlast⟩
    · rintro ⟨rfl, choice, m, -, hlast⟩
      exact ⟨_, _, rfl, checkedLast_iff.mpr ⟨choice, hlast⟩, backend_mem_conclude_iff.mpr ⟨rfl, m, rfl⟩⟩
  · exact select_congr (by rwa [hc])
  · simpa only [hc] using holding?_step shown who hone m e
  · obtain ⟨hout, -, hheld⟩ := hk.select who
    exact ⟨hout, hheld, fun between hl choice' make' k hk' => hk.eq_of_run hone hl hk'⟩
  · have hnone : .ended (.ok (.backend none)) ∈ (a.step shown who (.select choice make)).2 ↔ _ :=
      none_mem_select_iff
    refine ⟨by rw [hnone, forall_not_checks_iff, hc], fun hmem => select_eq_self (hnone.mp hmem)⟩
  · have hw := checkedLast_iff.mpr ⟨choice, hlast⟩
    exact ⟨by simp [step, a, hw, conclude], fun f => by simp [step, a, hw, conclude]⟩
  · rcases held_step shown a who (.answer r) with ⟨_, _, he⟩ | ⟨_, _, he⟩ | ⟨-, hheld, -⟩
    · cases he
    · cases he
    · exact hheld

/-- Making the backend fails at first. Two sessions select it then at the same time, the check of the second one fails,
and another backend is registered before the first one has its answer. -/
def contendedRun : List (Caller × AdapterHappening) :=
  [(some "a", .select (.text "software") fun _ => .error (.decline .tokenError "no key")),
    (some "a", .select (.text "Software") fun _ => .ok 0), (some "b", .select (.mode .auto) fun _ => .ok 1),
    (some "b", .answer (.ok (.ready false))), (none, .register .software 2)]

/-- The first session gets the backend that it has had checked, the next selection has the registered one checked, and a
word that names no mode selects nothing. -/
theorem cache_consistent_contendedRun :
    let a := ((init ⟨false, true⟩).run (fun _ => []) contendedRun).1
    (.ended (.ok (.backend (some 0))) ∈ (a.step (fun _ => []) (some "a") (.answer (.ok (.ready true)))).2 ∧
      ∃ choice m, Configured.Resolves ⟨false, true⟩ choice m ∧
        CheckedLast (fun _ => []) ⟨false, true⟩ (some "a") contendedRun choice m 0) ∧
    (a.step (fun _ => []) (some "b") (.select (.mode .auto) fun _ => .ok 1)).2 = [.check 2] ∧
    (.ended (.ok (.backend none)) ∈ (a.step (fun _ => []) (some "b") (.select (.text "yubikey") fun _ => .ok 1)).2 ∧
      (a.step (fun _ => []) (some "b") (.select (.text "yubikey") fun _ => .ok 1)).1 = a) := by
  intro a
  have hmem : .ended (.ok (.backend (some 0))) ∈ (a.step (fun _ => []) (some "a") (.answer (.ok (.ready true)))).2 :=
    List.mem_cons_of_mem _ (List.mem_singleton.mpr rfl)
  obtain ⟨-, hgets, -⟩ := cache_consistent (fun _ => []) ⟨false, true⟩ contendedRun (some "a")
  obtain ⟨-, -, -, -, hchecks, hnothing, -⟩ := cache_consistent (fun _ => []) ⟨false, true⟩ contendedRun (some "b")
  have hheld : a.holding? .software = some 2 := by decide +kernel
  have hauto : Configured.Resolves ⟨false, true⟩ (.mode .auto) .software := .keyFile (.mode _) rfl rfl
  have hword : ∀ m, ¬ Configured.Resolves ⟨false, true⟩ (.text "yubikey") m := fun m hm =>
    nomatch Configured.meant_eq_some_iff.mpr hm
  obtain ⟨hiff, hsame⟩ := hnothing (.text "yubikey") fun _ => .ok 1
  have hnone := hiff.mpr fun m hm => absurd hm (hword m)
  exact ⟨⟨hmem, ((hgets _ _).mp hmem).2⟩, (hchecks _ _ _ _ (.held hauto hheld)).1, hnone, hsame hnone⟩

end Adapter

end RemoteSigning
