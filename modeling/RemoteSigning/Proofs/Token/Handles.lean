import Mathlib.Data.List.Induction
import RemoteSigning.Token.Adapter

/-!
# A backend is reached through its handle only

Many callers share one adapter. In any order they select backends, register others and ask for certificates and
signatures, and the backends answer when they like. A caller that passes a handle reaches the backend behind it, or
nobody: the handle decides, and not what has been selected or registered since.

- `heldFor` tells from what has happened which backend is held for a mode; `holds_run_iff`: these are the ones held;
- `Selects` is what a selection can come to, `waitingOf?_step` what a step means for those who wait;
- `exists_askedLast_of_waitingOf?`: what a caller waits for is the last thing that it has asked for;
- `reached_by_handle`: who is asked, who is refused, and whose signature comes back over which hash.
-/

namespace RemoteSigning

/-- Under distinct keys every entry is the one that is found. -/
theorem find?_key_of_mem {κ β : Type} [DecidableEq κ] {entries : List (κ × β)} (hd : (entries.map (·.1)).Nodup)
    {k : κ} {b : β} (h : (k, b) ∈ entries) : entries.find? (·.1 = k) = some (k, b) := by
  induction entries with
  | nil => cases h
  | cons p entries ih =>
    rw [List.map_cons, List.nodup_cons] at hd
    rcases List.mem_cons.mp h with rfl | h
    · simp
    · have hne : p.1 ≠ k := fun hpk => hd.1 (hpk ▸ List.mem_map_of_mem h)
      simpa [hne] using ih hd.2 h

namespace Configured

variable (c : Configured)

/-- The mode of the backend that a choice stands for. -/
def meant (choice : ModeChoice) : Option BackendMode := choice.mode?.bind c.resolve

def makes (make : BackendMode → Except Fault Handle) (m : BackendMode) : Option Handle :=
  if c.has m then (make m).toOption else none

end Configured

/-- The adapter asks a backend for something. -/
def AdapterOutput.asks : AdapterOutput → Bool
  | .check _ | .fetch _ | .sign _ => true
  | .record _ | .ended _ => false

namespace Adapter

variable {shown : Handle → Text} {a : Adapter} {who other : Caller} {c : Configured}

/-! ## Selections -/

/-- What a selection can come to: nothing, because no backend is meant or none can be made; a question to the backend
that is held; or a question to one that has just been made, and is held from now on. -/
inductive Selects (a : Adapter) (who : Caller) (choice : ModeChoice) (make : BackendMode → Except Fault Handle) :
    Adapter × List AdapterOutput → Prop
  | nothing (records : List TokenRecord) :
      (∀ m, a.configured.meant choice = some m → a.holding? m = none ∧ a.configured.makes make m = none) →
        Selects a who choice make (a.nothing records)
  | held {m : BackendMode} {h : Handle} : a.configured.meant choice = some m → a.holding? m = some h →
      Selects a who choice make (a.startCheck who m h)
  | made {m : BackendMode} {h : Handle} : a.configured.meant choice = some m → a.holding? m = none →
      a.configured.makes make m = some h → Selects a who choice make ((a.hold m h).startCheck who m h)

variable (shown) in
theorem step_select (a : Adapter) (who : Caller) (choice : ModeChoice) (make : BackendMode → Except Fault Handle) :
    a.step shown who (.select choice make) = a.select who choice make := rfl

theorem selects_select (a : Adapter) (who : Caller) (choice : ModeChoice)
    (make : BackendMode → Except Fault Handle) : a.Selects who choice make (a.select who choice make) := by
  unfold select
  cases hc : choice.mode? with
  | none => exact .nothing _ fun m hm => by simp [Configured.meant, hc] at hm
  | some wanted =>
    dsimp only
    cases hr : a.configured.resolve wanted with
    | none => exact .nothing _ fun m hm => by simp [Configured.meant, hc, hr] at hm
    | some n =>
      have hmeant : a.configured.meant choice = some n := by simp [Configured.meant, hc, hr]
      have hnothing {records : List TokenRecord} (hh : a.holding? n = none) (hm : a.configured.makes make n = none) :
          a.Selects who choice make (a.nothing records) := by
        refine .nothing records fun m hm' => ?_
        obtain rfl := Option.some.inj (hmeant.symm.trans hm')
        exact ⟨hh, hm⟩
      dsimp only
      cases hh : a.holding? n with
      | some h => exact .held hmeant hh
      | none =>
        dsimp only
        by_cases hhas : a.configured.has n = true
        · cases hm : make n with
          | error f => simpa [hhas, hm] using hnothing hh (by simp [Configured.makes, hm, Except.toOption])
          | ok h =>
            simpa [hhas, hm] using Selects.made hmeant hh (by simp [Configured.makes, hhas, hm, Except.toOption])
        · simpa [hhas] using hnothing hh (by simp [Configured.makes, hhas])

/-! ## What is held -/

/-- The backend held for a mode after one more happening. A registered backend takes the place of the one that is held;
a selection makes one if none is held, and if it can be made. -/
def succeed (c : Configured) (m : BackendMode) (held : Option Handle) : AdapterHappening → Option Handle
  | .register n h => if n = m then some h else held
  | .select choice make => if c.meant choice = some m then held <|> c.makes make m else held
  | .fetch _ | .sign .. | .answer _ => held

/-- The backend held for a mode, by what has happened. -/
def heldFor (c : Configured) (m : BackendMode) (l : List (Caller × AdapterHappening)) : Option Handle :=
  l.foldl (fun held x => succeed c m held x.2) none

/-- No mode has two backends. -/
def HoldsOne (a : Adapter) : Prop := (a.held.map (·.1)).Nodup

theorem HoldsOne.hold (h : a.HoldsOne) (m : BackendMode) (k : Handle) : (a.hold m k).HoldsOne := by
  unfold HoldsOne Adapter.hold
  rw [List.map_cons, List.nodup_cons]
  refine ⟨?_, h.sublist (List.filter_sublist.map _)⟩
  intro hm
  obtain ⟨p, hp, rfl⟩ := List.mem_map.mp hm
  simpa using (List.mem_filter.mp hp).2

theorem HoldsOne.holds_iff (h : a.HoldsOne) (k : Handle) : a.holds k = true ↔ ∃ m, a.holding? m = some k := by
  unfold holds holding?
  rw [List.any_eq_true]
  constructor
  · rintro ⟨⟨m, k'⟩, hp, hk⟩
    obtain rfl : k' = k := of_decide_eq_true hk
    exact ⟨m, by rw [find?_key_of_mem h hp]; rfl⟩
  · rintro ⟨m, hm⟩
    obtain ⟨⟨n, k'⟩, hf, rfl⟩ := Option.map_eq_some_iff.mp hm
    exact ⟨_, List.mem_of_find?_eq_some hf, decide_eq_true rfl⟩

variable (shown) in
/-- A request for a certificate or a signature, and an answer, leave what is held as it is. -/
theorem held_step (a : Adapter) (who : Caller) (e : AdapterHappening) :
    (∃ m h, e = .register m h) ∨ (∃ choice make, e = .select choice make) ∨
      ((a.step shown who e).1.configured = a.configured ∧ (a.step shown who e).1.held = a.held ∧
        ∀ m, succeed a.configured m (a.holding? m) e = a.holding? m) := by
  cases e with
  | register m h => exact .inl ⟨m, h, rfl⟩
  | select choice make => exact .inr (.inl ⟨choice, make, rfl⟩)
  | fetch b =>
    refine .inr (.inr ?_)
    unfold step
    dsimp only
    split <;> exact ⟨rfl, rfl, fun _ => rfl⟩
  | sign b hash =>
    refine .inr (.inr ?_)
    unfold step
    dsimp only
    split <;> exact ⟨rfl, rfl, fun _ => rfl⟩
  | answer r =>
    refine .inr (.inr ?_)
    unfold step
    dsimp only
    split <;> exact ⟨rfl, rfl, fun _ => rfl⟩

variable (shown who) in
/-- A step keeps the settings and one backend for each mode, and decides which one. -/
theorem HoldsOne.step (h : a.HoldsOne) (e : AdapterHappening) :
    (a.step shown who e).1.configured = a.configured ∧ (a.step shown who e).1.HoldsOne ∧
      ∀ m, (a.step shown who e).1.holding? m = succeed a.configured m (a.holding? m) e := by
  rcases held_step shown a who e with ⟨n, k, rfl⟩ | ⟨choice, make, rfl⟩ | ⟨hc, hheld, hs⟩
  · refine ⟨rfl, h.hold n k, fun m => (holding?_hold a n m k).trans ?_⟩
    simp only [succeed, eq_comm]
  · have hs := selects_select a who choice make
    rw [step_select]
    generalize a.select who choice make = r at hs ⊢
    cases hs with
    | nothing records hn =>
      refine ⟨rfl, h, fun m => ?_⟩
      unfold succeed
      dsimp only
      split
      next hm => rw [(hn m hm).1, (hn m hm).2]; exact (hn m hm).1
      next => rfl
    | @held n k hm hk =>
      refine ⟨rfl, h, fun m => ?_⟩
      unfold succeed
      dsimp only
      split
      next hm' =>
        obtain rfl := Option.some.inj (hm.symm.trans hm')
        rw [hk]
        exact hk
      next => rfl
    | @made n k hm hn hk =>
      refine ⟨rfl, h.hold n k, fun m => (holding?_hold a n m k).trans ?_⟩
      unfold succeed
      dsimp only
      rw [hm]
      by_cases hnm : m = n
      · subst hnm
        rw [if_pos rfl, if_pos rfl, hn, hk]
        rfl
      · rw [if_neg hnm, if_neg fun he => hnm (Option.some.inj he).symm]
  · unfold HoldsOne holding? at *
    rw [hheld]
    exact ⟨hc, h, fun m => (hs m).symm⟩

/-! ## What callers wait for -/

theorem waitingOf?_await (a : Adapter) (who other : Caller) (w : Waiting) :
    (a.await who w).waitingOf? other = if other = who then some w else a.waitingOf? other := by
  unfold await waitingOf?
  by_cases h : other = who
  · subst h
    simp
  · have h' : who ≠ other := fun e => h e.symm
    rw [List.find?_cons, decide_eq_false h', find?_filter_key_ne, if_neg h, if_neg h]

theorem waitingOf?_settle (a : Adapter) (who other : Caller) :
    (a.settle who).waitingOf? other = if other = who then none else a.waitingOf? other := by
  unfold settle waitingOf?
  rw [find?_filter_key_ne]
  split <;> rfl

/-- A request that has a backend asked for something. -/
inductive Asks (a : Adapter) : AdapterHappening → Waiting → AdapterOutput → Prop
  | check {choice : ModeChoice} {make : BackendMode → Except Fault Handle} (m : BackendMode) (h : Handle) :
      Asks a (.select choice make) (.check m h) (.check h)
  | fetch {h : Handle} : a.holds h = true → Asks a (.fetch (some h)) (.fetch h) (.fetch h)
  | sign {h : Handle} (hash : HashToSign) : a.holds h = true → Asks a (.sign (some h) hash) (.sign h hash) (.sign h)

/-- A request for which no backend is asked, and what the caller gets at once. -/
inductive Passes : AdapterHappening → List AdapterOutput → Prop
  | register (m : BackendMode) (h : Handle) : Passes (.register m h) []
  | select {choice : ModeChoice} {make : BackendMode → Except Fault Handle} (records : List TokenRecord) :
      Passes (.select choice make) (records.map AdapterOutput.record ++ [.ended (.ok (.backend none))])
  | fetch {b : Option Handle} {message : Option Text} :
      Passes (.fetch b) [.ended (.error (.unavailable message))]
  | sign {b : Option Handle} {hash : HashToSign} {message : Option Text} :
      Passes (.sign b hash) [.ended (.error (.unavailable message))]

/-- What a step can be to those who wait. -/
inductive Serves (shown : Handle → Text) (a : Adapter) (who : Caller) :
    AdapterHappening → Adapter × List AdapterOutput → Prop
  | asks {e : AdapterHappening} {w : Waiting} {o : AdapterOutput} {a' : Adapter} : a.Asks e w o →
      a'.waiting = (a.await who w).waiting → Serves shown a who e (a', [o])
  | passes {e : AdapterHappening} {a' : Adapter} {out : List AdapterOutput} : Passes e out →
      a'.waiting = a.waiting → Serves shown a who e (a', out)
  | unheard (r : Except Fault BackendAnswer) : a.waitingOf? who = none → Serves shown a who (.answer r) (a, [])
  | answers {w : Waiting} (r : Except Fault BackendAnswer) : a.waitingOf? who = some w →
      Serves shown a who (.answer r) (a.settle who, conclude shown w r)

variable (shown) in
/-- A handle that is not held is refused. -/
theorem require_of_not_held {b : Option Handle} (h : ∀ k, b = some k → a.holds k = false) :
    ∃ message, a.require shown b = .error (.unavailable message) := by
  cases hr : a.require shown b with
  | ok k =>
    obtain ⟨hb, hk⟩ := (require_eq_ok_iff shown a b k).mp hr
    exact absurd (hk.symm.trans (h k hb)) (by decide)
  | error f =>
    unfold require at hr
    split at hr
    · split at hr <;> cases hr
      exact ⟨_, rfl⟩
    · cases hr
      exact ⟨_, rfl⟩

variable (shown) in
/-- A happening at an adapter serves it in one of these ways. -/
theorem serves_step (a : Adapter) (who : Caller) (e : AdapterHappening) :
    a.Serves shown who e (a.step shown who e) := by
  have refused {b : Option Handle} {f : Fault} (hr : a.require shown b = .error f) :
      ∃ message, f = .unavailable message := by
    have hnot : ∀ k, b = some k → a.holds k = false := fun k hk => by
      rw [Bool.eq_false_iff]
      intro hheld
      exact nomatch hr.symm.trans ((require_eq_ok_iff shown a b k).mpr ⟨hk, hheld⟩)
    obtain ⟨message, hm⟩ := require_of_not_held shown hnot
    exact ⟨message, Except.error.inj (hr.symm.trans hm)⟩
  cases e with
  | register m h => exact .passes (.register m h) rfl
  | select choice make =>
    have hs := selects_select a who choice make
    rw [step_select]
    generalize a.select who choice make = r at hs ⊢
    cases hs with
    | nothing records => exact .passes (.select records) rfl
    | @held m h => exact .asks (.check m h) rfl
    | @made m h => exact .asks (.check m h) rfl
  | fetch b =>
    unfold step
    dsimp only
    split
    next f hr =>
      obtain ⟨message, rfl⟩ := refused hr
      exact .passes .fetch rfl
    next h hr =>
      obtain ⟨rfl, hheld⟩ := (require_eq_ok_iff shown a b h).mp hr
      exact .asks (.fetch hheld) rfl
  | sign b hash =>
    unfold step
    dsimp only
    split
    next f hr =>
      obtain ⟨message, rfl⟩ := refused hr
      exact .passes .sign rfl
    next h hr =>
      obtain ⟨rfl, hheld⟩ := (require_eq_ok_iff shown a b h).mp hr
      exact .asks (.sign hash hheld) rfl
  | answer r =>
    unfold step
    dsimp only
    split
    next hw => exact .unheard r hw
    next w hw => exact .answers r hw

/-- Nothing comes of a happening for those who wait. -/
def Rests (shown : Handle → Text) (a : Adapter) (who : Caller) (e : AdapterHappening) : Prop :=
  (∀ r, e ≠ .answer r) ∧ ∀ o ∈ (a.step shown who e).2, o.asks = false

theorem Passes.rests {e : AdapterHappening} {out : List AdapterOutput} (h : Passes e out) :
    (∀ r, e ≠ .answer r) ∧ ∀ o ∈ out, o.asks = false := by
  cases h with
  | select records =>
    refine ⟨nofun, fun o ho => ?_⟩
    rcases List.mem_append.mp ho with ho | ho
    · obtain ⟨r, -, rfl⟩ := List.mem_map.mp ho
      rfl
    · rw [List.mem_singleton.mp ho]
      rfl
  | _ => exact ⟨nofun, by simp [AdapterOutput.asks]⟩

theorem Asks.asks_eq_true {e : AdapterHappening} {w : Waiting} {o : AdapterOutput} (h : a.Asks e w o) :
    o.asks = true := by
  cases h <;> rfl

theorem waitingOf?_congr {a a' : Adapter} (h : a'.waiting = a.waiting) (who : Caller) :
    a'.waitingOf? who = a.waitingOf? who := by
  rw [waitingOf?, waitingOf?, h]

/-- What happens on behalf of one caller does not change what another one waits for. -/
theorem waitingOf?_step_of_ne (h : other ≠ who) (e : AdapterHappening) :
    (a.step shown who e).1.waitingOf? other = a.waitingOf? other := by
  have hs := serves_step shown a who e
  generalize a.step shown who e = r at hs ⊢
  cases hs with
  | asks _ hw => rw [waitingOf?_congr hw, waitingOf?_await, if_neg h]
  | passes _ hw => exact waitingOf?_congr hw other
  | unheard => rfl
  | answers => rw [waitingOf?_settle, if_neg h]

/-- What a caller waits for stays the same while nothing comes of what happens. -/
theorem waitingOf?_step_of_rests {e : AdapterHappening} (h : a.Rests shown who e) :
    (a.step shown who e).1.waitingOf? who = a.waitingOf? who := by
  obtain ⟨hanswer, hasks⟩ := h
  have hs := serves_step shown a who e
  generalize a.step shown who e = r at hs hasks ⊢
  cases hs with
  | asks ha => exact absurd (ha.asks_eq_true.symm.trans (hasks _ List.mem_cons_self)) (by decide)
  | passes _ hw => exact waitingOf?_congr hw who
  | unheard => rfl
  | answers r => exact absurd rfl (hanswer r)

/-- A caller waits for what it has had a backend asked for just now. -/
theorem Asks.waitingOf?_step {e : AdapterHappening} {w : Waiting} {o : AdapterOutput} (h : a.Asks e w o)
    (he : ∀ choice make, e ≠ .select choice make) : (a.step shown who e).1.waitingOf? who = some w := by
  cases h with
  | check => exact absurd rfl (he _ _)
  | @fetch k hk =>
    have hr := (require_eq_ok_iff shown a (some k) k).mpr ⟨rfl, hk⟩
    simp [step, hr, waitingOf?_await]
  | @sign k hash hk =>
    have hr := (require_eq_ok_iff shown a (some k) k).mpr ⟨rfl, hk⟩
    simp [step, hr, waitingOf?_await]

/-- A caller that waits after a step has been waiting for the same, or has asked for it just now. -/
theorem rests_or_asks_of_waitingOf? {e : AdapterHappening} {w : Waiting}
    (h : (a.step shown who e).1.waitingOf? who = some w) :
    (a.Rests shown who e ∧ a.waitingOf? who = some w) ∨ ∃ o, a.Asks e w o := by
  have hs := serves_step shown a who e
  unfold Rests
  generalize a.step shown who e = r at hs h ⊢
  cases hs with
  | @asks _ w' o _ ha hw =>
    rw [waitingOf?_congr hw, waitingOf?_await, if_pos rfl] at h
    exact .inr ⟨o, Option.some.inj h ▸ ha⟩
  | passes hp hw => exact .inl ⟨hp.rests, (waitingOf?_congr hw who).symm.trans h⟩
  | unheard r hn => exact nomatch hn.symm.trans h
  | answers =>
    rw [waitingOf?_settle, if_pos rfl] at h
    cases h

/-! ## Runs -/

theorem run_append (a : Adapter) (l l' : List (Caller × AdapterHappening)) :
    (a.run shown (l ++ l')).1 = ((a.run shown l).1.run shown l').1 := by
  induction l generalizing a with
  | nil => rfl
  | cons x l ih => exact ih _

variable (shown) in
/-- What every run keeps: the settings, one backend for each mode, and which one. -/
theorem holdsOne_run (c : Configured) (l : List (Caller × AdapterHappening)) :
    ((init c).run shown l).1.configured = c ∧ ((init c).run shown l).1.HoldsOne ∧
      ∀ m, ((init c).run shown l).1.holding? m = heldFor c m l := by
  induction l using List.reverseRecOn with
  | nil => exact ⟨rfl, List.nodup_nil, fun _ => rfl⟩
  | append_singleton l x ih =>
    obtain ⟨hc, hone, hheld⟩ := ih
    rw [run_append]
    generalize ((init c).run shown l).1 = a at hc hone hheld ⊢
    obtain ⟨hc', hone', hheld'⟩ := hone.step shown x.1 x.2
    refine ⟨hc'.trans hc, hone', fun m => ?_⟩
    have hsnoc : heldFor c m (l ++ [x]) = succeed c m (heldFor c m l) x.2 := by simp [heldFor]
    rw [hsnoc, ← hheld, ← hc]
    exact hheld' m

/-- The backends that are held are those that what has happened tells. -/
theorem holds_run_iff (c : Configured) (l : List (Caller × AdapterHappening)) (h : Handle) :
    ((init c).run shown l).1.holds h = true ↔ ∃ m, heldFor c m l = some h := by
  obtain ⟨-, hone, hheld⟩ := holdsOne_run shown c l
  rw [hone.holds_iff]
  exact exists_congr fun m => by rw [hheld]

/-- In what happens, a caller has no backend asked and no answer comes for it. -/
def Undisturbed (shown : Handle → Text) (who : Caller) : Adapter → List (Caller × AdapterHappening) → Prop
  | _, [] => True
  | a, x :: l => (x.1 = who → a.Rests shown who x.2) ∧ Undisturbed shown who (a.step shown x.1 x.2).1 l

theorem undisturbed_append {l l' : List (Caller × AdapterHappening)} :
    Undisturbed shown who a (l ++ l') ↔
      Undisturbed shown who a l ∧ Undisturbed shown who (a.run shown l).1 l' := by
  induction l generalizing a with
  | nil => simp [Undisturbed, run]
  | cons x l ih =>
    rw [List.cons_append, Undisturbed, Undisturbed, ih, and_assoc]
    rfl

/-- A caller that is not disturbed goes on waiting for the same. -/
theorem Undisturbed.waitingOf?_run {l : List (Caller × AdapterHappening)} (h : Undisturbed shown who a l) :
    (a.run shown l).1.waitingOf? who = a.waitingOf? who := by
  induction l generalizing a with
  | nil => rfl
  | cons x l ih =>
    have hstep : (a.step shown x.1 x.2).1.waitingOf? who = a.waitingOf? who := by
      by_cases hx : x.1 = who
      · subst hx
        exact waitingOf?_step_of_rests (h.1 rfl)
      · exact waitingOf?_step_of_ne (fun he => hx he.symm) x.2
    exact (ih h.2).trans hstep

/-- The last thing that a caller has had a backend asked for: the request, and what came before it. -/
def AskedLast (shown : Handle → Text) (c : Configured) (who : Caller) (l : List (Caller × AdapterHappening))
    (e : AdapterHappening) (w : Waiting) : Prop :=
  ∃ before after, l = before ++ (who, e) :: after ∧ (∃ o, ((init c).run shown before).1.Asks e w o) ∧
    Undisturbed shown who (((init c).run shown before).1.step shown who e).1 after

/-- What a caller waits for goes back to one happening, and nothing has come for the caller of what happened since. -/
theorem exists_last_of_waitingOf? {l : List (Caller × AdapterHappening)} {w : Waiting}
    (h : ((init c).run shown l).1.waitingOf? who = some w) :
    ∃ before e after, l = before ++ (who, e) :: after ∧ ¬ ((init c).run shown before).1.Rests shown who e ∧
      (((init c).run shown before).1.step shown who e).1.waitingOf? who = some w ∧
      Undisturbed shown who (((init c).run shown before).1.step shown who e).1 after := by
  -- The induction adds what happens at the end, where the caller asks, rests, or is answered.
  induction l using List.reverseRecOn with
  | nil => cases h
  | append_singleton l x ih =>
    rw [run_append] at h
    have later (hw : ((init c).run shown l).1.waitingOf? who = some w)
        (hx : x.1 = who → ((init c).run shown l).1.Rests shown who x.2) :
        ∃ before e after, l ++ [x] = before ++ (who, e) :: after ∧ ¬ ((init c).run shown before).1.Rests shown who e ∧
          (((init c).run shown before).1.step shown who e).1.waitingOf? who = some w ∧
          Undisturbed shown who (((init c).run shown before).1.step shown who e).1 after := by
      obtain ⟨before, e, after, hl, hn, he, hu⟩ := ih hw
      refine ⟨before, e, after ++ [x], by simp [hl], hn, he, undisturbed_append.mpr ⟨hu, ?_, trivial⟩⟩
      have hrun : ((init c).run shown l).1 =
          ((((init c).run shown before).1.step shown who e).1.run shown after).1 := by
        rw [hl, run_append]
        rfl
      exact hrun ▸ hx
    by_cases hx : x.1 = who
    · subst hx
      by_cases hr : ((init c).run shown l).1.Rests shown x.1 x.2
      · exact later ((waitingOf?_step_of_rests hr).symm.trans h) fun _ => hr
      · exact ⟨l, x.2, [], rfl, hr, h, trivial⟩
    · exact later ((waitingOf?_step_of_ne (fun he => hx he.symm) x.2).symm.trans h) fun he => absurd he hx

/-- What a caller waits for is the last thing that it has asked for. -/
theorem exists_askedLast_of_waitingOf? {l : List (Caller × AdapterHappening)} {w : Waiting}
    (h : ((init c).run shown l).1.waitingOf? who = some w) : ∃ e, AskedLast shown c who l e w := by
  obtain ⟨before, e, after, hl, hn, hw, hu⟩ := exists_last_of_waitingOf? h
  rcases rests_or_asks_of_waitingOf? hw with ⟨hr, -⟩ | ha
  · exact absurd hr hn
  · exact ⟨e, before, after, hl, ha, hu⟩

theorem AskedLast.eq_fetch {l : List (Caller × AdapterHappening)} {e : AdapterHappening} {h : Handle}
    (hl : AskedLast shown c who l e (.fetch h)) : e = .fetch (some h) := by
  obtain ⟨_, _, -, ⟨_, ha⟩, -⟩ := hl
  cases ha
  rfl

theorem AskedLast.eq_sign {l : List (Caller × AdapterHappening)} {e : AdapterHappening} {h : Handle} {hash : HashToSign}
    (hl : AskedLast shown c who l e (.sign h hash)) : e = .sign (some h) hash := by
  obtain ⟨_, _, -, ⟨_, ha⟩, -⟩ := hl
  cases ha
  rfl

/-- What a caller has asked for last, other than by a selection, is what it waits for. -/
theorem AskedLast.waitingOf? {l : List (Caller × AdapterHappening)} {e : AdapterHappening} {w : Waiting}
    (h : AskedLast shown c who l e w) (he : ∀ choice make, e ≠ .select choice make) :
    ((init c).run shown l).1.waitingOf? who = some w := by
  obtain ⟨before, after, rfl, ⟨o, ha⟩, hu⟩ := h
  rw [run_append]
  exact hu.waitingOf?_run.trans (ha.waitingOf?_step he)

/-! ## Answers -/

/-- A caller gets a signature if the backend that it waits for has signed, and over the hash that it has passed. -/
theorem signature_mem_conclude_iff {w : Waiting} {r : Except Fault BackendAnswer} {sig : Signature} :
    .ended (.ok (.signature sig)) ∈ conclude shown w r ↔
      r = .ok (.signature sig.value) ∧ ∃ h, w = .sign h sig.hash := by
  obtain ⟨value, hash⟩ := sig
  cases r with
  | error f => simp [conclude]
  | ok answer =>
    cases w with
    | check m h => cases answer with
      | ready usable => cases usable <;> simp [conclude]
      | _ => simp [conclude]
    | fetch h => cases answer <;> simp [conclude]
    | sign h hash' => cases answer <;> simp [conclude, eq_comm]

/-- A caller gets a certificate if the backend that it waits for has answered with it. -/
theorem certificate_mem_conclude_iff {w : Waiting} {r : Except Fault BackendAnswer} {cert : Certificate} :
    .ended (.ok (.certificate cert)) ∈ conclude shown w r ↔
      r = .ok (.certificate cert) ∧ ∃ h, w = .fetch h := by
  cases r with
  | error f => simp [conclude]
  | ok answer =>
    cases w with
    | check m h => cases answer with
      | ready usable => cases usable <;> simp [conclude]
      | _ => simp [conclude]
    | fetch h => cases answer <;> simp [conclude, eq_comm]
    | sign h hash => cases answer <;> simp [conclude]

/-- An answer of a backend ends a call with nothing else than what the caller waits for. -/
theorem mem_step_iff_mem_conclude {v : Value} (hv : v ≠ .backend none) {e : AdapterHappening} :
    .ended (.ok v) ∈ (a.step shown who e).2 ↔
      ∃ r w, e = .answer r ∧ a.waitingOf? who = some w ∧ .ended (.ok v) ∈ conclude shown w r := by
  have hs := serves_step shown a who e
  generalize a.step shown who e = r at hs ⊢
  cases hs with
  | asks ha _ => cases ha <;> simp
  | passes hp => cases hp <;> simp [hv]
  | unheard r hn => simp [hn]
  | answers r hw => simp [hw]

theorem asks_eq_false_of_mem_conclude {w : Waiting} {r : Except Fault BackendAnswer} {o : AdapterOutput}
    (h : o ∈ conclude shown w r) : o.asks = false := by
  unfold conclude at h
  split at h
  · rw [List.mem_singleton.mp h]
    rfl
  · split at h
    all_goals
      rcases List.mem_cons.mp h with rfl | h
      · rfl
      · rw [List.mem_singleton.mp h]
        rfl
  · rw [List.mem_singleton.mp h]
    rfl
  · rw [List.mem_singleton.mp h]
    rfl
  · cases h

/-- A backend is asked for something because somebody has asked the adapter for it. -/
theorem asks_of_mem_step {e : AdapterHappening} {o : AdapterOutput} (hm : o ∈ (a.step shown who e).2)
    (ho : o.asks = true) : ∃ w, a.Asks e w o := by
  have hs := serves_step shown a who e
  generalize a.step shown who e = r at hs hm
  cases hs with
  | asks ha _ =>
    obtain rfl := List.mem_singleton.mp hm
    exact ⟨_, ha⟩
  | passes hp => exact absurd (ho.symm.trans (hp.rests.2 _ hm)) (by decide)
  | unheard => cases hm
  | answers => exact absurd (ho.symm.trans (asks_eq_false_of_mem_conclude hm)) (by decide)

/-- **A backend is reached through its handle only.** Whatever has happened to an adapter: the backends that it holds
are, for each mode, the one registered last, or the one made by a selection when there was none. A request with the
handle of one of them goes to this backend and to no other; any other request is refused, and no backend hears of it. No
backend is asked for a certificate or a signature unless somebody passes its handle. Whoever gets a certificate or a
signature has asked for it last, with a handle that was held then, and gets what the backend has answered; the
signature is over the hash that was passed in that request. -/
theorem reached_by_handle (shown : Handle → Text) (c : Configured) (l : List (Caller × AdapterHappening))
    (who : Caller) :
    let a := ((init c).run shown l).1
    (∀ h, a.holds h = true ↔ ∃ m, heldFor c m l = some h) ∧
    (∀ h hash, a.holds h = true →
      (a.step shown who (.fetch (some h))).2 = [.fetch h] ∧ (a.step shown who (.sign (some h) hash)).2 = [.sign h]) ∧
    (∀ b hash, (∀ h, b = some h → a.holds h = false) → ∃ message,
      a.step shown who (.fetch b) = (a, [.ended (.error (.unavailable message))]) ∧
        a.step shown who (.sign b hash) = (a, [.ended (.error (.unavailable message))])) ∧
    (∀ e h, (.fetch h ∈ (a.step shown who e).2 → e = .fetch (some h)) ∧
      (.sign h ∈ (a.step shown who e).2 → ∃ hash, e = .sign (some h) hash)) ∧
    (∀ e cert, .ended (.ok (.certificate cert)) ∈ (a.step shown who e).2 ↔
      e = .answer (.ok (.certificate cert)) ∧ ∃ h, AskedLast shown c who l (.fetch (some h)) (.fetch h)) ∧
    (∀ e sig, .ended (.ok (.signature sig)) ∈ (a.step shown who e).2 ↔
      e = .answer (.ok (.signature sig.value)) ∧
        ∃ h, AskedLast shown c who l (.sign (some h) sig.hash) (.sign h sig.hash)) := by
  intro a
  refine ⟨holds_run_iff c l, fun h hash hh => ?_, fun b hash hb => ?_, fun e h => ⟨fun hm => ?_, fun hm => ?_⟩,
    fun e cert => ?_, fun e sig => ?_⟩
  · have hr := (require_eq_ok_iff shown a (some h) h).mpr ⟨rfl, hh⟩
    exact ⟨by simp [step, hr], by simp [step, hr]⟩
  · obtain ⟨message, hr⟩ := require_of_not_held shown hb
    exact ⟨message, by simp [step, hr], by simp [step, hr]⟩
  · obtain ⟨w, ha⟩ := asks_of_mem_step hm rfl
    cases ha
    rfl
  · obtain ⟨w, ha⟩ := asks_of_mem_step hm rfl
    cases ha
    exact ⟨_, rfl⟩
  · rw [mem_step_iff_mem_conclude (by simp)]
    constructor
    · rintro ⟨r, w, rfl, hw, hm⟩
      obtain ⟨rfl, h, rfl⟩ := certificate_mem_conclude_iff.mp hm
      obtain ⟨e, hl⟩ := exists_askedLast_of_waitingOf? hw
      obtain rfl := hl.eq_fetch
      exact ⟨rfl, h, hl⟩
    · rintro ⟨rfl, h, hl⟩
      exact ⟨_, _, rfl, hl.waitingOf? nofun, certificate_mem_conclude_iff.mpr ⟨rfl, h, rfl⟩⟩
  · rw [mem_step_iff_mem_conclude (by simp)]
    constructor
    · rintro ⟨r, w, rfl, hw, hm⟩
      obtain ⟨rfl, h, rfl⟩ := signature_mem_conclude_iff.mp hm
      obtain ⟨e, hl⟩ := exists_askedLast_of_waitingOf? hw
      obtain rfl := hl.eq_sign
      exact ⟨rfl, h, hl⟩
    · rintro ⟨rfl, h, hl⟩
      exact ⟨_, _, rfl, hl.waitingOf? nofun, signature_mem_conclude_iff.mpr ⟨rfl, h, rfl⟩⟩

/-- A session selects the card and asks for a signature. Before the card has signed, another backend takes its place. -/
def replacedRun : List (Caller × AdapterHappening) :=
  [(some "a", .select (.mode .auto) fun _ => .ok 0), (some "a", .answer (.ok (.ready true))),
    (some "a", .sign (some 0) ⟨[102, 111, 111], ⟨.sha256, none⟩⟩), (none, .register .pkcs11 1)]

/-- The signature still comes, over the hash that was passed, but the next request with the old handle is refused. -/
theorem reached_by_handle_replacedRun :
    let a := ((init ⟨true, false⟩).run (fun _ => []) replacedRun).1
    (a.holds 1 = true ∧ (a.step (fun _ => []) (some "b") (.fetch (some 1))).2 = [.fetch 1]) ∧
    (a.holds 0 = false ∧ ∃ message,
      a.step (fun _ => []) (some "a") (.fetch (some 0)) = (a, [.ended (.error (.unavailable message))])) ∧
    .ended (.ok (.signature ⟨[1, 2, 3], ⟨[102, 111, 111], ⟨.sha256, none⟩⟩⟩)) ∈
      (a.step (fun _ => []) (some "a") (.answer (.ok (.signature [1, 2, 3])))).2 ∧
    ∃ h, AskedLast (fun _ => []) ⟨true, false⟩ (some "a") replacedRun
      (.sign (some h) ⟨[102, 111, 111], ⟨.sha256, none⟩⟩) (.sign h ⟨[102, 111, 111], ⟨.sha256, none⟩⟩) := by
  intro a
  have hnew : a.holds 1 = true := by decide +kernel
  have hold : a.holds 0 = false := by decide +kernel
  have hmem : .ended (.ok (.signature ⟨[1, 2, 3], ⟨[102, 111, 111], ⟨.sha256, none⟩⟩⟩)) ∈
      (a.step (fun _ => []) (some "a") (.answer (.ok (.signature [1, 2, 3])))).2 := List.mem_singleton.mpr rfl
  obtain ⟨-, hreach, hrefuse, -, -, hsign⟩ :=
    reached_by_handle (fun _ => []) ⟨true, false⟩ replacedRun (some "a")
  obtain ⟨-, hreach', -⟩ := reached_by_handle (fun _ => []) ⟨true, false⟩ replacedRun (some "b")
  obtain ⟨message, hfetch, -⟩ := hrefuse (some 0) ⟨[], ⟨.sha256, none⟩⟩ fun h hh => Option.some.inj hh ▸ hold
  exact ⟨⟨hnew, (hreach' 1 ⟨[], ⟨.sha256, none⟩⟩ hnew).1⟩, ⟨hold, message, hfetch⟩, hmem, ((hsign _ _).mp hmem).2⟩

end Adapter

end RemoteSigning
