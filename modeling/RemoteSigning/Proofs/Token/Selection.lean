import RemoteSigning.Token.Card

/-!
# Which token of a card module is used

The slots are looked at in order, and the first token that is acceptable is used. Two conditions decide, and each is
left out if it is not configured: the number of the slot, and a text that has to occur in the label of the token. A
configured number does not take the place of the text; a token has to meet both.

- `Text.contains_iff`: a text contains another if the other one stands somewhere in it;
- `FirstOf` is the first of some slots for which a condition holds, `FirstOf.unique`: there is only one;
- `CardModule.findToken_firstOf`: the token that is used, and `CardModule.findToken_searches`: what is done to find it;
- `CardModule.findToken_overrides_iff`: when it is the one that the number alone would have decided for.
-/

namespace RemoteSigning

/-! ## Conditions on tokens -/

/-- The text is contained in another one if it stands somewhere in it. -/
theorem Text.contains_iff (t part : Text) : Text.contains t part = true ↔ part <:+: t := by
  induction t with
  | nil =>
    unfold contains cutAt?
    cases part with
    | nil => simp
    | cons c part => simp
  | cons c t ih =>
    have hcons : (Text.contains (c :: t) part = true) ↔ part <+: c :: t ∨ Text.contains t part = true := by
      unfold contains
      rw [cutAt?]
      split
      next hp => simp [List.isPrefixOf_iff_prefix.mp hp]
      next hp =>
        have hn : ¬ part <+: c :: t := fun h => hp (List.isPrefixOf_iff_prefix.mpr h)
        simp [hn]
    rw [hcons, ih, List.infix_cons_iff]

namespace CardConfig

variable (c : CardConfig)

/-- A label is admitted if the configured text, if there is one, stands somewhere in it. -/
theorem admitsLabel_iff (label : Text) : c.admitsLabel label = true ↔ ∀ part ∈ c.label, part <:+: label := by
  unfold admitsLabel
  cases c.label with
  | none => simp
  | some part =>
    cases part with
    | nil => simp
    | cons d part => simp [Text.contains_iff]

/-- A slot is admitted if it has the configured number, if there is one. -/
theorem admitsSlot_iff (slot : Int) : c.admitsSlot slot = true ↔ ∀ n ∈ c.slot, slot = n := by
  unfold admitsSlot
  cases c.slot with
  | none => simp
  | some n => simp

/-- The token in a slot meets everything that is configured. -/
structure Accepts (s : Slot) : Prop where
  number : ∀ n ∈ c.slot, s.slotId = n
  label : ∀ part ∈ c.label, part <:+: s.label

/-- The token in a slot is wanted if a configured number overrides the label. -/
def Wants (s : Slot) : Prop :=
  match c.slot with
  | some n => s.slotId = n
  | none => ∀ part ∈ c.label, part <:+: s.label

theorem wants_of_slot {c : CardConfig} {n : Int} (h : c.slot = some n) : c.Wants = fun s => s.slotId = n := by
  funext s
  simp [Wants, h]

/-- Without a number the label decides alone. -/
theorem wants_of_no_slot {c : CardConfig} (h : c.slot = none) : c.Wants = c.Accepts := by
  funext s
  apply propext
  constructor
  · intro hw
    refine ⟨by simp [h], ?_⟩
    simpa [Wants, h] using hw
  · intro ha
    simpa [Wants, h] using ha.label

end CardConfig

/-! ## The first one -/

/-- No token is acceptable. -/
def noMatch : Fault := .decline .noCard "No matching token present"

/-- The first of some slots for which a condition holds; if there is none, no card is found. -/
inductive FirstOf (P : Slot → Prop) : List Slot → Except Fault Slot → Prop
  | nil : FirstOf P [] (.error noMatch)
  | here {s : Slot} {rest : List Slot} : P s → FirstOf P (s :: rest) (.ok s)
  | there {s : Slot} {rest : List Slot} {r : Except Fault Slot} : ¬ P s → FirstOf P rest r → FirstOf P (s :: rest) r

namespace FirstOf

variable {P Q : Slot → Prop} {slots : List Slot} {r r' : Except Fault Slot} {s : Slot}

theorem unique (h : FirstOf P slots r) (h' : FirstOf P slots r') : r = r' := by
  induction h with
  | nil => cases h'; rfl
  | here hs =>
    cases h' with
    | here => rfl
    | there hn => exact absurd hs hn
  | there hn _ ih =>
    cases h' with
    | here hs => exact absurd hs hn
    | there _ h' => exact ih h'

/-- The first one is among the slots, and the condition holds for it. -/
theorem holds (h : FirstOf P slots (.ok s)) : s ∈ slots ∧ P s := by
  generalize hr : (Except.ok s : Except Fault Slot) = r at h
  induction h with
  | nil => cases hr
  | here hs =>
    obtain rfl := Except.ok.inj hr
    exact ⟨List.mem_cons_self, hs⟩
  | there _ _ ih =>
    obtain ⟨hm, hs⟩ := ih hr
    exact ⟨List.mem_cons_of_mem _ hm, hs⟩

/-- A narrower condition finds the same slot exactly if the wider one finds it or nothing. -/
theorem widen_iff (h : FirstOf P slots r) (hsub : ∀ s, P s → Q s) :
    FirstOf Q slots r ↔ ∀ s, FirstOf Q slots (.ok s) → P s := by
  constructor
  · intro hq s hs
    obtain rfl := hq.unique hs
    exact h.holds.2
  · intro hfirst
    induction h with
    | nil => exact .nil
    | here hs => exact .here (hsub _ hs)
    | @there s rest r hn _ ih =>
      -- Whoever misses the narrower condition misses the wider one too, or would be found first.
      have hq : ¬ Q s := fun hq => hn (hfirst s (.here hq))
      exact .there hq (ih fun x hx => hfirst x (.there hq hx))

end FirstOf

/-! ## The search at a module -/

/-- The event belongs to the search for a token: nothing is opened or used by it. -/
def CardEvent.isSearch : CardEvent → Bool
  | .load _ | .getToken _ => true
  | _ => false

namespace CardModule

variable (m : CardModule) (c : CardConfig) (loaded : Bool)

theorem load_searches : ∀ e ∈ (m.load c loaded).1, e.isSearch = true := by
  unfold load
  split
  · simp [CardTask.pure]
  · split
    · simp [CardTask.fail]
    · simp [CardTask.fail]
    · simp [CardTask.event, CardEvent.isSearch]

theorem findIn_searches (slots : List Slot) : ∀ e ∈ (findIn c slots).1, e.isSearch = true := by
  induction slots with
  | nil => simp [findIn, CardTask.fail]
  | cons s rest ih =>
    rw [findIn]
    split
    · exact ih
    · unfold CardTask.bind CardTask.event
      cases s.tokenFault with
      | some f => simp [CardEvent.isSearch]
      | none =>
        dsimp only
        split
        · simp [CardTask.pure, CardEvent.isSearch]
        · intro e he
          rcases List.mem_cons.mp he with rfl | he
          · rfl
          · exact ih e he

/-- Looking for a token opens none. -/
theorem findToken_searches : ∀ e ∈ (m.findToken c loaded).1, e.isSearch = true := by
  have hload := m.load_searches c loaded
  unfold findToken CardTask.bind
  split
  · exact hload
  · intro e he
    rcases List.mem_append.mp he with he | he
    · exact hload e he
    · cases hslots : m.slotsFault with
      | some f => simp [hslots, CardTask.fail] at he
      | none =>
        rw [hslots] at he
        exact findIn_searches c m.slots e he

/-- Among tokens that can be looked at, the first one that is accepted is found. -/
theorem findIn_firstOf {slots : List Slot} (h : ∀ s ∈ slots, s.tokenFault = none) :
    FirstOf c.Accepts slots (findIn c slots).2 := by
  induction slots with
  | nil => exact .nil
  | cons s rest ih =>
    have hs := h s List.mem_cons_self
    have hrest := ih fun x hx => h x (List.mem_cons_of_mem _ hx)
    rw [findIn]
    by_cases hslot : c.admitsSlot s.slotId = true
    · have hnumber := (c.admitsSlot_iff s.slotId).mp hslot
      by_cases hlabel : c.admitsLabel s.label = true
      · have ha : c.Accepts s := ⟨hnumber, (c.admitsLabel_iff s.label).mp hlabel⟩
        simpa [CardTask.bind, CardTask.event, CardTask.pure, hs, hslot, hlabel] using FirstOf.here ha
      · have hn : ¬ c.Accepts s := fun ha => hlabel ((c.admitsLabel_iff s.label).mpr ha.label)
        simpa [CardTask.bind, CardTask.event, hs, hslot, hlabel] using FirstOf.there hn hrest
    · have hn : ¬ c.Accepts s := fun ha => hslot ((c.admitsSlot_iff s.slotId).mpr ha.number)
      simpa [hslot] using FirstOf.there hn hrest

/-- No call at a module fails while a token is looked for. -/
structure Calm : Prop where
  load : (m.load c loaded).2 = .ok ()
  slots : m.slotsFault = none
  tokens : ∀ s ∈ m.slots, s.tokenFault = none

variable {m c loaded}

theorem findToken_of_calm (h : m.Calm c loaded) : (m.findToken c loaded).2 = (findIn c m.slots).2 := by
  unfold findToken CardTask.bind
  rw [h.load, h.slots]

/-- The token that is used is the first one that is accepted. -/
theorem findToken_firstOf (h : m.Calm c loaded) : FirstOf c.Accepts m.slots (m.findToken c loaded).2 := by
  rw [findToken_of_calm h]
  exact findIn_firstOf c h.tokens

/-- **When a slot overrides the label.** The token that is used meets all that is configured, the number of the slot and
the label. So it is the one that is wanted, where a number overrides the label, exactly if the first slot with a
configured number has a token whose label is accepted too. -/
theorem findToken_overrides_iff (h : m.Calm c loaded) :
    FirstOf c.Accepts m.slots (m.findToken c loaded).2 ∧
    (FirstOf c.Wants m.slots (m.findToken c loaded).2 ↔
      ∀ n ∈ c.slot, ∀ s, FirstOf (fun x => x.slotId = n) m.slots (.ok s) → ∀ part ∈ c.label, part <:+: s.label) := by
  have hfirst := findToken_firstOf h
  refine ⟨hfirst, ?_⟩
  cases hslot : c.slot with
  | none =>
    rw [CardConfig.wants_of_no_slot hslot]
    simpa using hfirst
  | some n =>
    have hmem : n ∈ c.slot := hslot
    rw [CardConfig.wants_of_slot hslot, hfirst.widen_iff fun s ha => ha.number n hmem]
    constructor
    · intro hall k hk s hs
      obtain rfl := Option.some.inj hk
      exact (hall s hs).label
    · intro hall s hs
      refine ⟨fun k hk => ?_, hall n rfl s hs⟩
      rw [hslot] at hk
      obtain rfl := Option.some.inj hk
      exact hs.holds.2

/-- The two tokens of an identity card: one to say who one is, one to sign. -/
def identityCard : CardModule := ⟨none, none, [⟨0, "ID (PIN1)", [], [], none, none, none, none⟩,
  ⟨1, "ID (PIN2)", [], [], none, none, none, none⟩]⟩

/-- A number and a label that belong together. -/
theorem findToken_overrides_identityCard :
    identityCard.Calm ⟨some "module", some "PIN2", some 1, false⟩ false ∧
      FirstOf (CardConfig.Wants ⟨some "module", some "PIN2", some 1, false⟩) identityCard.slots
        (identityCard.findToken ⟨some "module", some "PIN2", some 1, false⟩ false).2 := by
  have hcalm : identityCard.Calm ⟨some "module", some "PIN2", some 1, false⟩ false :=
    ⟨rfl, rfl, by simp [identityCard]⟩
  refine ⟨hcalm, (findToken_overrides_iff hcalm).2.mpr fun n hn s hs part hpart => ?_⟩
  obtain rfl := Option.some.inj hn
  obtain rfl := Option.some.inj hpart
  obtain ⟨hm, hs⟩ := hs.holds
  simp only [identityCard, List.mem_cons, List.not_mem_nil, or_false] at hm
  rcases hm with rfl | rfl
  · exact absurd hs (by decide)
  · exact ⟨"ID (", ")", by decide⟩

/-- A number names the first token, and the label is that of the second: no card is found, although there is a token in
the slot with this number. -/
theorem findToken_of_otherLabel :
    identityCard.Calm ⟨some "module", some "PIN2", some 0, false⟩ false ∧
      (identityCard.findToken ⟨some "module", some "PIN2", some 0, false⟩ false).2 =
        .error (.decline .noCard "No matching token present") ∧
      ∃ s, FirstOf (CardConfig.Wants ⟨some "module", some "PIN2", some 0, false⟩) identityCard.slots (.ok s) ∧
        ¬ FirstOf (CardConfig.Wants ⟨some "module", some "PIN2", some 0, false⟩) identityCard.slots
          (identityCard.findToken ⟨some "module", some "PIN2", some 0, false⟩ false).2 := by
  have hresult : (identityCard.findToken ⟨some "module", some "PIN2", some 0, false⟩ false).2 =
      .error (.decline .noCard "No matching token present") := by rfl
  have hwanted : FirstOf (CardConfig.Wants ⟨some "module", some "PIN2", some 0, false⟩) identityCard.slots
      (.ok ⟨0, "ID (PIN1)", [], [], none, none, none, none⟩) := .here rfl
  refine ⟨⟨rfl, rfl, by simp [identityCard]⟩, hresult, _, hwanted, ?_⟩
  rw [hresult]
  intro h
  exact absurd (h.unique hwanted) (by simp)

end CardModule

end RemoteSigning
