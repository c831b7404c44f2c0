import RemoteSigning.Proofs.Json.Texts

/-!
# The limit on nesting

The reader gives up where arrays and objects are nested more deeply than its limit. Up to there the limit makes no
difference: two readers with different limits agree, unless one of them has given up.

- `value_agree`: what two readers make of a value;
- `read_of_read`: what is read with one limit is read with any other one that is enough;
- `read_nestedText`, `nestedTooDeeply_nestedText`: arrays within arrays, with a limit that is enough and with one that
  is not.
-/

namespace RemoteSigning.Json

/-- The reader has given up. -/
def IsTooDeep {α : Type} (r : Except Stop α) : Prop := ∃ container, r = .error (.tooDeep container)

/-- Two readers find the same, unless one of them has given up. -/
def Agree {α : Type} (r r' : Except Stop α) : Prop := r = r' ∨ IsTooDeep r ∨ IsTooDeep r'

section Agree

variable {α β : Type} {r r' : Except Stop α}

theorem IsTooDeep.bind (h : IsTooDeep r) (f : α → Except Stop β) : IsTooDeep (r >>= f) := by
  obtain ⟨container, rfl⟩ := h
  exact ⟨container, rfl⟩

theorem IsTooDeep.map (h : IsTooDeep r) (f : α → β) : IsTooDeep (r.map f) := by
  obtain ⟨container, rfl⟩ := h
  exact ⟨container, rfl⟩

theorem Agree.refl (r : Except Stop α) : Agree r r := .inl rfl

theorem Agree.bind (h : Agree r r') {f g : α → Except Stop β} (hfg : ∀ a, Agree (f a) (g a)) :
    Agree (r >>= f) (r' >>= g) := by
  rcases h with rfl | h | h
  · cases r with
    | error e => exact .inl rfl
    | ok a => exact hfg a
  · exact .inr (.inl (h.bind f))
  · exact .inr (.inr (h.bind g))

theorem Agree.map (h : Agree r r') (f : α → β) : Agree (r.map f) (r'.map f) := by
  rcases h with rfl | h | h
  · exact .inl rfl
  · exact .inr (.inl (h.map f))
  · exact .inr (.inr (h.map f))

end Agree

section Readers

variable {v v' : Text → Except Stop (Json × Text)} (hv : ∀ s, Agree (v s) (v' s))

include hv

theorem items_agree (fuel : Nat) (acc : List Json) (s : Text) : Agree (items v fuel acc s) (items v' fuel acc s) := by
  induction fuel generalizing acc s with
  | zero => exact .refl _
  | succ fuel ih =>
    refine (hv s).bind fun value => ?_
    obtain ⟨w, rest⟩ := value
    dsimp only
    split
    · split
      · exact .refl _
      split
      · exact ih _ _
      · exact .refl _
    · exact .refl _

theorem members_agree (fuel : Nat) (acc : List (Text × Json)) (s : Text) :
    Agree (members v fuel acc s) (members v' fuel acc s) := by
  induction fuel generalizing acc s with
  | zero => exact .refl _
  | succ fuel ih =>
    cases s with
    | nil => exact .refl _
    | cons q s =>
      rw [members, members]
      split
      · exact .refl _
      refine (Agree.refl (string (q :: s) fuel [] s)).bind fun name => ?_
      dsimp only
      split
      next c more _ =>
        split
        · exact .refl _
        refine (hv (skipBlanks more)).bind fun value => ?_
        split
        · split
          · exact .refl _
          split
          · exact ih _ _
          · exact .refl _
        · exact .refl _
      · exact .refl _

end Readers

/-- The code point opens an array or an object. -/
def Opens (c : CodePoint) : Prop := c = CodePoint.ofChar '[' ∨ c = CodePoint.ofChar '\x7b'

/-- The limit is of no importance for a value without parts. -/
theorem value_of_not_opens {c : CodePoint} (h : ¬ Opens c) (limit fuel depth depth' : Nat) (s : Text) :
    value limit fuel depth (c :: s) = value limit fuel depth' (c :: s) := by
  obtain ⟨hsquare, hbrace⟩ := not_or.mp h
  rw [value.eq_def, value.eq_def]
  simp only [if_neg hsquare, if_neg hbrace]

/-- With no levels left the reader gives up. -/
theorem isTooDeep_value_zero {c : CodePoint} (h : Opens c) (limit fuel : Nat) (s : Text) :
    IsTooDeep (value limit fuel 0 (c :: s)) := by
  rcases h with rfl | rfl
  · exact ⟨"array", rfl⟩
  · exact ⟨"object", rfl⟩

/-- What two readers make of a value with parts, if they agree on the parts. -/
theorem agree_value_succ {c : CodePoint} (h : Opens c) {limit fuel depth depth' : Nat}
    (hv : ∀ s, Agree (value limit fuel depth s) (value limit fuel depth' s)) (s : Text) :
    Agree (value limit fuel (depth + 1) (c :: s)) (value limit fuel (depth' + 1) (c :: s)) := by
  have hsquare : CodePoint.ofChar '[' ≠ CodePoint.ofChar '"' := by decide
  have hbrace : CodePoint.ofChar '\x7b' ≠ CodePoint.ofChar '"' := by decide
  have hother : CodePoint.ofChar '\x7b' ≠ CodePoint.ofChar '[' := by decide
  rw [value.eq_def, value.eq_def limit fuel (depth' + 1)]
  rcases h with rfl | rfl
  · simp only [if_neg hsquare, if_true]
    split
    · split
      · exact .refl _
      · exact (items_agree hv _ _ _).map _
    · exact (items_agree hv _ _ _).map _
  · simp only [if_neg hbrace, if_neg hother, if_true]
    split
    · split
      · exact .refl _
      · exact (members_agree hv _ _ _).map _
    · exact (members_agree hv _ _ _).map _

/-- **What two readers make of a value**, whatever their limits on nesting are. -/
theorem value_agree (limit fuel depth depth' : Nat) (s : Text) :
    Agree (value limit fuel depth s) (value limit fuel depth' s) := by
  induction depth generalizing depth' s with
  | zero =>
    cases s with
    | nil => exact .inl (by rw [value, value])
    | cons c s =>
      by_cases h : Opens c
      · exact .inr (.inl (isTooDeep_value_zero h limit fuel s))
      · exact .inl (value_of_not_opens h ..)
  | succ depth ih =>
    cases s with
    | nil => exact .inl (by rw [value, value])
    | cons c s =>
      by_cases h : Opens c
      · cases depth' with
        | zero => exact .inr (.inr (isTooDeep_value_zero h limit fuel s))
        | succ depth' => exact agree_value_succ h (ih depth') s
      · exact .inl (value_of_not_opens h ..)

/-- A text is nested more deeply than is read. -/
def NestedTooDeeply (limits : Limits) (t : Text) : Prop := ∃ container, read limits t = .error (.tooDeep container)

/-- **What is read with one limit** is read with any other one, unless the text is nested too deeply for that. -/
theorem read_of_read {digits depth depth' : Nat} {t : Text} {v : Json} (h : read ⟨digits, depth⟩ t = .ok v)
    (hdeep : ¬ NestedTooDeeply ⟨digits, depth'⟩ t) : read ⟨digits, depth'⟩ t = .ok v := by
  have hgiven {depth : Nat} (h : IsTooDeep (value digits (t.length + 1) depth (skipBlanks t))) :
      NestedTooDeeply ⟨digits, depth⟩ t := by
    obtain ⟨container, hc⟩ := h
    exact ⟨container, by rw [read]; simp only [hc]; rfl⟩
  rcases value_agree digits (t.length + 1) depth depth' (skipBlanks t) with heq | hd | hd
  · rw [read] at h ⊢
    simp only [heq] at h
    exact h
  · obtain ⟨container, hc⟩ := hgiven hd
    cases hc.symm.trans h
  · exact absurd (hgiven hd) hdeep

/-! ## Arrays within arrays -/

/-- An array within an array, and so on, `n` levels below the outermost. -/
def nested : Nat → Json
  | 0 => .array []
  | n + 1 => .array [nested n]

def nestedText (n : Nat) : Text :=
  List.replicate (n + 1) (CodePoint.ofChar '[') ++ List.replicate (n + 1) (CodePoint.ofChar ']')

theorem nestedText_succ (n : Nat) (s : Text) :
    nestedText (n + 1) ++ s = CodePoint.ofChar '[' :: (nestedText n ++ CodePoint.ofChar ']' :: s) := by
  have hclosing := List.replicate_succ' (n := n + 1) (a := CodePoint.ofChar ']')
  rw [nestedText, List.replicate_succ, hclosing, nestedText]
  simp

theorem exists_nestedText_cons (n : Nat) (s : Text) : ∃ rest, nestedText n ++ s = CodePoint.ofChar '[' :: rest :=
  ⟨_, by rw [nestedText, List.replicate_succ, List.cons_append, List.cons_append]⟩

theorem skipBlanks_nestedText (n : Nat) : skipBlanks (nestedText n) = nestedText n := by
  rw [nestedText, List.replicate_succ, List.cons_append, skipBlanks_cons (by decide)]

/-- The rest of an array that begins with another array. -/
theorem value_array (limit fuel depth : Nat) (s : Text) :
    value limit fuel (depth + 1) (CodePoint.ofChar '[' :: CodePoint.ofChar '[' :: s) =
      (items (value limit fuel depth) fuel [] (CodePoint.ofChar '[' :: s)).map fun (l, r) => (.array l, r) := by
  have hquote : CodePoint.ofChar '[' ≠ CodePoint.ofChar '"' := by decide
  have hclose : CodePoint.ofChar '[' ≠ CodePoint.ofChar ']' := by decide
  have hskip : skipBlanks (CodePoint.ofChar '[' :: s) = CodePoint.ofChar '[' :: s := skipBlanks_cons (by decide) s
  rw [value.eq_def]
  simp only [if_neg hquote, if_true, hskip, if_neg hclose]

/-- The nested array is read if there are enough levels left. -/
theorem value_nested (limit fuel depth n : Nat) (s : Text) :
    value limit (fuel + 1) (n + depth + 1) (nestedText n ++ s) = .ok (nested n, s) := by
  have hclose (s : Text) : skipBlanks (CodePoint.ofChar ']' :: s) = CodePoint.ofChar ']' :: s :=
    skipBlanks_cons (by decide) s
  induction n generalizing s with
  | zero =>
    have hquote : CodePoint.ofChar '[' ≠ CodePoint.ofChar '"' := by decide
    have htext : nestedText 0 ++ s = CodePoint.ofChar '[' :: CodePoint.ofChar ']' :: s := rfl
    rw [htext, value.eq_def]
    simp only [if_neg hquote, if_true, hclose]
    rfl
  | succ n ih =>
    obtain ⟨rest, hrest⟩ := exists_nestedText_cons n (CodePoint.ofChar ']' :: s)
    rw [nestedText_succ, hrest, Nat.add_right_comm n 1 depth, value_array, ← hrest, items, ih]
    simp only [bind, Except.bind, hclose, if_true]
    rfl

/-- The reader gives up on more opening brackets than there are levels left. -/
theorem isTooDeep_value (limit fuel depth : Nat) (s : Text) :
    IsTooDeep (value limit (fuel + 1) depth (List.replicate (depth + 1) (CodePoint.ofChar '[') ++ s)) := by
  induction depth with
  | zero => exact isTooDeep_value_zero (.inl rfl) limit (fuel + 1) s
  | succ depth ih =>
    rw [List.replicate_succ, List.replicate_succ, List.cons_append, List.cons_append, value_array,
      ← List.cons_append, ← List.replicate_succ, items]
    exact (ih.bind _).map _

/-- The nested array is read if the limit is enough. -/
theorem read_nestedText (digits depth n : Nat) : read ⟨digits, n + depth + 1⟩ (nestedText n) = .ok (nested n) := by
  have hvalue := value_nested digits (nestedText n).length depth n []
  rw [List.append_nil] at hvalue
  rw [read, skipBlanks_nestedText]
  simp only [hvalue]
  rfl

/-- The nested array is nested too deeply if the limit is not enough. -/
theorem nestedTooDeeply_nestedText (digits : Nat) {depth n : Nat} (h : depth ≤ n) :
    NestedTooDeeply ⟨digits, depth⟩ (nestedText n) := by
  obtain ⟨more, rfl⟩ := Nat.exists_eq_add_of_le h
  have htext : nestedText (depth + more) = List.replicate (depth + 1) (CodePoint.ofChar '[') ++
      (List.replicate more (CodePoint.ofChar '[') ++ List.replicate (depth + more + 1) (CodePoint.ofChar ']')) := by
    rw [nestedText, ← List.append_assoc, List.replicate_append_replicate, Nat.add_right_comm]
  obtain ⟨container, hvalue⟩ := isTooDeep_value digits (nestedText (depth + more)).length depth
    (List.replicate more (CodePoint.ofChar '[') ++ List.replicate (depth + more + 1) (CodePoint.ofChar ']'))
  rw [← htext] at hvalue
  refine ⟨container, ?_⟩
  rw [read, skipBlanks_nestedText]
  simp only [hvalue]
  rfl

end RemoteSigning.Json
