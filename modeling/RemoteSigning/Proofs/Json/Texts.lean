import RemoteSigning.Json.Printer
import RemoteSigning.Json.Reader

/-!
# Objects of texts are read as they were written

A request is an object whose members are texts. The reader takes the escape of one code point at a time, so a string
is read by induction over its text; and one member at a time, so an object is read by induction over its members.

- `string_escape`: the escape of a code point is read as that code point;
- `string_text`: a string is read as its text;
- `members_texts`: members that are texts are read in order, as long as no name is written twice;
- `read_render_texts`: an object of texts is read as it was written.
-/

namespace RemoteSigning.Json

/-! ## Strings -/

theorem hex4?_append {s t : Text} {n : Nat} (h : hex4? s = some (n, [])) : hex4? (s ++ t) = some (n, t) := by
  match s, h with
  | [a, b, c, d], h =>
    simp only [hex4?, List.cons_append, List.nil_append] at h ⊢
    cases ha : a.hexValue? <;> cases hb : b.hexValue? <;> cases hc : c.hexValue? <;> cases hd : d.hexValue? <;>
      simp_all
  | a :: b :: c :: d :: e :: rest, h =>
    simp only [hex4?] at h
    cases ha : a.hexValue? <;> cases hb : b.hexValue? <;> cases hc : c.hexValue? <;> cases hd : d.hexValue? <;>
      simp_all

/-- The number of a control character is read back. -/
theorem hex4?_hex {n : Nat} (h : n < 0x20) (t : Text) : hex4? (Text.hex 4 n ++ t) = some (n, t) := by
  have all : ∀ n : Fin 0x20, hex4? (Text.hex 4 n.val) = some (n.val, []) := by decide
  exact hex4?_append (all ⟨n, h⟩)

theorem escapedPoint_hex {c : CodePoint} (h : c.val < 0x20) {t : Text} (ht : t ≠ []) :
    escapedPoint (Text.hex 4 c.val ++ t) = .ok (c, t) := by
  obtain ⟨d, rest, rfl⟩ := List.exists_cons_of_ne_nil ht
  have hpoint : CodePoint.ofNat c.val = c := by rw [CodePoint.ofNat, dif_pos c.isLt]
  have hhigh : c.isHighSurrogate = false := by
    simp only [CodePoint.isHighSurrogate, Bool.and_eq_false_iff, decide_eq_false_iff_not]
    omega
  simp [escapedPoint, unit?, hex4?_hex h, hpoint, hhigh]

/-- What is no quote, no backslash and no control character stands for itself. -/
theorem string_plain (opening : Text) (fuel : Nat) (acc : Text) {c : CodePoint} (hq : c ≠ CodePoint.ofChar '"')
    (hb : c ≠ CodePoint.ofChar '\\') (hc : 0x20 ≤ c.val) (s : Text) :
    string opening (fuel + 1) acc (c :: s) = string opening fuel (c :: acc) s := by
  conv => lhs; rw [string.eq_def]
  simp only [if_neg hq, if_neg hb, if_neg (Nat.not_lt.mpr hc)]

theorem string_close (opening : Text) (fuel : Nat) (acc s : Text) :
    string opening (fuel + 1) acc (CodePoint.ofChar '"' :: s) = .ok (acc.reverse, s) := by
  rw [string.eq_def]
  simp only [if_true]

/-- A letter after a backslash stands for its character. -/
theorem string_backslash (opening : Text) (fuel : Nat) (acc : Text) {e c : CodePoint} (he : e ≠ CodePoint.ofChar 'u')
    (hc : unescape? e = some c) (s : Text) :
    string opening (fuel + 1) acc (CodePoint.ofChar '\\' :: e :: s) = string opening fuel (c :: acc) s := by
  have hquote : CodePoint.ofChar '\\' ≠ CodePoint.ofChar '"' := by decide
  rw [string, if_neg hquote, if_pos rfl]
  simp only [if_neg he, hc]

/-- The escape of a code point is read as that code point. Something has to follow it, as it does in a string. -/
theorem string_escape (opening : Text) (fuel : Nat) (acc : Text) (c : CodePoint) {s : Text} (hs : s ≠ []) :
    string opening (fuel + 1) acc (escape false c ++ s) = string opening fuel (c :: acc) s := by
  have hquote : CodePoint.ofChar '\\' ≠ CodePoint.ofChar '"' := by decide
  have simple {e d : CodePoint} (h : c = d) (he : e ≠ CodePoint.ofChar 'u') (hd : unescape? e = some d) :
      string opening (fuel + 1) acc (CodePoint.ofChar '\\' :: e :: s) = string opening fuel (c :: acc) s :=
    h ▸ string_backslash opening fuel acc he hd s
  by_cases h : c.val < 0x20 ∨ c = CodePoint.ofChar '"' ∨ c = CodePoint.ofChar '\\'
  · unfold escape
    split
    next hc => exact simple hc (by decide) (by decide)
    split
    next _ hc => exact simple hc (by decide) (by decide)
    split
    next _ _ hc => exact simple hc (by decide) (by decide)
    split
    next _ _ _ hc => exact simple hc (by decide) (by decide)
    split
    next _ _ _ _ hc => exact simple hc (by decide) (by decide)
    split
    next _ _ _ _ _ hc => exact simple (show c = 8 from Fin.ext hc) (by decide) (by decide)
    split
    next _ _ _ _ _ _ hc => exact simple (show c = 12 from Fin.ext hc) (by decide) (by decide)
    next hq hb _ _ _ _ _ =>
      have hc : c.val < 0x20 := by
        rcases h with h | h | h
        · exact h
        · exact absurd h hq
        · exact absurd h hb
      rw [if_pos hc, unitEscape, List.append_assoc]
      have hu : ("\\u" : Text) ++ (Text.hex 4 c.val ++ s) =
          CodePoint.ofChar '\\' :: CodePoint.ofChar 'u' :: (Text.hex 4 c.val ++ s) := rfl
      rw [hu, string, if_neg hquote, if_pos rfl]
      simp only [if_true, escapedPoint_hex hc hs]
  · obtain ⟨hc, hq, hb⟩ : 0x20 ≤ c.val ∧ c ≠ CodePoint.ofChar '"' ∧ c ≠ CodePoint.ofChar '\\' := by
      simpa only [not_or, Nat.not_lt] using h
    rw [escape_of_not_special hq hb hc, List.singleton_append, string_plain opening fuel acc hq hb hc]

/-- The rest of a string, after its opening quote. -/
theorem string_text (opening : Text) {fuel : Nat} (acc t s : Text) (h : t.length < fuel) :
    string opening fuel acc (t.flatMap (escape false) ++ CodePoint.ofChar '"' :: s) = .ok (acc.reverse ++ t, s) := by
  induction t generalizing fuel acc with
  | nil =>
    obtain ⟨fuel, rfl⟩ := Nat.exists_eq_add_one_of_ne_zero (Nat.ne_of_gt h)
    rw [List.flatMap_nil, List.nil_append, string_close, List.append_nil]
  | cons c t ih =>
    obtain ⟨fuel, rfl⟩ := Nat.exists_eq_add_one_of_ne_zero (Nat.ne_of_gt (Nat.zero_lt_of_lt h))
    rw [List.flatMap_cons, List.append_assoc, string_escape _ _ _ _ (by simp),
      ih _ (Nat.lt_of_succ_lt_succ h)]
    simp

theorem quote_eq (t : Text) :
    quote false t = CodePoint.ofChar '"' :: (t.flatMap (escape false) ++ [CodePoint.ofChar '"']) := rfl

theorem escape_ne_nil (c : CodePoint) : escape false c ≠ [] := by
  unfold escape
  split
  · decide
  split
  · decide
  split
  · decide
  split
  · decide
  split
  · decide
  split
  · decide
  split
  · decide
  split
  · exact List.cons_ne_nil _ _
  split
  next h => cases h
  · exact List.cons_ne_nil _ _

theorem length_le_flatMap_escape (t : Text) : t.length ≤ (t.flatMap (escape false)).length := by
  induction t with
  | nil => exact Nat.le_refl _
  | cons c t ih =>
    have hc := List.length_pos_iff.mpr (escape_ne_nil c)
    rw [List.flatMap_cons, List.length_append, List.length_cons]
    omega

/-! ## Members -/

def texts (ms : List (Text × Text)) : List (Text × Json) := ms.map fun m => (m.1, .text m.2)

def member (m : Text × Text) : Text := quote false m.1 ++ ":" ++ quote false m.2

theorem put_of_not_mem {ms : List (Text × Json)} {name : Text} (h : name ∉ ms.map (·.1)) (v : Json) :
    put ms name v = ms ++ [(name, v)] := by
  induction ms with
  | nil => rfl
  | cons m ms ih =>
    obtain ⟨hm, hrest⟩ : name ≠ m.1 ∧ name ∉ ms.map (·.1) := by simpa using h
    rw [put, if_neg (Ne.symm hm), ih hrest]
    rfl

/-- A string where a value is expected. -/
theorem value_quote (limit depth : Nat) {fuel : Nat} (t s : Text) (h : t.length < fuel) :
    value limit fuel depth (quote false t ++ s) = .ok (.text t, s) := by
  have hshape : quote false t ++ s =
      CodePoint.ofChar '"' :: (t.flatMap (escape false) ++ CodePoint.ofChar '"' :: s) := by
    simp [quote_eq]
  rw [hshape, value.eq_def]
  simp only [if_true, string_text _ _ _ _ h]
  rfl

/-- What stands between the opening brace and the closing one. -/
def membersText (ms : List (Text × Text)) : Text := List.intercalate [CodePoint.ofChar ','] (ms.map member)

theorem membersText_cons (m m' : Text × Text) (ms : List (Text × Text)) :
    membersText (m :: m' :: ms) = member m ++ CodePoint.ofChar ',' :: membersText (m' :: ms) := by
  rw [membersText, List.map_cons, List.map_cons, List.intercalate_cons_cons]
  simp [membersText]

/-- A mark that is no blank is not skipped. -/
theorem skipBlanks_cons {c : CodePoint} (h : isBlank c = false) (s : Text) : skipBlanks (c :: s) = c :: s :=
  List.dropWhile_cons_of_neg (by simp [h])

section Members

variable {v : Text → Except Stop (Json × Text)} {fuel : Nat} {m : Text × Text} {s : Text}

/-- One member: its value, and what follows that. -/
theorem members_name (acc : List (Text × Json)) {name : Text} (hs : skipBlanks s = s) (hf : name.length < fuel) :
    members v (fuel + 1) acc (quote false name ++ CodePoint.ofChar ':' :: s) =
      v s >>= fun (w, rest) =>
        match skipBlanks rest with
        | c :: more =>
          if c = CodePoint.ofChar '\x7d' then .ok (put acc name w, more)
          else if c = CodePoint.ofChar ',' then members v fuel (put acc name w) (skipBlanks more)
          else .error (.at "Expecting ',' delimiter" (more.length + 1))
        | [] => .error (.at "Expecting ',' delimiter" 0) := by
  have hshape : quote false name ++ CodePoint.ofChar ':' :: s =
      CodePoint.ofChar '"' :: (name.flatMap (escape false) ++ CodePoint.ofChar '"' :: CodePoint.ofChar ':' :: s) := by
    simp [quote_eq]
  have hcolon : isBlank (CodePoint.ofChar ':') = false := by decide
  rw [hshape, members]
  simp only [ne_eq, not_true_eq_false, if_false, string_text _ _ _ _ hf, List.reverse_nil, List.nil_append,
    skipBlanks_cons hcolon, hs, bind, Except.bind, pure, Except.pure]
  rfl

/-- One member that is a text. -/
theorem members_member (acc : List (Text × Json)) (hv : v (quote false m.2 ++ s) = .ok (.text m.2, s))
    (hf : m.1.length < fuel) :
    members v (fuel + 1) acc (member m ++ s) =
      match skipBlanks s with
      | c :: more =>
        if c = CodePoint.ofChar '\x7d' then .ok (put acc m.1 (.text m.2), more)
        else if c = CodePoint.ofChar ',' then members v fuel (put acc m.1 (.text m.2)) (skipBlanks more)
        else .error (.at "Expecting ',' delimiter" (more.length + 1))
      | [] => .error (.at "Expecting ',' delimiter" 0) := by
  have hshape : member m ++ s = quote false m.1 ++ CodePoint.ofChar ':' :: (quote false m.2 ++ s) := by
    simp [member, Text.ofString]
  have hquote : skipBlanks (quote false m.2 ++ s) = quote false m.2 ++ s := skipBlanks_cons (by decide) _
  rw [hshape, members_name acc hquote hf, hv]
  rfl

theorem members_last (acc : List (Text × Json))
    (hv : v (quote false m.2 ++ CodePoint.ofChar '\x7d' :: s) = .ok (.text m.2, CodePoint.ofChar '\x7d' :: s))
    (hf : m.1.length < fuel) :
    members v (fuel + 1) acc (member m ++ CodePoint.ofChar '\x7d' :: s) = .ok (put acc m.1 (.text m.2), s) := by
  rw [members_member acc hv hf, skipBlanks_cons (by decide)]
  simp only [if_true]

theorem members_next (acc : List (Text × Json))
    (hv : v (quote false m.2 ++ CodePoint.ofChar ',' :: s) = .ok (.text m.2, CodePoint.ofChar ',' :: s))
    (hf : m.1.length < fuel) :
    members v (fuel + 1) acc (member m ++ CodePoint.ofChar ',' :: s) =
      members v fuel (put acc m.1 (.text m.2)) (skipBlanks s) := by
  have hmark : CodePoint.ofChar ',' ≠ CodePoint.ofChar '\x7d' := by decide
  rw [members_member acc hv hf, skipBlanks_cons (by decide)]
  simp only [if_neg hmark, if_true]

end Members

/-- The text of members begins with the name of the first one. -/
theorem exists_membersText_cons (m : Text × Text) (ms : List (Text × Text)) :
    ∃ rest, membersText (m :: ms) = quote false m.1 ++ rest := by
  cases ms with
  | nil => exact ⟨":" ++ quote false m.2, by simp [membersText, member]⟩
  | cons m' ms => exact ⟨_, by rw [membersText_cons, member, List.append_assoc, List.append_assoc]⟩

theorem length_lt_member (m : Text × Text) : m.1.length + m.2.length < (member m).length := by
  have h₁ := length_le_flatMap_escape m.1
  have h₂ := length_le_flatMap_escape m.2
  simp only [member, quote_eq, List.length_append, List.length_cons, List.length_nil]
  omega

/-- Each member takes its part of the text. -/
theorem length_le_membersText {m : Text × Text} {ms : List (Text × Text)} (h : m ∈ ms) :
    (member m).length ≤ (membersText ms).length := by
  induction ms with
  | nil => cases h
  | cons n ms ih =>
    cases ms with
    | nil =>
      obtain rfl := List.mem_singleton.mp h
      simp [membersText]
    | cons n' ms =>
      rw [membersText_cons, List.length_append, List.length_cons]
      rcases List.mem_cons.mp h with rfl | h
      · omega
      · have := ih h
        omega

/-- Members that are texts are read in order, as long as no name is written twice. -/
theorem members_texts {v : Text → Except Stop (Json × Text)} {ms : List (Text × Text)} (hms : ms ≠ [])
    (hv : ∀ m ∈ ms, ∀ s, v (quote false m.2 ++ s) = .ok (.text m.2, s)) {fuel : Nat}
    (hf : (membersText ms).length < fuel) {acc : List (Text × Json)} (hnodup : (acc.map (·.1) ++ ms.map (·.1)).Nodup)
    (s : Text) :
    members v fuel acc (membersText ms ++ CodePoint.ofChar '\x7d' :: s) = .ok (acc ++ texts ms, s) := by
  induction ms generalizing fuel acc with
  | nil => exact absurd rfl hms
  | cons m ms ih =>
    obtain ⟨fuel, rfl⟩ := Nat.exists_eq_add_one_of_ne_zero (Nat.ne_of_gt (Nat.zero_lt_of_lt hf))
    have hfresh : m.1 ∉ acc.map (·.1) := fun h =>
      (List.nodup_append.mp hnodup).2.2 m.1 h m.1 (List.mem_map_of_mem List.mem_cons_self) rfl
    have hput : put acc m.1 (.text m.2) = acc ++ texts [m] := put_of_not_mem hfresh _
    have hlen := length_lt_member m
    cases ms with
    | nil =>
      have htext : membersText [m] = member m := by simp [membersText]
      rw [htext] at hf ⊢
      rw [members_last acc (hv m (List.mem_singleton_self m) _) (by omega), hput]
    | cons m' ms =>
      have htail : skipBlanks (membersText (m' :: ms) ++ CodePoint.ofChar '\x7d' :: s) =
          membersText (m' :: ms) ++ CodePoint.ofChar '\x7d' :: s := by
        obtain ⟨rest, hrest⟩ := exists_membersText_cons m' ms
        rw [hrest, quote_eq, List.cons_append, List.cons_append, skipBlanks_cons (by decide)]
      rw [membersText_cons, List.length_append, List.length_cons] at hf
      rw [membersText_cons, List.append_assoc, List.cons_append,
        members_next acc (hv m List.mem_cons_self _) (by omega), htail, hput,
        ih (List.cons_ne_nil _ _) (fun n hn => hv n (List.mem_cons_of_mem _ hn)) (by omega)
          (by simpa [texts] using hnodup)]
      simp [texts]

/-! ## Objects -/

theorem writeMembers_texts (level : Nat) (ms : List (Text × Text)) :
    writeMembers .request level (texts ms) = ms.map member := by
  induction ms with
  | nil => rfl
  | cons m ms ih =>
    have htexts : texts (m :: ms) = (m.1, .text m.2) :: texts ms := rfl
    rw [htexts, writeMembers, ih, write]
    rfl

/-- An object of texts in a request. -/
theorem render_texts (ms : List (Text × Text)) :
    render .request (.object (texts ms)) =
      CodePoint.ofChar '\x7b' :: (membersText ms ++ [CodePoint.ofChar '\x7d']) := by
  rw [render, write, writeMembers_texts]
  cases ms with
  | nil => rfl
  | cons m ms =>
    have hline : ∀ l : List Text, l.map (Layout.request.newline (0 + 1) ++ ·) = l := List.map_id
    rw [Layout.bracket, hline]
    simp [membersText, Layout.newline, Layout.request]

/-- An object that has members, where a value is expected. -/
theorem value_object (limit fuel depth : Nat) (s : Text) :
    value limit fuel (depth + 1) (CodePoint.ofChar '\x7b' :: CodePoint.ofChar '"' :: s) =
      (members (value limit fuel depth) fuel [] (CodePoint.ofChar '"' :: s)).map fun (l, r) => (.object l, r) := by
  have hquote : CodePoint.ofChar '\x7b' ≠ CodePoint.ofChar '"' := by decide
  have hsquare : CodePoint.ofChar '\x7b' ≠ CodePoint.ofChar '[' := by decide
  have hclose : CodePoint.ofChar '"' ≠ CodePoint.ofChar '\x7d' := by decide
  have hskip : skipBlanks (CodePoint.ofChar '"' :: s) = CodePoint.ofChar '"' :: s := skipBlanks_cons (by decide) s
  rw [value.eq_def]
  simp only [if_neg hquote, if_neg hsquare, if_true, hskip, if_neg hclose]

/-- An object of texts where a value is expected. -/
theorem value_texts (limit depth : Nat) {ms : List (Text × Text)} (hnodup : (ms.map (·.1)).Nodup) {fuel : Nat}
    (hf : (membersText ms).length < fuel) :
    value limit fuel (depth + 1) (CodePoint.ofChar '\x7b' :: (membersText ms ++ [CodePoint.ofChar '\x7d'])) =
      .ok (.object (texts ms), []) := by
  cases ms with
  | nil => rfl
  | cons m ms =>
    obtain ⟨rest, hrest⟩ : ∃ rest, membersText (m :: ms) = CodePoint.ofChar '"' :: rest := by
      obtain ⟨rest, hrest⟩ := exists_membersText_cons m ms
      exact ⟨_, hrest⟩
    have hread : members (value limit fuel depth) fuel [] (membersText (m :: ms) ++ [CodePoint.ofChar '\x7d']) =
        .ok (texts (m :: ms), []) := by
      refine members_texts (List.cons_ne_nil m ms) (fun n hn s => value_quote limit depth n.2 s ?_) hf
        (by simpa using hnodup) []
      have h₁ := length_lt_member n
      have h₂ := length_le_membersText hn
      omega
    rw [hrest, List.cons_append] at hread ⊢
    rw [value_object, hread]
    rfl

/-- **An object of texts is read as it was written**, if no name is written twice. -/
theorem read_render_texts {limits : Limits} (hdepth : limits.depth ≠ 0) {ms : List (Text × Text)}
    (hnodup : (ms.map (·.1)).Nodup) :
    read limits (render .request (.object (texts ms))) = .ok (.object (texts ms)) := by
  obtain ⟨depth, hdepth⟩ := Nat.exists_eq_add_one_of_ne_zero hdepth
  have hlen : (membersText ms).length < (render .request (.object (texts ms))).length + 1 := by
    rw [render_texts, List.length_cons, List.length_append]
    omega
  have hvalue := value_texts limits.digits depth hnodup hlen
  have hskip : skipBlanks (render .request (.object (texts ms))) = render .request (.object (texts ms)) := by
    rw [render_texts, skipBlanks_cons (by decide)]
  rw [← render_texts, ← hdepth] at hvalue
  rw [read, hskip, hvalue]
  rfl

end RemoteSigning.Json
