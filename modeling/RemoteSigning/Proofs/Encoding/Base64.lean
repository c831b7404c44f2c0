import RemoteSigning.Encoding.Base64

/-!
# Base64 loses nothing

Bytes come back from their letters, whichever way these are read. What follows is an induction over the groups of three
bytes; a reader takes the four letters of a group and has then the three bytes.

- `readFrom_encode`: a reader between two groups goes on with the bytes that were written;
- `decode_encode`: the bytes come back;
- `readFrom_lenient_filter`: the lenient reader sees letters and padding only.
-/

namespace RemoteSigning.Base64

/-! ## Letters -/

theorem letter_ne_pad {n : Nat} (h : n < 64) : letter n ≠ pad := by
  intro he
  have hv := value?_letter h
  rw [he] at hv
  cases hv

/-- A reader that has seen no padding takes a letter. -/
theorem readFrom_letter (s : Strictness) {p : Progress} (hp : p.padded = false) {n : Nat} (h : n < 64) (rest : Text) :
    readFrom s p (letter n :: rest) = readFrom s (p.push n) rest := by
  rw [readFrom, if_neg (letter_ne_pad h), value?_letter h]
  simp [hp]

theorem padded_push (p : Progress) (n : Nat) : (p.push n).padded = p.padded := by
  unfold Progress.push
  split <;> rfl

/-! ## Groups -/

theorem toUInt8_eq {n : Nat} {b : UInt8} (h : n = b.toNat) : n.toUInt8 = b := by
  subst h
  exact UInt8.ofNat_toNat

/-- Four values stand for the three bytes that they were made of. -/
theorem group_three (a b c : UInt8) :
    group [a.toNat / 4, a.toNat % 4 * 16 + b.toNat / 16, b.toNat % 16 * 4 + c.toNat / 64, c.toNat % 64] =
      [a, b, c] := by
  have ha := a.toNat_lt
  have hb := b.toNat_lt
  have hc := c.toNat_lt
  simp only [group, List.cons.injEq, and_true]
  exact ⟨toUInt8_eq (by omega), toUInt8_eq (by omega), toUInt8_eq (by omega)⟩

theorem group_two (a b : UInt8) :
    group [a.toNat / 4, a.toNat % 4 * 16 + b.toNat / 16, b.toNat % 16 * 4] = [a, b] := by
  have ha := a.toNat_lt
  have hb := b.toNat_lt
  simp only [group, List.cons.injEq, and_true]
  exact ⟨toUInt8_eq (by omega), toUInt8_eq (by omega)⟩

theorem group_one (a : UInt8) : group [a.toNat / 4, a.toNat % 4 * 16] = [a] := by
  have ha := a.toNat_lt
  simp only [group, List.cons.injEq, and_true]
  exact toUInt8_eq (by omega)

/-! ## Reading what was written -/

/-- A reader between two groups goes on with the bytes that were written. -/
theorem readFrom_encode (s : Strictness) (bs : Bytes) {p : Progress} (hbegun : p.begun = []) (hp : p.padded = false) :
    readFrom s p (encode bs) = .ok (p.bytes.reverse ++ bs) := by
  fun_induction encode bs generalizing p with
  | case1 a b c rest ih =>
    have ha := a.toNat_lt
    have hb := b.toNat_lt
    have hc := c.toNat_lt
    rw [readFrom_letter s hp (by omega), readFrom_letter s (by rw [padded_push, hp]) (by omega),
      readFrom_letter s (by rw [padded_push, padded_push, hp]) (by omega),
      readFrom_letter s (by rw [padded_push, padded_push, padded_push, hp]) (by omega)]
    have hpush : (((p.push (a.toNat / 4)).push (a.toNat % 4 * 16 + b.toNat / 16)).push
        (b.toNat % 16 * 4 + c.toNat / 64)).push (c.toNat % 64) =
          { p with pads := 0, groups := p.groups + 1, bytes := [a, b, c].reverse ++ p.bytes } := by
      simp [Progress.push, hbegun, group_three]
    rw [hpush, ih (by exact hbegun) (by exact hp)]
    simp
  | case2 a b =>
    have ha := a.toNat_lt
    have hb := b.toNat_lt
    rw [readFrom_letter s hp (by omega), readFrom_letter s (by rw [padded_push, hp]) (by omega),
      readFrom_letter s (by rw [padded_push, padded_push, hp]) (by omega)]
    have hpush : ((p.push (a.toNat / 4)).push (a.toNat % 4 * 16 + b.toNat / 16)).push (b.toNat % 16 * 4) =
        { p with begun := [a.toNat / 4, a.toNat % 4 * 16 + b.toNat / 16, b.toNat % 16 * 4], pads := 0 } := by
      simp [Progress.push, hbegun]
    rw [hpush]
    simp [readFrom, Progress.result, group_two]
  | case3 a =>
    have ha := a.toNat_lt
    rw [readFrom_letter s hp (by omega), readFrom_letter s (by rw [padded_push, hp]) (by omega)]
    have hpush : (p.push (a.toNat / 4)).push (a.toNat % 4 * 16) =
        { p with begun := [a.toNat / 4, a.toNat % 4 * 16], pads := 0 } := by
      simp [Progress.push, hbegun]
    rw [hpush]
    simp [readFrom, Progress.result, group_one]
  | case4 => simp [readFrom, hbegun, Progress.result, group]

/-- What is written are letters, and padding. -/
theorem eq_of_mem_encode {bs : Bytes} {c : CodePoint} (h : c ∈ encode bs) : c = pad ∨ ∃ n, n < 64 ∧ c = letter n := by
  fun_induction encode bs with
  | case1 a b d rest ih =>
    have ha := a.toNat_lt
    have hb := b.toNat_lt
    have hd := d.toNat_lt
    simp only [List.mem_cons] at h
    rcases h with rfl | rfl | rfl | rfl | h
    · exact .inr ⟨_, by omega, rfl⟩
    · exact .inr ⟨_, by omega, rfl⟩
    · exact .inr ⟨_, by omega, rfl⟩
    · exact .inr ⟨_, by omega, rfl⟩
    · exact ih h
  | case2 a b =>
    have ha := a.toNat_lt
    have hb := b.toNat_lt
    simp only [List.mem_cons, List.not_mem_nil, or_false] at h
    rcases h with rfl | rfl | rfl | rfl
    · exact .inr ⟨_, by omega, rfl⟩
    · exact .inr ⟨_, by omega, rfl⟩
    · exact .inr ⟨_, by omega, rfl⟩
    · exact .inl rfl
  | case3 a =>
    have ha := a.toNat_lt
    simp only [List.mem_cons, List.not_mem_nil, or_false] at h
    rcases h with rfl | rfl | rfl | rfl
    · exact .inr ⟨_, by omega, rfl⟩
    · exact .inr ⟨_, by omega, rfl⟩
    · exact .inl rfl
    · exact .inl rfl
  | case4 => cases h

/-- The first thing that is written is a letter. -/
theorem exists_encode_cons (a : UInt8) (bs : Bytes) : ∃ t, encode (a :: bs) = letter (a.toNat / 4) :: t := by
  rcases bs with _ | ⟨b, _ | ⟨c, rest⟩⟩
  · exact ⟨_, rfl⟩
  · exact ⟨_, rfl⟩
  · exact ⟨_, rfl⟩

theorem encode_ne_nil {bs : Bytes} (h : bs ≠ []) : encode bs ≠ [] := by
  obtain ⟨a, rest, rfl⟩ := List.exists_cons_of_ne_nil h
  obtain ⟨t, ht⟩ := exists_encode_cons a rest
  rw [ht]
  exact List.cons_ne_nil _ _

/-- No text of letters begins with padding. -/
theorem head?_encode_ne_pad (bs : Bytes) : (encode bs).head? ≠ some pad := by
  cases bs with
  | nil => simp [encode]
  | cons a rest =>
    obtain ⟨t, ht⟩ := exists_encode_cons a rest
    have ha := a.toNat_lt
    rw [ht]
    exact fun h => letter_ne_pad (by omega) (Option.some.inj h)

/-- **Bytes come back from their letters**, read strictly or leniently. -/
theorem decode_encode (s : Strictness) (bs : Bytes) : decode s (encode bs) = .ok bs := by
  have hhead : decide ((encode bs).head? = some pad) = false := decide_eq_false (head?_encode_ne_pad bs)
  rw [decode, hhead, Bool.and_false, if_neg Bool.false_ne_true]
  exact readFrom_encode s bs rfl rfl

/-! ## The lenient reader -/

/-- A letter or padding. -/
def isMeant (c : CodePoint) : Bool := c = pad || (value? c).isSome

/-- The lenient reader sees letters and padding only. -/
theorem readFrom_lenient_filter (p : Progress) (t : Text) :
    readFrom .lenient p (t.filter isMeant) = readFrom .lenient p t := by
  induction t generalizing p with
  | nil => rfl
  | cons c t ih =>
    by_cases hc : c = pad
    · have hm : isMeant c = true := by simp [isMeant, hc]
      rw [List.filter_cons_of_pos hm, readFrom, readFrom, if_pos hc, if_pos hc]
      simp [ih]
    · cases hv : value? c with
      | none =>
        have hm : isMeant c ≠ true := by simp [isMeant, hc, hv]
        rw [List.filter_cons_of_neg hm, ih, readFrom, if_neg hc, hv]
        simp
      | some v =>
        have hm : isMeant c = true := by simp [isMeant, hv]
        rw [List.filter_cons_of_pos hm, readFrom, readFrom, if_neg hc, if_neg hc, hv]
        simp [ih]

/-- All that is written is meant. -/
theorem isMeant_of_mem_encode {bs : Bytes} {c : CodePoint} (h : c ∈ encode bs) : isMeant c = true := by
  rcases eq_of_mem_encode h with rfl | ⟨n, hn, rfl⟩
  · rfl
  · simp [isMeant, value?_letter hn]

/-- All that is written is ASCII. -/
theorem isAscii_of_mem_encode {bs : Bytes} {c : CodePoint} (h : c ∈ encode bs) : c.isAscii = true := by
  rcases eq_of_mem_encode h with rfl | ⟨n, hn, rfl⟩
  · rfl
  · have all : ∀ n : Fin 64, (letter n.val).isAscii = true := by decide
    exact all ⟨n, hn⟩

end RemoteSigning.Base64
