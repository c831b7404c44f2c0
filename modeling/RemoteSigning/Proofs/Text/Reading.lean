import RemoteSigning.Proofs.Text.Coding
import RemoteSigning.Text.Newline

/-!
# What is read is what was written

Only the shortest form of a code point is read as UTF-8, and no surrogate. So bytes that are read as a text are the
UTF-8 form of that text, and of no other. Line ends are another matter: a text is changed by making them alike exactly
if it has a carriage return.

- `heads_of_head`: what is found at the head of an input is a code point with its form;
- `decode_eq_ok_iff`: bytes are read as a text exactly if they are its form;
- `Text.unifyNewlines_eq_self_iff`: the texts that keep their line ends.
-/

namespace RemoteSigning

namespace CodePoint

theorem val_ofNat {n : Nat} (h : n < 0x110000) : (ofNat n).val = n := by
  rw [ofNat, dif_pos h]

theorem isSurrogate_eq_false {c : CodePoint} (h : c.val < 0xD800 ∨ 0xDFFF < c.val) : c.isSurrogate = false := by
  simp only [isSurrogate, Bool.and_eq_false_iff, decide_eq_false_iff_not]
  omega

end CodePoint

namespace Utf8

/-! ## Forms from their digits -/

theorem encodePoint_two {a k : Nat} (ha : 2 ≤ a) (ha' : a < 32) (hk : k < 64) :
    encodePoint (CodePoint.ofNat (a * 64 + k)) = [(0xC0 + a).toUInt8, (0x80 + k).toUInt8] := by
  have hhigh : (a * 64 + k) / 64 = a := by omega
  have hlow : (a * 64 + k) % 64 = k := by omega
  rw [encodePoint, CodePoint.val_ofNat (by omega), if_neg (by omega), if_pos (by omega), hhigh, hlow]

theorem encodePoint_three {a k j : Nat} (ha : a < 16) (hk : k < 64) (hj : j < 64) (hlong : a = 0 → 32 ≤ k) :
    encodePoint (CodePoint.ofNat ((a * 64 + k) * 64 + j)) =
      [(0xE0 + a).toUInt8, (0x80 + k).toUInt8, (0x80 + j).toUInt8] := by
  have hhigh : ((a * 64 + k) * 64 + j) / 4096 = a := by omega
  have hmid : ((a * 64 + k) * 64 + j) / 64 % 64 = k := by omega
  have hlow : ((a * 64 + k) * 64 + j) % 64 = j := by omega
  rw [encodePoint, CodePoint.val_ofNat (by omega), if_neg (by omega), if_neg (by omega), if_pos (by omega), hhigh, hmid, hlow]

theorem encodePoint_four {a k j i : Nat} (hk : k < 64) (hj : j < 64) (hi : i < 64) (hlong : a = 0 → 16 ≤ k)
    (hrange : ((a * 64 + k) * 64 + j) * 64 + i < 0x110000) :
    encodePoint (CodePoint.ofNat (((a * 64 + k) * 64 + j) * 64 + i)) =
      [(0xF0 + a).toUInt8, (0x80 + k).toUInt8, (0x80 + j).toUInt8, (0x80 + i).toUInt8] := by
  have hhigh : (((a * 64 + k) * 64 + j) * 64 + i) / 262144 = a := by omega
  have hupper : (((a * 64 + k) * 64 + j) * 64 + i) / 4096 % 64 = k := by omega
  have hmid : (((a * 64 + k) * 64 + j) * 64 + i) / 64 % 64 = j := by omega
  have hlow : (((a * 64 + k) * 64 + j) * 64 + i) % 64 = i := by omega
  rw [encodePoint, CodePoint.val_ofNat hrange, if_neg (by omega), if_neg (by omega), if_neg (by omega), hhigh, hupper, hmid, hlow]

/-! ## The head of an input -/

theorem toUInt8_toNat (b : UInt8) : b.toNat.toUInt8 = b := by
  rw [Nat.toUInt8, UInt8.ofNat_toNat]

theorem toUInt8_add_sub {b : UInt8} {n : Nat} (h : n ≤ b.toNat) : (n + (b.toNat - n)).toUInt8 = b := by
  rw [Nat.add_sub_cancel' h, toUInt8_toNat]

/-- The byte that is taken is one that may follow. -/
theorem exists_of_tails {n low high seen bits m : Nat} {rest : Bytes} {c : CodePoint} (hlow : 0x80 ≤ low)
    (h : tails (n + 1) low high seen bits rest = .point c m) :
    ∃ k rest', rest = (0x80 + k).toUInt8 :: rest' ∧ low ≤ 0x80 + k ∧ 0x80 + k ≤ high ∧
      tails n 0x80 0xBF (seen + 1) (bits * 64 + k) rest' = .point c m := by
  cases rest with
  | nil => cases h
  | cons b rest =>
    rw [tails] at h
    split at h
    next hb =>
      refine ⟨b.toNat - 0x80, rest, ?_, by omega, by omega, h⟩
      rw [toUInt8_add_sub (by omega)]
    · cases h

theorem of_tails_zero {low high seen bits m : Nat} {rest : Bytes} {c : CodePoint}
    (h : tails 0 low high seen bits rest = .point c m) : c = CodePoint.ofNat bits ∧ m = seen - 1 := by
  rw [tails_zero] at h
  obtain ⟨rfl, rfl⟩ := Decoder.Head.point.inj h
  exact ⟨rfl, rfl⟩

/-- A code point that is no surrogate has its form at the head of an input: a first byte and so many more. -/
def Heads (c : CodePoint) (b : UInt8) (rest : Bytes) (more : Nat) : Prop :=
  c.isSurrogate = false ∧ ∃ tail rest', rest = tail ++ rest' ∧ tail.length = more ∧ encodePoint c = b :: tail

section Heads

variable {b : UInt8} {rest : Bytes} {c : CodePoint} {n : Nat}

theorem heads_one (hb : b.toNat < 0x80) (h : tails 0 0x80 0xBF 1 b.toNat rest = .point c n) : Heads c b rest n := by
  obtain ⟨rfl, rfl⟩ := of_tails_zero h
  have hval : (CodePoint.ofNat b.toNat).val = b.toNat := CodePoint.val_ofNat (by omega)
  refine ⟨CodePoint.isSurrogate_eq_false (by omega), [], rest, rfl, rfl, ?_⟩
  rw [encodePoint, hval, if_pos hb, toUInt8_toNat]

theorem heads_two (hb : 0xC2 ≤ b.toNat) (hb' : b.toNat < 0xE0)
    (h : tails 1 0x80 0xBF 1 (b.toNat - 0xC0) rest = .point c n) : Heads c b rest n := by
  obtain ⟨k, rest, rfl, hk, hk', h⟩ := exists_of_tails (by decide) h
  obtain ⟨rfl, rfl⟩ := of_tails_zero h
  have hval : (CodePoint.ofNat ((b.toNat - 0xC0) * 64 + k)).val = _ := CodePoint.val_ofNat (by omega)
  refine ⟨CodePoint.isSurrogate_eq_false (by omega), [(0x80 + k).toUInt8], rest, rfl, rfl, ?_⟩
  rw [encodePoint_two (by omega) (by omega) (by omega), toUInt8_add_sub (by omega)]

/-- The first byte bounds the second, so that the form is not too long and stands for no surrogate. -/
theorem heads_three {low high : Nat} (hb : 0xE0 ≤ b.toNat) (hb' : b.toNat < 0xF0) (hlow : 0x80 ≤ low)
    (hhigh : high ≤ 0xBF) (hlong : b.toNat = 0xE0 → 0xA0 ≤ low) (hsurrogate : b.toNat = 0xED → high ≤ 0x9F)
    (h : tails 2 low high 1 (b.toNat - 0xE0) rest = .point c n) : Heads c b rest n := by
  obtain ⟨k, rest, rfl, hk, hk', h⟩ := exists_of_tails hlow h
  obtain ⟨j, rest, rfl, hj, hj', h⟩ := exists_of_tails (by decide) h
  obtain ⟨rfl, rfl⟩ := of_tails_zero h
  have hval : (CodePoint.ofNat (((b.toNat - 0xE0) * 64 + k) * 64 + j)).val = _ := CodePoint.val_ofNat (by omega)
  refine ⟨CodePoint.isSurrogate_eq_false (by omega), [(0x80 + k).toUInt8, (0x80 + j).toUInt8], rest, rfl, rfl, ?_⟩
  rw [encodePoint_three (by omega) (by omega) (by omega) (by omega), toUInt8_add_sub hb]

/-- The first byte bounds the second, so that the form is not too long and stands for a code point. -/
theorem heads_four {low high : Nat} (hb : 0xF0 ≤ b.toNat) (hb' : b.toNat ≤ 0xF4) (hlow : 0x80 ≤ low)
    (hhigh : high ≤ 0xBF) (hlong : b.toNat = 0xF0 → 0x90 ≤ low) (hrange : b.toNat = 0xF4 → high ≤ 0x8F)
    (h : tails 3 low high 1 (b.toNat - 0xF0) rest = .point c n) : Heads c b rest n := by
  obtain ⟨k, rest, rfl, hk, hk', h⟩ := exists_of_tails hlow h
  obtain ⟨j, rest, rfl, hj, hj', h⟩ := exists_of_tails (by decide) h
  obtain ⟨i, rest, rfl, hi, hi', h⟩ := exists_of_tails (by decide) h
  obtain ⟨rfl, rfl⟩ := of_tails_zero h
  have hpoint : (((b.toNat - 0xF0) * 64 + k) * 64 + j) * 64 + i < 0x110000 := by omega
  have hval := CodePoint.val_ofNat hpoint
  refine ⟨CodePoint.isSurrogate_eq_false (by omega), [(0x80 + k).toUInt8, (0x80 + j).toUInt8, (0x80 + i).toUInt8], rest,
    rfl, rfl, ?_⟩
  rw [encodePoint_four (by omega) (by omega) (by omega) (by omega) hpoint, toUInt8_add_sub hb]

/-- What is found at the head of an input is a code point with its form. -/
theorem heads_of_head (h : head false b rest = .point c n) : Heads c b rest n := by
  simp only [head, Bool.false_and, Bool.false_eq_true, if_false] at h
  -- The cases are the lengths that a first byte announces.
  by_cases hone : b.toNat < 0x80
  · rw [lead?, if_pos hone] at h
    exact heads_one hone h
  by_cases hnone : b.toNat < 0xC2
  · rw [lead?, if_neg hone, if_pos hnone] at h
    cases h
  by_cases htwo : b.toNat < 0xE0
  · rw [lead?_two (by omega) htwo] at h
    exact heads_two (by omega) htwo h
  by_cases hthree : b.toNat < 0xF0
  · rw [lead?_three (by omega) hthree] at h
    refine heads_three (by omega) hthree ?_ ?_ (fun he => ?_) (fun he => ?_) h
    · dsimp only; split <;> decide
    · dsimp only; split <;> decide
    · dsimp only; rw [if_pos he]
    · dsimp only; rw [if_pos he]
  by_cases hfour : b.toNat ≤ 0xF4
  · rw [lead?_four (by omega) hfour] at h
    refine heads_four (by omega) hfour ?_ ?_ (fun he => ?_) (fun he => ?_) h
    · dsimp only; split <;> decide
    · dsimp only; split <;> decide
    · dsimp only; rw [if_pos he]
    · dsimp only; rw [if_pos he]
  · have hlead : lead? b.toNat = none := by
      rw [lead?, if_neg hone, if_neg hnone, if_neg htwo, if_neg (by omega), if_neg (by omega), if_neg hthree,
        if_neg (by omega), if_neg (by omega), if_neg (by omega)]
    rw [hlead] at h
    cases h

end Heads

/-! ## Whole inputs -/

/-- What is read is appended to what has been read, and its form is the input. -/
theorem encodeAll_of_loop {fuel : Nat} {input : Bytes} (hf : input.length ≤ fuel) {start : Nat} {acc t : Text}
    (h : (decoder false).loop fuel start acc input = .ok t) :
    ∃ t', t = acc.reverse ++ t' ∧ t'.isScalar = true ∧ encodeAll t' = input := by
  induction fuel generalizing input start acc with
  | zero =>
    obtain rfl := List.length_eq_zero_iff.mp (Nat.le_zero.mp hf)
    obtain rfl := Except.ok.inj h
    exact ⟨[], by simp, rfl, rfl⟩
  | succ fuel ih =>
    cases input with
    | nil =>
      obtain rfl := Except.ok.inj h
      exact ⟨[], by simp, rfl, rfl⟩
    | cons b rest =>
      rw [Decoder.loop] at h
      split at h
      next c n hhead =>
        obtain ⟨hc, tail, rest', rfl, rfl, hpoint⟩ := heads_of_head hhead
        rw [List.drop_left] at h
        have hlength : rest'.length ≤ fuel := by
          simp only [List.length_cons, List.length_append] at hf
          omega
        obtain ⟨t', rfl, ht', hinput⟩ := ih hlength h
        refine ⟨c :: t', by simp, Text.isScalar_cons.mpr ⟨hc, ht'⟩, ?_⟩
        rw [encodeAll, List.flatMap_cons, ← encodeAll, hinput, hpoint]
        rfl
      · cases h

/-- **Bytes are read as a text** exactly if they are its UTF-8 form. -/
theorem decode_eq_ok_iff {input : Bytes} {t : Text} :
    decode input = .ok t ↔ t.isScalar = true ∧ encodeAll t = input := by
  constructor
  · intro h
    obtain ⟨t', rfl, ht', hinput⟩ := encodeAll_of_loop (Nat.le_refl _) h
    exact ⟨ht', hinput⟩
  · rintro ⟨ht, rfl⟩
    exact decode_encodeAll false ht

/-- A text that was read is written as the bytes that it was read from. -/
theorem encode_of_decode {input : Bytes} {t : Text} (h : decode input = .ok t) : encode t = .ok input := by
  obtain ⟨ht, rfl⟩ := decode_eq_ok_iff.mp h
  exact encode_of_isScalar ht

end Utf8

/-! ## Line ends -/

namespace Text

theorem return_not_mem_unifyFrom (afterReturn : Bool) (t : Text) : CodePoint.ofChar '\r' ∉ unifyFrom afterReturn t := by
  induction t generalizing afterReturn with
  | nil => exact List.not_mem_nil
  | cons c t ih =>
    rw [unifyFrom]
    split
    · exact List.not_mem_cons_of_ne_of_not_mem (by decide) (ih _)
    next hc =>
      split
      · exact ih _
      · exact List.not_mem_cons_of_ne_of_not_mem (Ne.symm hc) (ih _)

/-- The texts that keep their line ends are those without carriage returns. -/
theorem unifyNewlines_eq_self_iff {t : Text} : t.unifyNewlines = t ↔ CodePoint.ofChar '\r' ∉ t := by
  refine ⟨fun h => ?_, unifyNewlines_of_not_mem⟩
  rw [← h]
  exact return_not_mem_unifyFrom false t

/-- What is made of a text is one of its code points, or a line feed. -/
theorem mem_of_mem_unifyFrom {afterReturn : Bool} {t : Text} {c : CodePoint} (h : c ∈ unifyFrom afterReturn t) :
    c ∈ t ∨ c = CodePoint.ofChar '\n' := by
  induction t generalizing afterReturn with
  | nil => cases h
  | cons d t ih =>
    have htail {b : Bool} (h : c ∈ unifyFrom b t) : c ∈ d :: t ∨ c = CodePoint.ofChar '\n' :=
      (ih h).imp_left (List.mem_cons_of_mem d)
    rw [unifyFrom] at h
    split at h
    · rcases List.mem_cons.mp h with rfl | h
      · exact .inr rfl
      · exact htail h
    · split at h
      · exact htail h
      · rcases List.mem_cons.mp h with rfl | h
        · exact .inl List.mem_cons_self
        · exact htail h

theorem isScalar_unifyNewlines {t : Text} (h : t.isScalar = true) : t.unifyNewlines.isScalar = true := by
  refine isScalar_iff.mpr fun c hc => ?_
  rcases mem_of_mem_unifyFrom hc with hc | rfl
  · exact isScalar_iff.mp h c hc
  · decide

end Text

end RemoteSigning
