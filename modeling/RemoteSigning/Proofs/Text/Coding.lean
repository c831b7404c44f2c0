import Mathlib.Data.List.TakeWhile
import Mathlib.Tactic.IntervalCases
import RemoteSigning.Text.Detect

/-!
# UTF-8 loses nothing

A code point that is no surrogate is written as one to four bytes, and these are read as that code point wherever they
stand. What follows is an induction over the text, in which the decoder goes on behind the bytes of each code point.

- `firstFault?_eq_none`: a text in which nothing is wrong has no fault;
- `head_encodePoint`: what is found at the head of the bytes of a code point;
- `loop_encodeAll`: a decoder goes through the bytes of a text and has that text;
- `decode_encodeAll`: a text comes back from its UTF-8 form;
- `decodeDetected_encodeAll`: it does so also where the encoding is told from the first bytes.
-/

namespace RemoteSigning

/-! ## Texts without surrogates -/

theorem CodePoint.isSurrogate_of_isAscii {c : CodePoint} (h : c.isAscii = true) : c.isSurrogate = false := by
  have hc : c.val < 0x80 := of_decide_eq_true h
  simp only [isSurrogate, Bool.and_eq_false_iff, decide_eq_false_iff_not]
  omega

theorem Text.isScalar_iff {t : Text} : t.isScalar = true ↔ ∀ c ∈ t, c.isSurrogate = false := by
  simp [isScalar]

theorem Text.isScalar_of_isAscii {t : Text} (h : t.isAscii = true) : t.isScalar = true :=
  isScalar_iff.mpr fun c hc => CodePoint.isSurrogate_of_isAscii (List.all_eq_true.mp h c hc)

theorem Text.isScalar_append {s t : Text} : (s ++ t).isScalar = true ↔ s.isScalar = true ∧ t.isScalar = true := by
  simp [isScalar]

theorem Text.isScalar_cons {c : CodePoint} {t : Text} :
    Text.isScalar (c :: t) = true ↔ c.isSurrogate = false ∧ t.isScalar = true := by
  simp [isScalar]

/-- Nothing is at fault in a text of which every code point is right. -/
theorem Text.firstFault?_eq_none {codec reason : String} {bad : CodePoint → Bool} {t : Text}
    (h : ∀ c ∈ t, bad c = false) : t.firstFault? codec reason bad = none := by
  have hall : t.takeWhile (! bad ·) = t := List.takeWhile_eq_self_iff.mpr fun c hc => by rw [h c hc]; rfl
  simp only [Text.firstFault?, hall, List.drop_length]

namespace Utf8

/-! ## The bytes of a code point -/

theorem toNat_toUInt8 {n : Nat} (h : n < 256) : n.toUInt8.toNat = n := by
  rw [Nat.toUInt8, UInt8.toNat_ofNat']
  exact Nat.mod_eq_of_lt h

theorem lead?_two {b : Nat} (hb : 0xC2 ≤ b) (hb' : b < 0xE0) : lead? b = some ⟨1, 0x80, 0xBF, b - 0xC0⟩ := by
  rw [lead?, if_neg (by omega), if_neg (by omega), if_pos hb']

theorem lead?_three {b : Nat} (hb : 0xE0 ≤ b) (hb' : b < 0xF0) :
    lead? b = some ⟨2, if b = 0xE0 then 0xA0 else 0x80, if b = 0xED then 0x9F else 0xBF, b - 0xE0⟩ := by
  interval_cases b <;> rfl

theorem lead?_four {b : Nat} (hb : 0xF0 ≤ b) (hb' : b ≤ 0xF4) :
    lead? b = some ⟨3, if b = 0xF0 then 0x90 else 0x80, if b = 0xF4 then 0x8F else 0xBF, b - 0xF0⟩ := by
  interval_cases b <;> rfl

/-- A byte that may follow is taken. -/
theorem tails_cons {n low high seen bits m : Nat} (hlow : low ≤ 0x80 + m) (hhigh : 0x80 + m ≤ high) (hm : m < 64)
    (rest : Bytes) :
    tails (n + 1) low high seen bits ((0x80 + m).toUInt8 :: rest) =
      tails n 0x80 0xBF (seen + 1) (bits * 64 + m) rest := by
  have hb : (0x80 + m).toUInt8.toNat = 0x80 + m := toNat_toUInt8 (by omega)
  rw [tails, hb, if_pos ⟨hlow, hhigh⟩, Nat.add_sub_cancel_left]

theorem tails_zero (low high seen bits : Nat) (rest : Bytes) :
    tails 0 low high seen bits rest = .point (CodePoint.ofNat bits) (seen - 1) := by
  rw [tails]

theorem ofNat_eq {n : Nat} {c : CodePoint} (h : n = c.val) : CodePoint.ofNat n = c := by
  subst h
  rw [CodePoint.ofNat, dif_pos c.isLt]

/-- The three bytes of a code point that is no surrogate are not read as one. -/
theorem surrogate?_eq_none {surrogates : Bool} {n : Nat} (hn : n < 0x10000) (hc : n < 0xD800 ∨ 0xDFFF < n)
    (rest : Bytes) :
    (if surrogates && (0xE0 + n / 4096).toUInt8 == 0xED then surrogate? ((0x80 + n / 64 % 64).toUInt8 :: rest)
      else none) = none := by
  split
  next h =>
    have hlead : (0xE0 + n / 4096).toUInt8 = 0xED := by simpa using (Bool.and_eq_true_iff.mp h).2
    have hlead' : 0xE0 + n / 4096 = 0xED := by
      have := congrArg UInt8.toNat hlead
      rwa [toNat_toUInt8 (by omega)] at this
    cases rest with
    | nil => rfl
    | cons d rest =>
      rw [surrogate?, toNat_toUInt8 (by omega), if_neg (by omega)]
  · rfl

/-- What is found at the head of the bytes of a code point. -/
theorem head_encodePoint (surrogates : Bool) {c : CodePoint} (hc : c.isSurrogate = false) (rest : Bytes) :
    ∃ b tail, encodePoint c = b :: tail ∧ head surrogates b (tail ++ rest) = .point c tail.length := by
  have hlt := c.isLt
  have hsur : c.val < 0xD800 ∨ 0xDFFF < c.val := by
    simp only [CodePoint.isSurrogate, Bool.and_eq_false_iff, decide_eq_false_iff_not] at hc
    omega
  have other {b : UInt8} (hb : b.toNat ≠ 0xED) (tail : Bytes) :
      (if surrogates && b == 0xED then surrogate? tail else none) = none := by
    have hne : (b == 0xED) = false := beq_eq_false_iff_ne.mpr fun h => hb (congrArg UInt8.toNat h)
    rw [hne, Bool.and_false, if_neg Bool.false_ne_true]
  unfold encodePoint
  dsimp only
  split
  next h =>
    have hb : c.val.toUInt8.toNat = c.val := toNat_toUInt8 (by omega)
    refine ⟨_, [], rfl, ?_⟩
    rw [head, other (by omega), hb, lead?, if_pos h]
    dsimp only
    rw [tails_zero, ofNat_eq rfl]
    rfl
  split
  next _ h =>
    have hb : (0xC0 + c.val / 64).toUInt8.toNat = 0xC0 + c.val / 64 := toNat_toUInt8 (by omega)
    refine ⟨_, _, rfl, ?_⟩
    rw [head, other (by omega), hb, lead?_two (by omega) (by omega)]
    dsimp only
    rw [List.cons_append, tails_cons (by omega) (by omega) (by omega), tails_zero, ofNat_eq (c := c) (by omega)]
    rfl
  split
  next _ _ h =>
    have hb : (0xE0 + c.val / 4096).toUInt8.toNat = 0xE0 + c.val / 4096 := toNat_toUInt8 (by omega)
    refine ⟨_, _, rfl, ?_⟩
    rw [head, List.cons_append, surrogate?_eq_none h hsur, hb, lead?_three (by omega) (by omega)]
    dsimp only
    rw [tails_cons (by split <;> omega) (by split <;> omega) (by omega), List.cons_append,
      tails_cons (by omega) (by omega) (by omega), tails_zero, ofNat_eq (c := c) (by omega)]
    rfl
  next =>
    have hb : (0xF0 + c.val / 262144).toUInt8.toNat = 0xF0 + c.val / 262144 := toNat_toUInt8 (by omega)
    refine ⟨_, _, rfl, ?_⟩
    rw [head, other (by omega), hb, lead?_four (by omega) (by omega)]
    dsimp only
    rw [List.cons_append, tails_cons (by split <;> omega) (by split <;> omega) (by omega), List.cons_append,
      tails_cons (by omega) (by omega) (by omega), List.cons_append, tails_cons (by omega) (by omega) (by omega),
      tails_zero, ofNat_eq (c := c) (by omega)]
    rfl

/-! ## The bytes of a text -/

/-- A decoder goes through the bytes of a text and has that text. -/
theorem loop_encodeAll (surrogates : Bool) {t : Text} (ht : t.isScalar = true) {fuel : Nat} (hf : t.length ≤ fuel)
    (start : Nat) (acc : Text) : (decoder surrogates).loop fuel start acc (encodeAll t) = .ok (acc.reverse ++ t) := by
  induction t generalizing fuel start acc with
  | nil => cases fuel <;> simp [encodeAll, Decoder.loop]
  | cons c t ih =>
    obtain ⟨hc, ht⟩ : c.isSurrogate = false ∧ Text.isScalar t = true := by simpa [Text.isScalar] using ht
    obtain ⟨b, tail, hb, hhead⟩ := head_encodePoint surrogates hc (encodeAll t)
    have hbytes : encodeAll (c :: t) = b :: (tail ++ encodeAll t) := by
      rw [encodeAll, List.flatMap_cons, hb]
      rfl
    cases fuel with
    | zero => simp at hf
    | succ fuel =>
      have hhead' : (decoder surrogates).head b (tail ++ encodeAll t) = .point c tail.length := hhead
      rw [hbytes, Decoder.loop, hhead']
      dsimp only
      rw [List.drop_left, ih ht (Nat.le_of_succ_le_succ hf)]
      simp

theorem length_le_encodeAll (t : Text) : t.length ≤ (encodeAll t).length := by
  induction t with
  | nil => exact Nat.le_refl _
  | cons c t ih =>
    have hc : 1 ≤ (encodePoint c).length := by
      unfold encodePoint
      dsimp only
      split
      · simp
      · split
        · simp
        · split <;> simp
    rw [encodeAll, List.flatMap_cons, List.length_append, List.length_cons]
    rw [encodeAll] at ih
    omega

/-- A text without surrogates has a UTF-8 form. -/
theorem encode_of_isScalar {t : Text} (ht : t.isScalar = true) : encode t = .ok (encodeAll t) := by
  have hfault : t.firstFault? "utf-8" "surrogates not allowed" CodePoint.isSurrogate = none :=
    Text.firstFault?_eq_none fun c hc => by simpa using List.all_eq_true.mp ht c hc
  rw [encode, hfault]

/-- **A text comes back from its UTF-8 form.** -/
theorem decode_encodeAll (surrogates : Bool) {t : Text} (ht : t.isScalar = true) :
    (decoder surrogates).decode (encodeAll t) = .ok t :=
  loop_encodeAll surrogates ht (length_le_encodeAll t) 0 []

/-- A code point of ASCII is one byte. -/
theorem encodePoint_of_isAscii {c : CodePoint} (hc : c.isAscii = true) : encodePoint c = [c.val.toUInt8] := by
  have h : c.val < 0x80 := of_decide_eq_true hc
  simp only [encodePoint, h, if_true]

end Utf8

/-- A text comes back from its UTF-8 form also where the encoding has to be told from the bytes, if its first four code
points are ASCII and the first two of them are not zero. -/
theorem decodeDetected_encodeAll {a b c d : CodePoint} {t : Text} (ht : Text.isScalar (a :: b :: c :: d :: t) = true)
    (hascii : Text.isAscii [a, b, c, d] = true) (ha : a ≠ 0) (hb : b ≠ 0) :
    decodeDetected (Utf8.encodeAll (a :: b :: c :: d :: t)) = .ok (a :: b :: c :: d :: t) := by
  obtain ⟨ha', hb', hc', hd'⟩ : a.isAscii = true ∧ b.isAscii = true ∧ c.isAscii = true ∧ d.isAscii = true := by
    simpa [Text.isAscii] using hascii
  have hbyte {c : CodePoint} (hc : c.isAscii = true) : c.val.toUInt8.toNat = c.val :=
    Utf8.toNat_toUInt8 (Nat.lt_trans (of_decide_eq_true hc) (by decide))
  have hzero {c : CodePoint} (hc : c.isAscii = true) (hne : c ≠ 0) : c.val.toUInt8 ≠ 0 := fun h =>
    hne (Fin.ext ((hbyte hc).symm.trans (congrArg UInt8.toNat h)))
  have hlow : a.val.toUInt8 < 0x80 := by
    rw [UInt8.lt_iff_toNat_lt, hbyte ha']
    exact of_decide_eq_true ha'
  have hdetect : TextEncoding.detect (Utf8.encodeAll (a :: b :: c :: d :: t)) = .utf8 false := by
    simp only [Utf8.encodeAll, List.flatMap_cons, Utf8.encodePoint_of_isAscii ha', Utf8.encodePoint_of_isAscii hb',
      Utf8.encodePoint_of_isAscii hc', Utf8.encodePoint_of_isAscii hd', List.cons_append, List.nil_append]
    exact detect_ascii (hzero ha' ha) (hzero hb' hb) hlow
  rw [decodeDetected, hdetect]
  simp only [TextEncoding.decoder, TextEncoding.markSize, Bool.false_eq_true, if_false, List.drop_zero,
    Utf8.decode_encodeAll true ht]
  rfl

end RemoteSigning
