import RemoteSigning.Proofs.Encoding.Armor
import RemoteSigning.Proofs.Text.Stripping

/-!
# Certificates in hexadecimal digits and in armour

A token gives a certificate in hexadecimal digits, two for a byte (`Hex.Spells`), and the service gets it in armour:
between two lines that say what it is, in lines of 64 characters at most (`Armor.WellFormed`). Nothing is lost on the
way, and blanks behind the armour do no harm.

- `Hex.decode_of_spells`: bytes come back from their digits, in either case;
- `Armor.wellFormed_encode`: the lines of an armour;
- `Armor.decode_append_blank`: blanks behind an armour do no harm;
- `Certificate.comes_back`: a certificate is the same after both ways.
-/

namespace RemoteSigning

/-! ## Hexadecimal digits -/

namespace Hex

/-- The text has two hexadecimal digits for each of the bytes, in either case. -/
inductive Spells : Text → Bytes → Prop
  | nil : Spells [] []
  | cons {c d : CodePoint} {v w : Nat} {b : UInt8} {t : Text} {bs : Bytes} : c.hexValue? = some v →
      d.hexValue? = some w → b.toNat = 16 * v + w → Spells t bs → Spells (c :: d :: t) (b :: bs)

variable {t : Text} {bs : Bytes}

theorem hexValue?_digit {n : Nat} (h : n < 16) : (digit n).hexValue? = some n := by
  have hall : ∀ n : Fin 16, (digit n.val).hexValue? = some n.val := by decide
  exact hall ⟨n, h⟩

/-- What is written are the digits of the bytes. -/
theorem spells_encode (bs : Bytes) : Spells (encode bs) bs := by
  induction bs with
  | nil => exact .nil
  | cons b bs ih =>
    have hb := b.toNat_lt
    exact .cons (hexValue?_digit (by omega)) (hexValue?_digit (by omega)) (by omega) ih

theorem val_of_hexValue? {c : CodePoint} {v : Nat} (h : c.hexValue? = some v) : 0x30 ≤ c.val ∧ c.val < 0x80 := by
  unfold CodePoint.hexValue? at h
  simp only [Bool.and_eq_true, decide_eq_true_eq] at h
  split_ifs at h <;> omega

theorem Spells.isAscii (h : Spells t bs) : ∀ c ∈ t, c.isAscii = true := by
  induction h with
  | nil => simp
  | cons hc hd _ _ ih =>
    exact List.forall_mem_cons.mpr ⟨decide_eq_true (val_of_hexValue? hc).2,
      List.forall_mem_cons.mpr ⟨decide_eq_true (val_of_hexValue? hd).2, ih⟩⟩

/-- A reader between two pairs goes on with the bytes of the digits. -/
theorem Spells.pairs (h : Spells t bs) (position : Nat) (acc : Bytes) :
    Hex.pairs none position acc t = .ok (acc.reverse ++ bs) := by
  induction h generalizing position acc with
  | nil => simp [Hex.pairs]
  | @cons c d v w b t bs hc hd hb _ ih =>
    have hblank : c.isAsciiBlank = false := by
      have := (val_of_hexValue? hc).1
      simp only [CodePoint.isAsciiBlank, Bool.or_eq_false_iff, Bool.and_eq_false_iff, decide_eq_false_iff_not,
        beq_eq_false_iff_ne]
      omega
    have hbyte : (v * 16 + w).toUInt8 = b := by
      rw [Nat.mul_comm, ← hb]
      exact UInt8.ofNat_toNat
    simp [Hex.pairs, hblank, hc, hd, hbyte, ih]

/-- **Bytes come back from their digits**, in whatever case these are. -/
theorem decode_of_spells (h : Spells t bs) : decode t = .ok bs := by
  have hascii : t.takeWhile CodePoint.isAscii = t := List.takeWhile_eq_self_iff.mpr h.isAscii
  rw [decode, hascii, if_neg (Nat.lt_irrefl _), h.pairs]
  rfl

end Hex

/-! ## Lines -/

/-- A line ends at the first separator. -/
theorem Text.splitOn_append_cons {sep : CodePoint} {l : Text} (h : sep ∉ l) (rest : Text) :
    splitOn sep (l ++ sep :: rest) = l :: splitOn sep rest := by
  induction l with
  | nil => simp [splitOn]
  | cons c l ih =>
    rw [List.mem_cons, not_or] at h
    have hc : c ≠ sep := fun he => h.1 he.symm
    have := ih h.2
    simp only [splitOn, List.cons_append, List.foldr_cons] at this ⊢
    rw [this]
    simp [hc]

namespace Armor

/-- An armour opens and closes with the lines for it, and no line of it has more than 64 characters. -/
structure WellFormed (t : Text) : Prop where
  opens : opening ++ [CodePoint.ofChar '\n'] <+: t
  closes : [CodePoint.ofChar '\n'] ++ closing ++ [CodePoint.ofChar '\n'] <:+ t
  narrow : ∀ l ∈ t.splitOn '\n', l.length ≤ 64

/-- No line of letters has a line feed in it. -/
theorem lineFeed_not_mem_lines {bs : Bytes} {l : Text} (h : l ∈ lines (Base64.encode bs)) :
    CodePoint.ofChar '\n' ∉ l := by
  intro hc
  have hmem : CodePoint.ofChar '\n' ∈ (lines (Base64.encode bs)).flatten := List.mem_flatten.mpr ⟨l, h, hc⟩
  rw [flatten_lines] at hmem
  exact absurd (Base64.isMeant_of_mem_encode hmem) (by decide)

theorem splitOn_flatMap {ls : List Text} (h : ∀ l ∈ ls, CodePoint.ofChar '\n' ∉ l) (rest : Text) :
    Text.splitOn '\n' (ls.flatMap (· ++ [CodePoint.ofChar '\n']) ++ rest) = ls ++ rest.splitOn '\n' := by
  induction ls with
  | nil => rfl
  | cons l ls ih =>
    rw [List.forall_mem_cons] at h
    rw [List.flatMap_cons, List.append_assoc, List.append_assoc, List.singleton_append, Text.splitOn_append_cons h.1,
      ih h.2]
    rfl

/-- The lines of an armour; behind the last of them is nothing. -/
theorem splitOn_encode (der : Bytes) :
    (encode der).splitOn '\n' = opening :: lines (Base64.encode der) ++ [closing, []] := by
  have hopening : CodePoint.ofChar '\n' ∉ opening := by decide
  have hclosing : CodePoint.ofChar '\n' ∉ closing := by decide
  have hend : Text.splitOn '\n' (closing ++ [CodePoint.ofChar '\n']) = [closing, []] :=
    Text.splitOn_append_cons hclosing []
  have htext : encode der = opening ++ CodePoint.ofChar '\n' ::
      ((lines (Base64.encode der)).flatMap (· ++ [CodePoint.ofChar '\n']) ++ (closing ++ [CodePoint.ofChar '\n'])) := by
    rw [encode_eq, body]
    simp [Text.ofString]
  rw [htext, Text.splitOn_append_cons hopening, splitOn_flatMap fun l => lineFeed_not_mem_lines, hend]
  rfl

theorem wellFormed_encode (der : Bytes) : WellFormed (encode der) := by
  refine ⟨?_, ?_, fun l hl => ?_⟩
  · rw [encode_eq, body, List.append_cons, List.append_assoc, List.append_assoc]
    exact List.prefix_append _ _
  · obtain ⟨front, hfront⟩ : ∃ front, body (lines (Base64.encode der)) = front ++ [CodePoint.ofChar '\n'] := by
      rcases List.eq_nil_or_concat (lines (Base64.encode der)) with hnone | ⟨ls, l, hls⟩
      · exact ⟨[], by rw [body, hnone]; rfl⟩
      · exact ⟨CodePoint.ofChar '\n' :: ls.flatMap (· ++ [CodePoint.ofChar '\n']) ++ l, by rw [body, hls]; simp⟩
    rw [encode_eq, hfront]
    exact ⟨opening ++ front, by simp [Text.ofString]⟩
  · have hopening : opening.length ≤ 64 := by decide
    have hclosing : closing.length ≤ 64 := by decide
    rw [splitOn_encode, List.mem_append, List.mem_cons, List.mem_pair] at hl
    rcases hl with (rfl | hl) | rfl | rfl
    · exact hopening
    · exact length_lines_le hl
    · exact hclosing
    · exact Nat.zero_le _

/-- Blanks behind an armour do no harm. -/
theorem decode_append_blank (der : Bytes) {blanks : Text} (h : blanks.all CodePoint.isBlank = true) :
    decode (encode der ++ blanks) = .ok der := by
  have hopening (t : Text) : opening.isPrefixOf (encode der ++ t) = true := by
    rw [encode_eq, List.append_assoc, List.append_assoc, List.append_assoc, List.isPrefixOf_iff_prefix]
    exact List.prefix_append _ _
  have hfirst := hopening []
  rw [List.append_nil] at hfirst
  have hread := decode_encode der
  rw [decode, hfirst] at hread
  rw [decode, hopening blanks, Text.strip_append_blank h, hread]

end Armor

/-! ## Certificates -/

/-- **A certificate comes back** from the digits of its bytes, and from its armour, which is well formed and may have
blanks behind it. The reference of its key is the one that is given along. -/
theorem Certificate.comes_back (der : Bytes) (keyRef : Option Bytes) :
    Hex.Spells (Hex.encode der) der ∧
    ∀ digits, Hex.Spells digits der → ∃ c, ofHex digits keyRef = .ok c ∧ c.der = der ∧ c.keyRef = keyRef ∧
      Armor.WellFormed c.toArmor ∧
      ∀ (blanks : Text) (keyRef' : Option Bytes), blanks.all CodePoint.isBlank = true →
        ∃ c', ofArmor (c.toArmor ++ blanks) keyRef' = .ok c' ∧ c'.same c = true ∧ c'.der = der ∧
          c'.keyRef = keyRef' := by
  refine ⟨Hex.spells_encode der, fun digits hdigits => ⟨⟨der, keyRef⟩, ?_, rfl, rfl, Armor.wellFormed_encode der, ?_⟩⟩
  · rw [ofHex, Hex.decode_of_spells hdigits]
    rfl
  · intro blanks keyRef' hblanks
    refine ⟨⟨der, keyRef'⟩, ?_, (same_iff _ _).mpr rfl, rfl, rfl⟩
    rw [ofArmor, toArmor, Armor.decode_append_blank der hblanks]
    rfl

/-- Bytes for one line and four more letters. -/
def sampleDer : Bytes := List.replicate 49 0xAB

/-- A certificate of two lines comes back, with a blank outside ASCII behind its armour. -/
theorem Certificate.comes_back_sampleDer :
    Hex.Spells (Hex.encode sampleDer) sampleDer ∧
    (Text.ofString "\u00a0\n").all CodePoint.isBlank = true ∧
    ∃ c, ofHex (Hex.encode sampleDer) (some [2]) = .ok c ∧ c.der = sampleDer ∧
      ∃ c', ofArmor (c.toArmor ++ Text.ofString "\u00a0\n") none = .ok c' ∧ c'.same c = true ∧ c'.der = sampleDer := by
  have hblanks : (Text.ofString "\u00a0\n").all CodePoint.isBlank = true := by decide
  obtain ⟨hdigits, hread⟩ := Certificate.comes_back sampleDer (some [2])
  obtain ⟨c, hc, hder, -, -, harmor⟩ := hread _ hdigits
  obtain ⟨c', hc', hsame, hder', -⟩ := harmor _ none hblanks
  exact ⟨hdigits, hblanks, c, hc, hder, c', hc', hsame, hder'⟩

end RemoteSigning
