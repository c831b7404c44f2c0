import Mathlib.Data.List.DropRight
import RemoteSigning.Certificate
import RemoteSigning.Proofs.Encoding.Base64
import RemoteSigning.Proofs.Text.Coding

/-!
# Armour loses nothing

The lines of a text are its pieces in order, and the line feeds between them mean nothing to the lenient reader. What
stands between the opening and the closing line of an armour is therefore read as the letters that were put there.

- `flatten_lines`: the lines of a text, one after the other, are the text;
- `decode_encode`: bytes come back from their armour;
- `ofArmor_toArmor`: a certificate comes back from its armour.
-/

namespace RemoteSigning

namespace Armor

/-! ## Lines -/

theorem flatten_linesUpTo {n : Nat} {t : Text} (h : t.length ≤ n) : (linesUpTo n t).flatten = t := by
  induction n generalizing t with
  | zero =>
    obtain rfl := List.eq_nil_of_length_eq_zero (Nat.le_zero.mp h)
    rfl
  | succ n ih =>
    cases t with
    | nil => rfl
    | cons c t =>
      have hrest : ((c :: t).drop 64).length ≤ n := by
        simp only [List.length_drop, List.length_cons] at h ⊢
        omega
      rw [linesUpTo, List.flatten_cons, ih hrest, List.take_append_drop]

/-- The lines of a text, one after the other, are the text. -/
theorem flatten_lines (t : Text) : (lines t).flatten = t := flatten_linesUpTo (Nat.le_refl _)

/-- What an armour has between its opening and its closing line. -/
def body (ls : List Text) : Text := CodePoint.ofChar '\n' :: ls.flatMap (· ++ [CodePoint.ofChar '\n'])

theorem intercalate_append_singleton (s first last : Text) (ls : List Text) :
    List.intercalate s (first :: ls ++ [last]) = first ++ (s ++ ls.flatMap (· ++ s)) ++ last := by
  induction ls generalizing first with
  | nil => simp [List.intercalate]
  | cons l ls ih =>
    have h := ih l
    simp only [List.cons_append] at h ⊢
    rw [List.intercalate_cons_cons, h]
    simp

theorem encode_eq (der : Bytes) : encode der = opening ++ body (lines (Base64.encode der)) ++ closing ++ "\n" := by
  rw [encode, intercalate_append_singleton]
  rfl

/-! ## The body -/

theorem filter_isMeant_body (ls : List Text) : (body ls).filter Base64.isMeant = ls.flatten.filter Base64.isMeant := by
  have hfeed : Base64.isMeant (CodePoint.ofChar '\n') ≠ true := by decide
  rw [body, List.filter_cons_of_neg hfeed]
  induction ls with
  | nil => rfl
  | cons l ls ih =>
    rw [List.flatMap_cons, List.filter_append, ih, List.filter_append, List.filter_cons_of_neg hfeed,
      List.flatten_cons, List.filter_append]
    simp

/-- The body of an armour is read as the bytes in it. -/
theorem decode_body (bs : Bytes) : Base64.decode .lenient (body (lines (Base64.encode bs))) = .ok bs := by
  have hall : (Base64.encode bs).filter Base64.isMeant = Base64.encode bs :=
    List.filter_eq_self.mpr fun _ => Base64.isMeant_of_mem_encode
  have hread := Base64.decode_encode .lenient bs
  simp only [Base64.decode, reduceCtorEq, decide_false, Bool.false_and, Bool.false_eq_true, if_false] at hread ⊢
  rw [← Base64.readFrom_lenient_filter, filter_isMeant_body, flatten_lines, hall, hread]

theorem isAscii_of_mem_body {bs : Bytes} {c : CodePoint} (h : c ∈ body (lines (Base64.encode bs))) :
    c.isAscii = true := by
  have hfeed : (CodePoint.ofChar '\n').isAscii = true := by decide
  rcases List.mem_cons.mp h with rfl | h
  · exact hfeed
  · obtain ⟨l, hl, hc⟩ := List.mem_flatMap.mp h
    rcases List.mem_append.mp hc with hc | hc
    · have hmem : c ∈ (lines (Base64.encode bs)).flatten := List.mem_flatten.mpr ⟨l, hl, hc⟩
      rw [flatten_lines] at hmem
      exact Base64.isAscii_of_mem_encode hmem
    · exact List.mem_singleton.mp hc ▸ hfeed

/-! ## Armour -/

/-- The blanks around an armour are the line feed after it. -/
theorem strip_encode (der : Bytes) :
    (encode der).strip = opening ++ body (lines (Base64.encode der)) ++ closing := by
  have hclosing : closing = closing.dropLast ++ [CodePoint.ofChar '-'] := by decide
  have hfront : (encode der).dropWhile CodePoint.isBlank = encode der := by
    rw [encode_eq]
    exact List.dropWhile_cons_of_neg (by decide)
  calc (encode der).strip
      = Text.dropWhileEnd CodePoint.isBlank (encode der) := by rw [Text.strip, Text.trim, hfront]
    _ = Text.dropWhileEnd CodePoint.isBlank (opening ++ body (lines (Base64.encode der)) ++ closing) := by
        rw [encode_eq]
        exact List.rdropWhile_concat_pos CodePoint.isBlank _ _ (by decide)
    _ = opening ++ body (lines (Base64.encode der)) ++ closing := by
        rw [hclosing, ← List.append_assoc]
        exact List.rdropWhile_concat_neg CodePoint.isBlank _ _ (by decide)

/-- **Bytes come back from their armour.** -/
theorem decode_encode (der : Bytes) : decode (encode der) = .ok der := by
  have hopening : opening.isPrefixOf (encode der) = true := by
    rw [encode_eq, List.append_assoc, List.append_assoc, List.isPrefixOf_iff_prefix]
    exact List.prefix_append _ _
  have hclosing : closing.isSuffixOf (encode der).strip = true := by
    rw [strip_encode, List.isSuffixOf_iff_suffix]
    exact List.suffix_append _ _
  have hbody : ((encode der).strip.drop opening.length).take
      ((encode der).strip.length - opening.length - closing.length) = body (lines (Base64.encode der)) := by
    rw [strip_encode, List.append_assoc, List.drop_left]
    apply List.take_left'
    simp only [List.length_append]
    omega
  have hascii : Text.firstFault? "ascii" "ordinal not in range(128)" (! CodePoint.isAscii ·)
      (body (lines (Base64.encode der))) = none :=
    Text.firstFault?_eq_none fun c hc => by rw [isAscii_of_mem_body hc]; rfl
  unfold decode
  dsimp only
  rw [hopening, hclosing, hbody, hascii, decode_body]
  rfl

end Armor

/-- A certificate comes back from its armour. -/
theorem Certificate.ofArmor_toArmor (c : Certificate) (keyRef : Option Bytes) :
    ofArmor c.toArmor keyRef = .ok ⟨c.der, keyRef⟩ := by
  rw [ofArmor, toArmor, Armor.decode_encode]
  rfl

end RemoteSigning
