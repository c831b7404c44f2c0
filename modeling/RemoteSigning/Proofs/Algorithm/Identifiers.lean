import Mathlib.Data.List.Infix
import RemoteSigning.Algorithm
import RemoteSigning.Proofs.Text.Reading
import RemoteSigning.Proofs.Text.Stripping

/-!
# Which names of algorithms are recognised

Twelve identifiers name an algorithm (`Algorithm.register`), in whatever case their letters are and whatever blanks are
around them (`Text.Spells`). A name is compared in upper case, and there the long s is a letter like any other: it is
taken for an s. It is the only code point outside ASCII for which this makes a difference, since the other ones that
have letters of ASCII for their upper case have letters, or pairs of letters, that no identifier has.

- `upper_eq_iff`: when the upper case of a text is a word of ASCII;
- `Algorithm.parse?_eq_some_iff`: the names of an algorithm, once every long s is made a short one;
- `Algorithm.recognisedExactly_iff`: which texts are recognised as the identifiers have it.
-/

namespace RemoteSigning

/-! ## Upper case -/

namespace CodePoint

variable {c d : CodePoint}

def longS : CodePoint := ⟨0x17F, by decide⟩

/-- A long s becomes a short one. -/
def shortenS (c : CodePoint) : CodePoint := if c = longS then ofChar 's' else c

theorem shortenS_of_ne (h : c ≠ longS) : c.shortenS = c := if_neg h

theorem isBlank_shortenS (c : CodePoint) : c.shortenS.isBlank = c.isBlank := by
  by_cases h : c = longS
  · subst h
    decide
  · rw [shortenS_of_ne h]

theorem asciiLower_of_not_letter (h : ¬ (0x41 ≤ c.val ∧ c.val ≤ 0x5A)) : c.asciiLower = c := if_neg h

theorem val_asciiLower_of_letter (h : 0x41 ≤ c.val ∧ c.val ≤ 0x5A) : c.asciiLower.val = c.val + 0x20 := by
  rw [asciiLower, if_pos h, val_ofNat (by omega)]

/-- Two code points that are no small letters differ in more than case, if they differ. -/
theorem asciiLower_eq_iff (hc : ¬ (0x61 ≤ c.val ∧ c.val ≤ 0x7A)) (hd : ¬ (0x61 ≤ d.val ∧ d.val ≤ 0x7A)) :
    c.asciiLower = d.asciiLower ↔ c = d := by
  by_cases hc' : 0x41 ≤ c.val ∧ c.val ≤ 0x5A <;> by_cases hd' : 0x41 ≤ d.val ∧ d.val ≤ 0x5A
  · rw [Fin.ext_iff, Fin.ext_iff, val_asciiLower_of_letter hc', val_asciiLower_of_letter hd']
    omega
  · rw [Fin.ext_iff, Fin.ext_iff, val_asciiLower_of_letter hc', asciiLower_of_not_letter hd']
    omega
  · rw [Fin.ext_iff, Fin.ext_iff, asciiLower_of_not_letter hc', val_asciiLower_of_letter hd']
    omega
  · rw [asciiLower_of_not_letter hc', asciiLower_of_not_letter hd']

/-- Letters are no blanks. -/
theorem isBlank_asciiLower (c : CodePoint) : c.asciiLower.isBlank = c.isBlank := by
  have hletter {c : CodePoint} (h : 0x41 ≤ c.val) (h' : c.val ≤ 0x7A) : c.isBlank = false := by
    simp only [isBlank, isWhiteSpace, Bool.or_eq_false_iff, Bool.and_eq_false_iff, decide_eq_false_iff_not,
      beq_eq_false_iff_ne]
    omega
  by_cases h : 0x41 ≤ c.val ∧ c.val ≤ 0x5A
  · have hval := val_asciiLower_of_letter h
    rw [hletter (by omega) (by omega), hletter h.1 (by omega)]
  · rw [asciiLower_of_not_letter h]

/-- The case of ASCII keeps to ASCII. -/
theorem isAscii_asciiLower (c : CodePoint) : c.asciiLower.isAscii = c.isAscii := by
  by_cases h : 0x41 ≤ c.val ∧ c.val ≤ 0x5A
  · have hval := val_asciiLower_of_letter h
    rw [isAscii, isAscii, decide_eq_decide]
    omega
  · rw [asciiLower_of_not_letter h]

/-- How the upper case of a code point comes about, as far as that is ASCII. -/
inductive UpperForm (c : CodePoint) : Text → Prop
  | letter : 0x61 ≤ c.val → c.val ≤ 0x7A → UpperForm c [ofNat (c.val - 0x20)]
  | longS : c = longS → UpperForm c "S"
  /-- Two letters S, or letters of which one is F, I or T. -/
  | expanded {e : Text} : 0x80 ≤ c.val → c ≠ CodePoint.longS → (e = "SS" ∨ ∃ d ∈ e, d ∈ Text.ofString "FIT") →
    UpperForm c e
  | same : ¬ (0x61 ≤ c.val ∧ c.val ≤ 0x7A) → c ≠ CodePoint.longS → UpperForm c [c]

theorem upperForm_upper (c : CodePoint) : c.UpperForm c.upper := by
  have hother {n : Nat} {e : Text} (hc : c.val = n) (hn : 0x80 ≤ n ∧ n ≠ 0x17F)
      (he : e = "SS" ∨ ∃ d ∈ e, d ∈ Text.ofString "FIT") : c.UpperForm e :=
    .expanded (hc ▸ hn.1) (fun hs => hn.2 (hc ▸ congrArg Fin.val hs)) he
  unfold upper
  split
  next h => exact .letter h.1 h.2
  next h =>
    split
    next hc => exact hother hc (by decide) (.inl rfl)
    next hc => exact hother hc (by decide) (.inr ⟨ofChar 'I', by decide, by decide⟩)
    next hc => exact .longS (Fin.ext hc)
    next hc => exact hother hc (by decide) (.inr ⟨ofChar 'F', by decide, by decide⟩)
    next hc => exact hother hc (by decide) (.inr ⟨ofChar 'F', by decide, by decide⟩)
    next hc => exact hother hc (by decide) (.inr ⟨ofChar 'F', by decide, by decide⟩)
    next hc => exact hother hc (by decide) (.inr ⟨ofChar 'F', by decide, by decide⟩)
    next hc => exact hother hc (by decide) (.inr ⟨ofChar 'F', by decide, by decide⟩)
    next hc => exact hother hc (by decide) (.inr ⟨ofChar 'T', by decide, by decide⟩)
    next hc => exact hother hc (by decide) (.inr ⟨ofChar 'T', by decide, by decide⟩)
    next hs _ _ _ _ _ _ _ => exact .same h fun hc => hs (congrArg Fin.val hc)

theorem UpperForm.ne_nil {c : CodePoint} {e : Text} (h : c.UpperForm e) : e ≠ [] := by
  cases h with
  | letter | same => exact List.cons_ne_nil _ _
  | longS => decide
  | expanded _ _ he =>
    rcases he with rfl | ⟨d, hd, -⟩
    · decide
    · exact List.ne_nil_of_mem hd

end CodePoint

namespace Text

variable {t w : Text}

/-- A word in ASCII and in upper case that is the upper case of no ligature, no dotless i and no sharp s: it has neither
F, I or T nor two S in a row. -/
structure IsPlainWord (w : Text) : Prop where
  ascii : ∀ c ∈ w, c.isAscii = true
  upper : ∀ c ∈ w, ¬ (0x61 ≤ c.val ∧ c.val ≤ 0x7A)
  plain : ∀ c ∈ w, c ∉ ofString "FIT"
  single : ¬ ofString "SS" <:+: w

theorem IsPlainWord.tail {d : CodePoint} (h : IsPlainWord (d :: w)) : w.IsPlainWord :=
  ⟨fun c hc => h.ascii c (List.mem_cons_of_mem d hc), fun c hc => h.upper c (List.mem_cons_of_mem d hc),
    fun c hc => h.plain c (List.mem_cons_of_mem d hc), fun hs => h.single (hs.trans (List.suffix_cons d w).isInfix)⟩

/-- A text whose upper case is a plain word begins with the first letter of it, in either case or as a long s. -/
theorem upper_append_eq_cons_iff {c d : CodePoint} {s : Text} (h : IsPlainWord (d :: w)) :
    c.upper ++ s = d :: w ↔ c.shortenS.asciiLower = d.asciiLower ∧ s = w := by
  have hd : d.val < 0x80 := of_decide_eq_true (h.ascii d List.mem_cons_self)
  have hd' := h.upper d List.mem_cons_self
  generalize hu : c.upper = u
  cases hu ▸ c.upperForm_upper with
  | letter hc hc' =>
    have hne : c ≠ CodePoint.longS := by
      rintro rfl
      exact absurd hc' (by decide)
    have hval : (CodePoint.ofNat (c.val - 0x20)).val = c.val - 0x20 := CodePoint.val_ofNat (by omega)
    -- The small letter is the lower case of its own upper case.
    have hlower : c.shortenS.asciiLower = (CodePoint.ofNat (c.val - 0x20)).asciiLower := by
      rw [CodePoint.shortenS_of_ne hne, CodePoint.asciiLower_of_not_letter (c := c) (by omega), Fin.ext_iff,
        CodePoint.val_asciiLower_of_letter (by omega), hval]
      omega
    rw [hlower, CodePoint.asciiLower_eq_iff (by omega) hd', List.singleton_append, List.cons.injEq]
  | longS hc =>
    have hlower : c.shortenS.asciiLower = (CodePoint.ofChar 'S').asciiLower := by
      rw [hc]
      decide
    rw [hlower, CodePoint.asciiLower_eq_iff (by decide) hd']
    exact List.cons_eq_cons
  | expanded hc hne he =>
    have hlower : ¬ c.shortenS.asciiLower = d.asciiLower := by
      intro hcd
      have hascii := congrArg CodePoint.isAscii hcd
      rw [CodePoint.shortenS_of_ne hne, CodePoint.isAscii_asciiLower, CodePoint.isAscii_asciiLower,
        h.ascii d List.mem_cons_self] at hascii
      exact absurd (of_decide_eq_true hascii) (by omega)
    refine iff_of_false (fun hcons => ?_) fun hcd => hlower hcd.1
    rcases he with rfl | ⟨e, he, he'⟩
    · exact h.single (hcons ▸ (List.prefix_append _ _).isInfix)
    · exact h.plain e (hcons ▸ List.mem_append_left _ he) he'
  | same hc hne =>
    rw [CodePoint.shortenS_of_ne hne, CodePoint.asciiLower_eq_iff hc hd', List.singleton_append, List.cons.injEq]

/-- **When the upper case of a text is a plain word**: the text is that word in any case, with a long s counting as an
s. -/
theorem upper_eq_iff (h : w.IsPlainWord) : t.upper = w ↔ asciiLower (t.map CodePoint.shortenS) = w.asciiLower := by
  induction t generalizing w with
  | nil => cases w <;> simp [upper, asciiLower]
  | cons c t ih =>
    rw [upper, List.flatMap_cons]
    cases w with
    | nil => simp [asciiLower, c.upperForm_upper.ne_nil]
    | cons d w =>
      rw [upper_append_eq_cons_iff h, ← upper, ih h.tail]
      simp [asciiLower]

/-! ## Spellings -/

/-- The text spells a word: it is the word, with its letters in any case and with blanks around it. -/
def Spells (t w : Text) : Prop := ∃ core, t.Surrounds core ∧ core.asciiLower = w.asciiLower

theorem not_blank_of_asciiLower_eq {core : Text} (h : ∀ c ∈ w, c.isBlank = false)
    (he : core.asciiLower = w.asciiLower) : ∀ c ∈ core, c.isBlank = false := by
  intro c hc
  have hlower : c.asciiLower ∈ w.asciiLower := he ▸ List.mem_map_of_mem hc
  obtain ⟨d, hd, hdc⟩ := List.mem_map.mp hlower
  rw [← CodePoint.isBlank_asciiLower, ← hdc, CodePoint.isBlank_asciiLower, h d hd]

theorem spells_iff (h : ∀ c ∈ w, c.isBlank = false) : t.Spells w ↔ t.strip.asciiLower = w.asciiLower := by
  constructor
  · rintro ⟨core, hcore, he⟩
    rw [strip_eq_of_surrounds (not_blank_of_asciiLower_eq h he) hcore, he]
  · exact fun he => ⟨t.strip, surrounds_strip t, he⟩

theorem strip_map_shortenS (t : Text) : strip (t.map CodePoint.shortenS) = t.strip.map CodePoint.shortenS := by
  have hblank : CodePoint.isBlank ∘ CodePoint.shortenS = CodePoint.isBlank := funext CodePoint.isBlank_shortenS
  rw [strip, trim, List.dropWhile_map, hblank, dropWhileEnd, ← List.map_reverse, List.dropWhile_map, hblank,
    ← List.map_reverse]
  rfl

/-- A spelling of a word in ASCII has blanks outside ASCII at most. -/
theorem Spells.blank_or_ascii (h : t.Spells w) (hw : w.isAscii = true) :
    ∀ c ∈ t, c.isBlank = true ∨ c.isAscii = true := by
  obtain ⟨core, hcore, he⟩ := h
  intro c hc
  cases hb : c.isBlank with
  | true => exact .inl rfl
  | false =>
    have hlower : c.asciiLower ∈ w.asciiLower := he ▸ List.mem_map_of_mem (hcore.mem hc hb)
    obtain ⟨d, hd, hdc⟩ := List.mem_map.mp hlower
    rw [← CodePoint.isAscii_asciiLower, ← hdc, CodePoint.isAscii_asciiLower]
    exact .inr (List.all_eq_true.mp hw d hd)

end Text

/-! ## Identifiers -/

namespace Algorithm

variable {t : Text} {a : Algorithm}

/-- The identifiers, each with the names of the hash function and of the kind of key that it stands for. -/
def register : List (String × String × Option String) :=
  [("SHA-224", "SHA-224", none), ("SHA-256", "SHA-256", none), ("SHA-384", "SHA-384", none),
    ("SHA-512", "SHA-512", none), ("RSA-SHA224", "SHA-224", some "RSA"), ("RSA-SHA256", "SHA-256", some "RSA"),
    ("RSA-SHA384", "SHA-384", some "RSA"), ("RSA-SHA512", "SHA-512", some "RSA"),
    ("ECDSA-SHA224", "SHA-224", some "EC"), ("ECDSA-SHA256", "SHA-256", some "EC"),
    ("ECDSA-SHA384", "SHA-384", some "EC"), ("ECDSA-SHA512", "SHA-512", some "EC")]

def entry (a : Algorithm) : String × String × Option String := (a.identifier, a.hash.name, a.key.map KeyType.name)

theorem mem_all (a : Algorithm) : a ∈ all := by
  obtain ⟨h, key⟩ := a
  cases h <;> rcases key with _ | _ | _ <;> decide

theorem entry_mem_register (a : Algorithm) : a.entry ∈ register := by
  have hall : ∀ a ∈ all, a.entry ∈ register := by decide +kernel
  exact hall a a.mem_all

theorem exists_entry_eq {e : String × String × Option String} (h : e ∈ register) : ∃ a : Algorithm, a.entry = e := by
  have hall : ∀ e ∈ register, ∃ a ∈ all, a.entry = e := by decide +kernel
  obtain ⟨a, -, ha⟩ := hall e h
  exact ⟨a, ha⟩

theorem identifier_injective {b : Algorithm} (h : a.identifier = b.identifier) : a = b := by
  have hall : ∀ a ∈ all, ∀ b ∈ all, a.identifier = b.identifier → a = b := by decide +kernel
  exact hall a a.mem_all b b.mem_all h

theorem isPlainWord_identifier (a : Algorithm) : (Text.ofString a.identifier).IsPlainWord := by
  have hletters : ∀ a ∈ all, (Text.ofString a.identifier).all (fun c =>
      c.isAscii ∧ ¬ (0x61 ≤ c.val ∧ c.val ≤ 0x7A) ∧ c ∉ Text.ofString "FIT") = true := by decide +kernel
  have hsingle : ∀ a ∈ all, ¬ Text.ofString "SS" <:+: Text.ofString a.identifier := by decide +kernel
  have h (c : CodePoint) (hc : c ∈ Text.ofString a.identifier) :=
    of_decide_eq_true (List.all_eq_true.mp (hletters a a.mem_all) c hc)
  exact ⟨fun c hc => (h c hc).1, fun c hc => (h c hc).2.1, fun c hc => (h c hc).2.2, hsingle a a.mem_all⟩

theorem not_blank_identifier (a : Algorithm) : ∀ c ∈ Text.ofString a.identifier, c.isBlank = false := by
  have hall : ∀ a ∈ all, (Text.ofString a.identifier).any CodePoint.isBlank = false := by decide +kernel
  intro c hc
  simpa using List.any_eq_false.mp (hall a a.mem_all) c hc

/-- The names of an algorithm are the spellings of its identifier, once every long s is made a short one. -/
theorem parse?_eq_some_iff : parse? t = some a ↔ Text.Spells (t.map CodePoint.shortenS) a.identifier := by
  have hparse : parse? t = some a ↔ t.strip.upper = Text.ofString a.identifier := by
    unfold parse?
    dsimp only
    constructor
    · intro h
      have hfound := List.find?_some h
      exact (of_decide_eq_true hfound).symm
    · intro h
      cases hf : all.find? fun b => Text.ofString b.identifier = t.strip.upper with
      | none =>
        have := List.find?_eq_none.mp hf a a.mem_all
        simp [h] at this
      | some b =>
        have hb : Text.ofString b.identifier = t.strip.upper := by simpa using List.find?_some hf
        rw [identifier_injective (Text.ofString_injective (hb.trans h))]
  rw [hparse, Text.upper_eq_iff a.isPlainWord_identifier, Text.spells_iff a.not_blank_identifier,
    Text.strip_map_shortenS]

/-! ## Recognition -/

/-- The text is recognised exactly if it spells an identifier; the algorithm is then the one that the identifier stands
for. Nothing outside ASCII is recognised but blanks. -/
structure RecognisedExactly (t : Text) : Prop where
  accepted : (∃ a, parse? t = some a) ↔ ∃ e ∈ register, t.Spells e.1
  carried : ∀ a, parse? t = some a → ∀ e ∈ register, t.Spells e.1 → a.entry = e
  ascii : ∀ a, parse? t = some a → ∀ c ∈ t, c.isBlank = true ∨ c.isAscii = true

/-- The text spells an identifier with a long s for an s. -/
def SpelledWithLongS (t : Text) : Prop :=
  CodePoint.longS ∈ t ∧ ∃ e ∈ register, Text.Spells (t.map CodePoint.shortenS) e.1

/-- Which texts are recognised. -/
theorem exists_parse?_iff : (∃ a, parse? t = some a) ↔ ∃ e ∈ register, Text.Spells (t.map CodePoint.shortenS) e.1 := by
  constructor
  · rintro ⟨a, ha⟩
    exact ⟨a.entry, a.entry_mem_register, parse?_eq_some_iff.mp ha⟩
  · rintro ⟨e, he, hs⟩
    obtain ⟨a, rfl⟩ := exists_entry_eq he
    exact ⟨a, parse?_eq_some_iff.mpr hs⟩

theorem map_shortenS_eq_self (h : CodePoint.longS ∉ t) : t.map CodePoint.shortenS = t :=
  (List.map_congr_left fun _ hc => CodePoint.shortenS_of_ne fun hl => h (hl ▸ hc)).trans (List.map_id t)

/-- A spelling of an identifier has no long s. -/
theorem longS_not_mem_of_spells (h : t.Spells (Text.ofString a.identifier)) : CodePoint.longS ∉ t := fun hm => by
  have hascii : (Text.ofString a.identifier).isAscii = true := List.all_eq_true.mpr a.isPlainWord_identifier.ascii
  rcases h.blank_or_ascii hascii _ hm with h | h
  · exact absurd h (by decide)
  · exact absurd h (by decide)

/-- **Texts are recognised exactly if they spell an identifier**, but for those that spell one with a long s for an s:
these are recognised as well. -/
theorem recognisedExactly_iff (t : Text) : RecognisedExactly t ↔ ¬ SpelledWithLongS t := by
  constructor
  · rintro ⟨haccepted, -, -⟩ ⟨hlong, hspells⟩
    obtain ⟨e, he, hs⟩ := haccepted.mp (exists_parse?_iff.mpr hspells)
    obtain ⟨a, rfl⟩ := exists_entry_eq he
    exact longS_not_mem_of_spells hs hlong
  · intro h
    -- What is recognised spells an identifier as it stands.
    have hself {a : Algorithm} : parse? t = some a ↔ t.Spells a.identifier := by
      rw [parse?_eq_some_iff]
      by_cases hlong : CodePoint.longS ∈ t
      · exact iff_of_false (fun hs => h ⟨hlong, a.entry, a.entry_mem_register, hs⟩)
          fun hs => longS_not_mem_of_spells hs hlong
      · rw [map_shortenS_eq_self hlong]
    refine ⟨⟨?_, ?_⟩, ?_, ?_⟩
    · rintro ⟨a, ha⟩
      exact ⟨a.entry, a.entry_mem_register, hself.mp ha⟩
    · rintro ⟨e, he, hs⟩
      obtain ⟨a, rfl⟩ := exists_entry_eq he
      exact ⟨a, hself.mpr hs⟩
    · intro a ha e he hs
      obtain ⟨b, rfl⟩ := exists_entry_eq he
      exact congrArg entry (Option.some.inj (ha.symm.trans (hself.mpr hs)))
    · intro a ha
      exact (hself.mp ha).blank_or_ascii (List.all_eq_true.mpr a.isPlainWord_identifier.ascii)

/-- An identifier with a long s in front is recognised. -/
theorem not_recognisedExactly_longS :
    parse? "\u017fHA-256" = some ⟨.sha256, none⟩ ∧ ¬ RecognisedExactly "\u017fHA-256" := by
  have hparse : parse? "\u017fHA-256" = some ⟨.sha256, none⟩ := by decide +kernel
  refine ⟨hparse, fun h => ?_⟩
  rcases h.ascii _ hparse CodePoint.longS (by decide) with h | h
  · exact absurd h (by decide)
  · exact absurd h (by decide)

end Algorithm

end RemoteSigning
