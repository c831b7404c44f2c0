import Mathlib.Data.List.Induction
import Mathlib.Data.List.Nodup
import RemoteSigning.Proofs.Crypto.Rsa
import RemoteSigning.Proofs.Encoding.Base64

/-!
# What the strict reader of base64 accepts

A text of the standard consists of letters, and of one or two padding characters if the letters do not fill the last
group of four (`IsStandard`). The strict reader accepts these, and besides them complete groups of letters with any
padding (`IsOverpadded`). What follows is an induction over the text; it needs to know of a reader how many letters of a
group it has, how much padding, and whether there has been any.

- `value?_eq_some_iff`: the values of letters are their places in the alphabet;
- `readFrom_strict_eq_ok_iff`: what a strict reader accepts from where it is;
- `decode_strict_eq_ok_iff`: what it accepts altogether;
- `Spells.of_collect`: the bytes that are read stand for the number that the letters are the digits of.
-/

namespace RemoteSigning.Base64

/-! ## The alphabet -/

/-- The letters in the order of their values. -/
def alphabet : Text := "ABCDEFGHIJKLMNOPQRSTUVWXYZabcdefghijklmnopqrstuvwxyz0123456789+/"

theorem alphabet_eq : alphabet = (List.range 64).map letter := by decide +kernel

/-- The code point with a value is the letter for it. -/
theorem letter_of_value? {c : CodePoint} {v : Nat} (h : value? c = some v) : v < 64 ∧ letter v = c := by
  have hc := c.isLt
  have hval {n : Nat} (hn : n = c.val) : CodePoint.ofNat n = c := by
    subst hn
    rw [CodePoint.ofNat, dif_pos hc]
  unfold value? at h
  dsimp only at h
  unfold letter
  repeat' split at h
  all_goals
    first
    | cases h; done
    | obtain rfl := Option.some.inj h
      refine ⟨by omega, hval ?_⟩
      split_ifs <;> omega

/-- The letter at a place of the alphabet has this value, and nothing else has one. -/
theorem value?_eq_some_iff {c : CodePoint} {v : Nat} : value? c = some v ↔ alphabet[v]? = some c := by
  have hplace : alphabet[v]? = some c ↔ v < 64 ∧ letter v = c := by
    rw [alphabet_eq, List.getElem?_map, Option.map_eq_some_iff]
    simp [List.getElem?_eq_some_iff]
  rw [hplace]
  exact ⟨letter_of_value?, fun ⟨hv, hc⟩ => hc ▸ value?_letter hv⟩

theorem mem_alphabet_iff {c : CodePoint} : c ∈ alphabet ↔ ∃ v, value? c = some v := by
  simp only [value?_eq_some_iff, List.mem_iff_getElem?]

theorem pad_not_mem_alphabet : pad ∉ alphabet := fun h => by
  obtain ⟨v, hv⟩ := mem_alphabet_iff.mp h
  cases hv

theorem idxOf_alphabet {c : CodePoint} {v : Nat} (h : value? c = some v) : alphabet.idxOf c = v := by
  have hnodup : alphabet.Nodup := by decide +kernel
  obtain ⟨hv, hc⟩ := List.getElem?_eq_some_iff.mp (value?_eq_some_iff.mp h)
  rw [← hc]
  exact hnodup.idxOf_getElem v hv

/-- The number that letters are the digits of. -/
def number (letters : Text) : Nat := letters.foldl (fun n c => n * 64 + alphabet.idxOf c) 0

theorem number_concat (letters : Text) (c : CodePoint) :
    number (letters ++ [c]) = number letters * 64 + alphabet.idxOf c := by
  simp [number, List.foldl_append]

/-! ## Texts -/

/-- Letters, and padding that fills the last group of four. -/
def IsStandard (t : Text) : Prop :=
  ∃ (letters : Text) (pads : Nat), t = letters ++ List.replicate pads pad ∧ (∀ c ∈ letters, c ∈ alphabet) ∧ pads ≤ 2 ∧
    4 ∣ t.length

/-- Complete groups of letters, at least one, and padding that none of them needs. -/
def IsOverpadded (t : Text) : Prop :=
  ∃ (letters : Text) (pads : Nat), t = letters ++ List.replicate pads pad ∧ (∀ c ∈ letters, c ∈ alphabet) ∧
    letters ≠ [] ∧ 4 ∣ letters.length ∧ 0 < pads

/-- Bytes that letters spell, the last of them with some bits to spare: they are as many as the letters have room for,
and stand for the number of the letters without the bits to spare. -/
structure Spells (letters : Text) (bytes : Bytes) : Prop where
  length : bytes.length = letters.length * 6 / 8
  value : Sha2.ofBytes bytes = number letters / 2 ^ (letters.length * 6 % 8)

/-! ## What a reader has collected -/

def Progress.collect (p : Progress) (letters : Text) : Progress :=
  letters.foldl (fun p c => p.push (alphabet.idxOf c)) p

theorem length_begun_push {p : Progress} (h : p.begun.length < 4) (v : Nat) :
    (p.push v).begun.length = (p.begun.length + 1) % 4 := by
  match hb : p.begun, h with
  | [], _ => simp [Progress.push, hb]
  | [_], _ => simp [Progress.push, hb]
  | [_, _], _ => simp [Progress.push, hb]
  | [_, _, _], _ => simp [Progress.push, hb]
  | _ :: _ :: _ :: _ :: _, h => simp only [List.length_cons] at h; omega

theorem pads_push (p : Progress) (v : Nat) : (p.push v).pads = 0 := by
  unfold Progress.push
  split <;> rfl

theorem push_of_lt {p : Progress} (h : p.begun.length < 3) (v : Nat) :
    p.push v = { p with begun := p.begun ++ [v], pads := 0 } := by
  match hb : p.begun, h with
  | [], _ => simp [Progress.push, hb]
  | [_], _ => simp [Progress.push, hb]
  | [_, _], _ => simp [Progress.push, hb]
  | _ :: _ :: _ :: _, h => simp only [List.length_cons] at h; omega

theorem push_of_three {p : Progress} {a b c : Nat} (h : p.begun = [a, b, c]) (v : Nat) :
    p.push v =
      { p with begun := [], pads := 0, groups := p.groups + 1, bytes := (group [a, b, c, v]).reverse ++ p.bytes } := by
  simp [Progress.push, h]

/-- The number of a group of values after other digits. -/
def digits (n : Nat) (vs : List Nat) : Nat := vs.foldl (fun n v => n * 64 + v) n

/-- The bytes of a group stand for its values, without the bits that do not fill a byte. -/
theorem ofBytes_append_group (bs : Bytes) {vs : List Nat} (hsmall : ∀ v ∈ vs, v < 64) (hlength : vs.length ≤ 4)
    (hone : vs.length ≠ 1) :
    Sha2.ofBytes (bs ++ group vs) = digits (Sha2.ofBytes bs) vs / 2 ^ (vs.length * 6 % 8) := by
  have hbyte {n : Nat} (hn : n < 256) : n.toUInt8.toNat = n := by
    rw [Nat.toUInt8, UInt8.toNat_ofNat']
    exact Nat.mod_eq_of_lt hn
  match vs, hlength, hone with
  | [], _, _ => simp [group, digits]
  | [a, b], _, _ =>
    obtain ⟨ha, hb⟩ : a < 64 ∧ b < 64 := by simpa using hsmall
    simp only [group, digits, Sha2.ofBytes_concat, List.foldl_cons, List.foldl_nil, List.length_cons, List.length_nil,
      Nat.reduceAdd, Nat.reduceMul, Nat.reduceMod, Nat.reducePow]
    rw [hbyte (by omega)]
    omega
  | [a, b, c], _, _ =>
    obtain ⟨ha, hb, hc⟩ : a < 64 ∧ b < 64 ∧ c < 64 := by simpa using hsmall
    rw [group, List.append_cons, Sha2.ofBytes_concat, Sha2.ofBytes_concat, hbyte (by omega), hbyte (by omega)]
    simp only [digits, List.foldl_cons, List.foldl_nil, List.length_cons, List.length_nil, Nat.reduceAdd,
      Nat.reduceMul, Nat.reduceMod, Nat.reducePow]
    omega
  | [a, b, c, d], _, _ =>
    obtain ⟨ha, hb, hc, hd⟩ : a < 64 ∧ b < 64 ∧ c < 64 ∧ d < 64 := by simpa using hsmall
    rw [group, List.append_cons, List.append_cons (_ ++ _), Sha2.ofBytes_concat, Sha2.ofBytes_concat,
      Sha2.ofBytes_concat, hbyte (by omega), hbyte (by omega), hbyte (by omega)]
    simp only [digits, List.foldl_cons, List.foldl_nil, List.length_cons, List.length_nil, Nat.reduceAdd,
      Nat.reduceMul, Nat.reduceMod, Nat.reducePow]
    omega
  | _ :: _ :: _ :: _ :: _ :: _, h, _ => simp only [List.length_cons] at h; omega

/-- What a reader has that began with nothing and has taken letters: the bytes of the complete groups, and the values of
the letters after these. -/
structure Collected (letters : Text) (p : Progress) : Prop where
  begun_lt : p.begun.length < 4
  length : 3 * letters.length = 4 * p.bytes.length + 3 * p.begun.length
  small : ∀ v ∈ p.begun, v < 64
  value : number letters = digits (Sha2.ofBytes p.bytes.reverse) p.begun

theorem Collected.push {letters : Text} {p : Progress} (h : Collected letters p) {c : CodePoint} (hc : c ∈ alphabet) :
    Collected (letters ++ [c]) (p.push (alphabet.idxOf c)) := by
  obtain ⟨hbegun, hlength, hsmall, hnumber⟩ := h
  have hv : alphabet.idxOf c < 64 := List.idxOf_lt_length_of_mem hc
  generalize hw : alphabet.idxOf c = v at hv
  have hsmall' : ∀ w ∈ p.begun ++ [v], w < 64 := by
    intro w hw
    rcases List.mem_append.mp hw with hw | hw
    · exact hsmall w hw
    · exact List.mem_singleton.mp hw ▸ hv
  have hnumber' : number (letters ++ [c]) = digits (Sha2.ofBytes p.bytes.reverse) (p.begun ++ [v]) := by
    rw [number_concat, hnumber, hw, digits, digits, List.foldl_append]
    rfl
  by_cases hthree : p.begun.length < 3
  · rw [push_of_lt hthree]
    refine ⟨?_, ?_, hsmall', hnumber'⟩
    · rw [List.length_append, List.length_singleton]
      omega
    · simp only [List.length_append, List.length_singleton]
      omega
  · obtain ⟨a, b, d, hb⟩ := List.length_eq_three.mp (show p.begun.length = 3 by omega)
    rw [push_of_three hb]
    rw [hb] at hsmall' hnumber' hlength
    refine ⟨Nat.succ_pos 3, ?_, by simp, ?_⟩
    · have hgroup : (group [a, b, d, v]).length = 3 := rfl
      simp only [List.length_append, List.length_reverse, hgroup, List.length_cons, List.length_nil] at hlength ⊢
      omega
    · have hgroup := ofBytes_append_group p.bytes.reverse hsmall' (by simp) (by simp)
      have hbytes : ((group [a, b, d, v]).reverse ++ p.bytes).reverse = p.bytes.reverse ++ group [a, b, d, v] := by simp
      rw [hnumber', hbytes]
      simpa [digits] using hgroup.symm

theorem collected (letters : Text) (h : ∀ c ∈ letters, c ∈ alphabet) :
    Collected letters (Progress.collect {} letters) := by
  induction letters using List.reverseRecOn with
  | nil => exact ⟨Nat.succ_pos 3, rfl, fun _ hv => (nomatch hv), rfl⟩
  | append_singleton letters c ih =>
    have hletters := ih fun d hd => h d (List.mem_append_left _ hd)
    rw [Progress.collect, List.foldl_append]
    exact hletters.push (h c (by simp))

/-- The bytes that are read stand for the number that the letters are the digits of. -/
theorem Spells.of_collect {letters : Text} (h : ∀ c ∈ letters, c ∈ alphabet) (hone : letters.length % 4 ≠ 1) :
    Spells letters (Progress.collect {} letters).result := by
  obtain ⟨hbegun, hlength, hsmall, hnumber⟩ := collected letters h
  have hmod : letters.length * 6 % 8 = (Progress.collect {} letters).begun.length * 6 % 8 := by omega
  constructor
  · rw [Progress.result, List.length_append, List.length_reverse, length_group (by omega)]
    omega
  · rw [Progress.result, ofBytes_append_group _ hsmall (by omega) (by omega), hnumber, hmod]

/-! ## The strict reader -/

/-- So much padding may follow when a group has `begun` letters and there have been `pads` padding characters since: any
after a complete group, and otherwise as much as fills the group. -/
def Closes (begun pads n : Nat) : Prop := begun = 0 ∨ 2 ≤ begun ∧ begun + pads + n = 4

/-- What is to be known of a reader: its group is not complete, with the padding or without, and there is no padding
before there has been any. -/
structure Progress.Sound (p : Progress) : Prop where
  begun_lt : p.begun.length < 4
  open_ : 2 ≤ p.begun.length → p.begun.length + p.pads < 4
  pads : p.padded = false → p.pads = 0

theorem Progress.Sound.push {p : Progress} (h : p.Sound) (v : Nat) : (p.push v).Sound := by
  have hlength := length_begun_push h.begun_lt v
  have hpads := pads_push p v
  exact ⟨by omega, fun _ => by omega, fun _ => hpads⟩

/-- The rest of a text that a strict reader accepts: letters, unless there has been padding, and padding that closes the
last group. -/
structure Accepts (p : Progress) (t letters : Text) (n : Nat) : Prop where
  eq : t = letters ++ List.replicate n pad
  mem : ∀ c ∈ letters, c ∈ alphabet
  padded : p.padded = true → letters = []
  closes : Closes ((p.begun.length + letters.length) % 4) p.pads n

section Reader

variable {p : Progress} {letters t : Text} {n : Nat} {c : CodePoint}

theorem accepts_nil_iff : Accepts p [] letters n ↔ letters = [] ∧ n = 0 ∧ Closes (p.begun.length % 4) p.pads 0 := by
  constructor
  · rintro ⟨he, -, -, hc⟩
    obtain ⟨rfl, hn⟩ := List.append_eq_nil_iff.mp he.symm
    obtain rfl := List.replicate_eq_nil_iff pad |>.mp hn
    exact ⟨rfl, rfl, hc⟩
  · rintro ⟨rfl, rfl, hc⟩
    exact ⟨rfl, by simp, fun _ => rfl, hc⟩

/-- After padding there is padding only. -/
theorem accepts_pad_iff : Accepts p (pad :: t) letters n ↔
    letters = [] ∧ ∃ m, n = m + 1 ∧ t = List.replicate m pad ∧ Closes (p.begun.length % 4) p.pads (m + 1) := by
  constructor
  · rintro ⟨he, hm, -, hc⟩
    cases letters with
    | cons d letters =>
      obtain ⟨rfl, -⟩ := List.cons.inj he
      exact absurd (hm pad List.mem_cons_self) pad_not_mem_alphabet
    | nil =>
      cases n with
      | zero => cases he
      | succ m => exact ⟨rfl, m, rfl, (List.cons.inj he).2, hc⟩
  · rintro ⟨rfl, m, rfl, rfl, hc⟩
    exact ⟨rfl, by simp, fun _ => rfl, hc⟩

/-- A reader that has seen padding accepts padding only. -/
theorem accepts_iff_of_padded (h : p.padded = true) : Accepts p t letters n ↔
    letters = [] ∧ t = List.replicate n pad ∧ Closes (p.begun.length % 4) p.pads n := by
  constructor
  · rintro ⟨ht, -, hp, hc⟩
    obtain rfl := hp h
    exact ⟨rfl, ht, hc⟩
  · rintro ⟨rfl, ht, hc⟩
    exact ⟨ht, by simp, fun _ => rfl, hc⟩

/-- What is neither a letter nor padding is not accepted. -/
theorem not_accepts_of_not_mem (hp : c ≠ pad) (hc : c ∉ alphabet) : ¬ Accepts p (c :: t) letters n := by
  rintro ⟨he, hm, -, -⟩
  cases letters with
  | cons d letters =>
    obtain ⟨rfl, -⟩ := List.cons.inj he
    exact hc (hm c List.mem_cons_self)
  | nil =>
    cases n with
    | zero => cases he
    | succ m => exact hp (List.cons.inj he).1

/-- A letter is accepted by a reader that has seen no padding. -/
theorem accepts_letter_iff (h : p.Sound) (hc : c ∈ alphabet) : Accepts p (c :: t) letters n ↔
    p.padded = false ∧ ∃ rest, letters = c :: rest ∧ Accepts (p.push (alphabet.idxOf c)) t rest n := by
  have hlength := length_begun_push h.begun_lt (alphabet.idxOf c)
  have hpads := pads_push p (alphabet.idxOf c)
  have hcloses (k : Nat) (hp : p.padded = false) : Closes ((p.begun.length + (k + 1)) % 4) p.pads n ↔
      Closes (((p.push (alphabet.idxOf c)).begun.length + k) % 4) (p.push (alphabet.idxOf c)).pads n := by
    have hmod : (p.begun.length + (k + 1)) % 4 = ((p.begun.length + 1) % 4 + k) % 4 := by omega
    rw [hlength, hpads, h.pads hp, hmod]
  constructor
  · rintro ⟨he, hm, hp, hcl⟩
    cases letters with
    | nil =>
      cases n with
      | zero => cases he
      | succ m => exact absurd ((List.cons.inj he).1 ▸ hc) pad_not_mem_alphabet
    | cons d letters =>
      obtain ⟨rfl, ht⟩ := List.cons.inj he
      have hp : p.padded = false := by
        rw [← Bool.not_eq_true]
        exact fun hn => nomatch hp hn
      exact ⟨hp, letters, rfl, ht, fun d hd => hm d (List.mem_cons_of_mem _ hd),
        fun hn => absurd ((padded_push p _).symm.trans hn) (by simp [hp]), (hcloses _ hp).mp hcl⟩
  · rintro ⟨hp, rest, rfl, ht, hm, -, hcl⟩
    refine ⟨congrArg (c :: ·) ht, fun d hd => ?_, fun hn => absurd hn (by simp [hp]), (hcloses _ hp).mpr hcl⟩
    rcases List.mem_cons.mp hd with rfl | hd
    · exact hc
    · exact hm d hd

end Reader

/-- **What a strict reader accepts** from where it is, and what it has then. -/
theorem readFrom_strict_eq_ok_iff {p : Progress} (h : p.Sound) {t : Text} {bytes : Bytes} :
    readFrom .strict p t = .ok bytes ↔ ∃ letters n, Accepts p t letters n ∧ bytes = (p.collect letters).result := by
  induction t generalizing p with
  | nil =>
    have hbegun := h.begun_lt
    have hcloses : Closes (p.begun.length % 4) p.pads 0 ↔ p.begun = [] := by
      rw [Closes, Nat.mod_eq_of_lt hbegun, ← List.length_eq_zero_iff]
      have := h.open_
      omega
    simp only [accepts_nil_iff, hcloses]
    rw [readFrom]
    split
    next hb => simp [hb, Progress.collect, eq_comm]
    next hb => simp [hb]
    next hne _ =>
      have hne : p.begun ≠ [] := hne
      simp [hne]
  | cons c t ih =>
    by_cases hp : c = pad
    · subst hp
      -- Padding completes the group, or more of it has to follow; between two groups it makes no difference.
      have hbegun := h.begun_lt
      have hopen := h.open_
      have hrest {q : Progress} (hq : q.Sound) (hpadded : q.padded = true) : readFrom .strict q t = .ok bytes ↔
          ∃ m, t = List.replicate m pad ∧ Closes q.begun.length q.pads m ∧ bytes = q.result := by
        have hmod := Nat.mod_eq_of_lt hq.begun_lt
        rw [ih hq]
        simp only [accepts_iff_of_padded hpadded, hmod]
        constructor
        · rintro ⟨_, m, ⟨rfl, ht, hc⟩, hb⟩
          exact ⟨m, ht, hc, hb⟩
        · rintro ⟨m, ht, hc, hb⟩
          exact ⟨[], m, ⟨rfl, ht, hc⟩, hb⟩
      have hall : (∃ letters n, Accepts p (pad :: t) letters n ∧ bytes = (p.collect letters).result) ↔
          ∃ m, t = List.replicate m pad ∧ Closes p.begun.length p.pads (m + 1) ∧ bytes = p.result := by
        simp only [accepts_pad_iff, Nat.mod_eq_of_lt hbegun]
        constructor
        · rintro ⟨_, _, ⟨rfl, m, -, ht, hc⟩, hb⟩
          exact ⟨m, ht, hc, hb⟩
        · rintro ⟨m, ht, hc, hb⟩
          exact ⟨[], m + 1, ⟨rfl, m, rfl, ht, hc⟩, hb⟩
      rw [hall, readFrom, if_pos rfl]
      by_cases hk : 2 ≤ p.begun.length
      · by_cases hfull : 4 ≤ p.begun.length + (p.pads + 1)
        · have hcloses (m : Nat) : Closes p.begun.length p.pads (m + 1) ↔ m = 0 := by
            rw [Closes]
            omega
          have hempty : (∃ m, t = List.replicate m pad ∧ m = 0 ∧ bytes = p.result) ↔ t = [] ∧ bytes = p.result := by
            constructor
            · rintro ⟨_, rfl, rfl, hb⟩
              exact ⟨rfl, hb⟩
            · rintro ⟨rfl, hb⟩
              exact ⟨0, rfl, rfl, hb⟩
          simp only [ge_iff_le, hk, hfull, hcloses, hempty, if_true, decide_true, Bool.and_self, Bool.true_and]
          cases t with
          | nil => simp [eq_comm]
          | cons => simp
        · have hcloses (m : Nat) : Closes p.begun.length p.pads (m + 1) ↔ Closes p.begun.length (p.pads + 1) m := by
            rw [Closes, Closes]
            omega
          simp only [ge_iff_le, hk, hfull, hcloses, if_true, decide_true, decide_false, Bool.and_false,
            Bool.false_eq_true, if_false]
          exact hrest ⟨hbegun, fun _ => by simpa using hfull, by rintro ⟨⟩⟩ rfl
      · have hcloses (m : Nat) : Closes p.begun.length p.pads (m + 1) ↔ Closes p.begun.length p.pads m := by
          rw [Closes, Closes]
          omega
        simp only [ge_iff_le, hk, hcloses, if_false, decide_false, Bool.false_and, Bool.false_eq_true]
        exact hrest ⟨hbegun, fun hn => absurd hn hk, by rintro ⟨⟩⟩ rfl
    · by_cases hc : c ∈ alphabet
      · obtain ⟨v, hv⟩ := mem_alphabet_iff.mp hc
        simp only [accepts_letter_iff h hc]
        rw [readFrom, if_neg hp, hv]
        cases hpadded : p.padded with
        | true => simp
        | false =>
          have hidx := idxOf_alphabet hv
          simp only [hidx, Bool.and_false, Bool.false_eq_true, if_false, true_and]
          rw [ih (h.push v)]
          constructor
          · rintro ⟨rest, n, ha, hb⟩
            refine ⟨c :: rest, n, ⟨rest, rfl, ha⟩, ?_⟩
            rw [hb, Progress.collect, Progress.collect, List.foldl_cons, hidx]
          · rintro ⟨_, n, ⟨rest, rfl, ha⟩, hb⟩
            refine ⟨rest, n, ha, ?_⟩
            rw [hb, Progress.collect, Progress.collect, List.foldl_cons, hidx]
      · have hv : value? c = none := by
          rw [Option.eq_none_iff_forall_ne_some]
          exact fun v hv => hc (mem_alphabet_iff.mpr ⟨v, hv⟩)
        rw [readFrom, if_neg hp, hv]
        simp [not_accepts_of_not_mem hp hc]

/-! ## Whole texts -/

theorem head?_append_replicate_eq_pad {letters : Text} {n : Nat} (h : ∀ c ∈ letters, c ∈ alphabet) :
    (letters ++ List.replicate n pad).head? = some pad ↔ letters = [] ∧ n ≠ 0 := by
  cases letters with
  | nil => cases n <;> simp [List.replicate_succ]
  | cons c letters =>
    have hc : c ≠ pad := fun he => pad_not_mem_alphabet (he ▸ h c List.mem_cons_self)
    simp [hc]

/-- What the strict reader accepts, and what it reads: letters, and padding only after a letter. -/
theorem decode_strict_eq_ok_iff {t : Text} {bytes : Bytes} :
    decode .strict t = .ok bytes ↔ ∃ letters n, t = letters ++ List.replicate n pad ∧ (∀ c ∈ letters, c ∈ alphabet) ∧
      (letters = [] → n = 0) ∧ Closes (letters.length % 4) 0 n ∧ bytes = (Progress.collect {} letters).result := by
  have hsound : ({} : Progress).Sound := ⟨Nat.succ_pos 3, fun h => absurd h (Nat.not_succ_le_zero 1), fun _ => rfl⟩
  have hread := @readFrom_strict_eq_ok_iff _ hsound t bytes
  have hlength (letters : Text) : (({} : Progress).begun.length + letters.length) % 4 = letters.length % 4 := by
    rw [show ({} : Progress).begun.length = 0 from rfl, Nat.zero_add]
  unfold decode
  split
  next hpad =>
    have hpad : t.head? = some pad := by simpa using hpad
    refine ⟨nofun, ?_⟩
    rintro ⟨letters, n, rfl, hm, hn, -⟩
    obtain ⟨rfl, hne⟩ := (head?_append_replicate_eq_pad hm).mp hpad
    exact absurd (hn rfl) hne
  next hpad =>
    have hpad : t.head? ≠ some pad := by simpa using hpad
    rw [hread]
    constructor
    · rintro ⟨letters, n, ⟨rfl, hm, -, hc⟩, hb⟩
      refine ⟨letters, n, rfl, hm, fun hnil => ?_, hlength letters ▸ hc, hb⟩
      exact by_contra fun hn => hpad ((head?_append_replicate_eq_pad hm).mpr ⟨hnil, hn⟩)
    · rintro ⟨letters, n, ht, hm, -, hc, hb⟩
      exact ⟨letters, n, ⟨ht, hm, nofun, (hlength letters).symm ▸ hc⟩, hb⟩

/-- The letters and the padding of a text can be told apart. -/
theorem letters_unique {letters letters' : Text} {n n' : Nat} (h : ∀ c ∈ letters, c ∈ alphabet)
    (h' : ∀ c ∈ letters', c ∈ alphabet)
    (he : letters ++ List.replicate n pad = letters' ++ List.replicate n' pad) : letters = letters' ∧ n = n' := by
  have hfilter {l : Text} (hl : ∀ c ∈ l, c ∈ alphabet) (k : Nat) :
      (l ++ List.replicate k pad).filter (· ≠ pad) = l := by
    rw [List.filter_append, List.filter_eq_self.mpr, List.filter_eq_nil_iff.mpr, List.append_nil]
    · intro c hc
      simp [List.eq_of_mem_replicate hc]
    · intro c hc
      simpa using fun hn : c = pad => pad_not_mem_alphabet (hn ▸ hl c hc)
  obtain rfl : letters = letters' := by rw [← hfilter h n, he, hfilter h' n']
  have hlength := congrArg List.length he
  simp only [List.length_append, List.length_replicate] at hlength
  exact ⟨rfl, by omega⟩

/-- **The strict reader accepts** the texts of the standard, and those with more padding than they need. -/
theorem exists_decode_strict_iff {t : Text} :
    (∃ bytes, decode .strict t = .ok bytes) ↔ IsStandard t ∨ IsOverpadded t := by
  simp only [decode_strict_eq_ok_iff]
  constructor
  · rintro ⟨_, letters, n, rfl, hm, hn, hc, -⟩
    rcases hc with hc | hc
    · by_cases hpads : n = 0
      · refine .inl ⟨letters, n, rfl, hm, by omega, ?_⟩
        rw [List.length_append, List.length_replicate, hpads]
        omega
      · exact .inr ⟨letters, n, rfl, hm, fun he => hpads (hn he), Nat.dvd_of_mod_eq_zero hc, Nat.pos_of_ne_zero hpads⟩
    · refine .inl ⟨letters, n, rfl, hm, by omega, ?_⟩
      rw [List.length_append, List.length_replicate]
      omega
  · rintro (⟨letters, n, rfl, hm, hn, hlength⟩ | ⟨letters, n, rfl, hm, hne, hlength, -⟩)
    · rw [List.length_append, List.length_replicate] at hlength
      refine ⟨_, letters, n, rfl, hm, fun he => ?_, ?_, rfl⟩
      · rw [he, List.length_nil] at hlength
        omega
      · rw [Closes]
        omega
    · exact ⟨_, letters, n, rfl, hm, fun he => absurd he hne, .inl (Nat.mod_eq_zero_of_dvd hlength), rfl⟩

/-- What is read is what the letters spell. -/
theorem spells_of_decode {letters : Text} {n : Nat} {bytes : Bytes} (hm : ∀ c ∈ letters, c ∈ alphabet)
    (h : decode .strict (letters ++ List.replicate n pad) = .ok bytes) : Spells letters bytes := by
  obtain ⟨letters', n', ht, hm', -, hc, rfl⟩ := decode_strict_eq_ok_iff.mp h
  obtain ⟨rfl, rfl⟩ := letters_unique hm hm' ht
  refine .of_collect hm fun hone => ?_
  rw [Closes, hone] at hc
  omega

/-- No text of the standard has more padding than it needs. -/
theorem IsStandard.not_isOverpadded {t : Text} (h : IsStandard t) : ¬ IsOverpadded t := by
  rintro ⟨letters, n, rfl, hm, -, hfour, hpos⟩
  obtain ⟨letters', n', ht, hm', htwo, hlength⟩ := h
  obtain ⟨rfl, rfl⟩ := letters_unique hm hm' ht
  rw [List.length_append, List.length_replicate] at hlength
  omega

end RemoteSigning.Base64
