import RemoteSigning.Proofs.Encoding.StrictBase64
import RemoteSigning.Proofs.Service.Classification

/-!
# The digest in an answer

The service writes a digest in base64 and names an algorithm. Which texts are accepted depends on the base64 alone if
the algorithm is recognised: the texts of the standard, and those with more padding than they need. What is accepted is
the digest that the letters spell; what is not accepted is a fault of the service.

- `HashToSign.exists_read_iff`: the texts that are accepted;
- `HashToSign.refused_of_read`: what becomes of an answer with any other text;
- `HashToSign.readsStandard_iff`: for which texts acceptance is that of the standard.
-/

namespace RemoteSigning.HashToSign

open Base64

variable {hash name : Text} {a : Algorithm}

/-! ## What is accepted -/

/-- A text that the strict reader accepts is in ASCII. -/
theorem isAscii_of_decode {bytes : Bytes} (h : decode .strict hash = .ok bytes) : hash.isAscii = true := by
  obtain ⟨letters, n, rfl, hm, -⟩ := decode_strict_eq_ok_iff.mp h
  have hletters : ∀ v : Fin 64, (letter v.val).isAscii = true := by decide
  refine List.all_eq_true.mpr fun c hc => ?_
  rcases List.mem_append.mp hc with hc | hc
  · obtain ⟨v, hv⟩ := mem_alphabet_iff.mp (hm c hc)
    obtain ⟨hlt, rfl⟩ := letter_of_value? hv
    exact hletters ⟨v, hlt⟩
  · rw [List.eq_of_mem_replicate hc]
    decide

/-- A digest is accepted with its algorithm if it is what its text is read as, and not empty. -/
theorem read_eq_ok_iff (ha : Algorithm.parse? name = some a) {h : HashToSign} :
    read hash name = .ok h ↔ decode .strict hash = .ok h.digest ∧ h.digest ≠ [] ∧ h.algorithm = a := by
  constructor
  · intro hr
    have hne := digest_ne_nil_of_read hr
    unfold read at hr
    split at hr
    · cases hr
    · rw [ha] at hr
      split at hr
      · cases hr
      · cases hr
      next hd =>
        cases hr
        exact ⟨hd, hne, rfl⟩
  · rintro ⟨hd, hne, rfl⟩
    obtain ⟨b, rest, hb⟩ := List.exists_cons_of_ne_nil hne
    rw [read, isAscii_of_decode hd, hd, hb, ha]
    obtain ⟨digest, algorithm⟩ := h
    simp only at hb
    rw [hb]
    rfl

/-- Only the empty text is read as no bytes. -/
theorem ne_nil_iff_of_decode {bytes : Bytes} (h : decode .strict hash = .ok bytes) : bytes ≠ [] ↔ hash ≠ [] := by
  obtain ⟨letters, n, rfl, hm, hn, hc, -⟩ := decode_strict_eq_ok_iff.mp h
  have hlength := (spells_of_decode hm h).length
  rw [Closes] at hc
  rw [← List.length_pos_iff, ← List.length_pos_iff, List.length_append, List.length_replicate, hlength]
  rcases Nat.eq_zero_or_pos letters.length with hl | hl
  · have := hn (List.length_eq_zero_iff.mp hl)
    omega
  · omega

/-- With a recognised algorithm the texts that are accepted are those which the strict reader of base64 accepts. -/
theorem exists_read_iff (ha : Algorithm.parse? name = some a) :
    (∃ h, read hash name = .ok h) ↔ hash ≠ [] ∧ (IsStandard hash ∨ IsOverpadded hash) := by
  rw [← exists_decode_strict_iff]
  constructor
  · rintro ⟨h, hr⟩
    obtain ⟨hd, hne, -⟩ := (read_eq_ok_iff ha).mp hr
    exact ⟨(ne_nil_iff_of_decode hd).mp hne, h.digest, hd⟩
  · rintro ⟨hne, bytes, hd⟩
    exact ⟨⟨bytes, a⟩, (read_eq_ok_iff ha).mpr ⟨hd, (ne_nil_iff_of_decode hd).mpr hne, rfl⟩⟩

/-! ## What is not accepted -/

/-- An answer with a text that is not accepted is a fault of the service. -/
theorem refused_of_read {f : HashFault} (hr : read hash name = .error f) {answer : HttpAnswer}
    {members : List (Text × Json)} (hs : answer.isSuccess = true)
    (hb : readBody .phase1 answer.body = .ok (.object members)) (hh : Json.get? members "hash" = some (.text hash))
    (hn : Json.get? members "algo" = some (.text name)) :
    ∃ e, readHttpAnswer .phase1 answer = .error (.service e) ∧ e.isProtocol = true := by
  have hanswer : readHttpAnswer .phase1 answer = readMembers .phase1 members := by
    rw [readHttpAnswer, hs, hb]
    rfl
  rw [hanswer]
  obtain ⟨fs, -, hr'⟩ | ⟨x, hx, ⟨e, -, hr'⟩ | ⟨h, hx', -⟩⟩ := @readMembers_phase1 members _ rfl
  · exact ⟨_, hr', rfl⟩
  · exact ⟨_, hr', rfl⟩
  · obtain ⟨hh', -, -, hn', -⟩ := Phase1Answer.read_eq_ok_iff.mp hx
    obtain rfl := Json.text.inj (Option.some.inj (hh'.symm.trans hh))
    obtain rfl := Json.text.inj (Option.some.inj (hn'.symm.trans hn))
    cases hr.symm.trans hx'

/-! ## The standard -/

/-- A digest is read as the standard has it: the texts that are accepted are those of the standard which are not empty;
they are read as so many bytes, at least one, as there are places for without the padding, and these bytes are what the
letters spell; any other text is refused, and an answer with it is a fault of the service. -/
structure ReadsStandard (hash name : Text) : Prop where
  accepted : (∃ h, read hash name = .ok h) ↔ hash ≠ [] ∧ IsStandard hash
  digest : ∀ h, read hash name = .ok h → h.digest ≠ [] ∧ Algorithm.parse? name = some h.algorithm ∧
    ∃ (letters : Text) (pads : Nat), hash = letters ++ List.replicate pads pad ∧ (∀ c ∈ letters, c ∈ alphabet) ∧
      h.digest.length = 3 * hash.length / 4 - pads ∧ Sha2.ofBytes h.digest = number letters / 4 ^ pads
  refused : ¬ (hash ≠ [] ∧ IsStandard hash) → (∃ f, read hash name = .error f) ∧
    ∀ answer members, answer.isSuccess = true → readBody .phase1 answer.body = .ok (.object members) →
      Json.get? members "hash" = some (.text hash) → Json.get? members "algo" = some (.text name) →
      ∃ e, readHttpAnswer .phase1 answer = .error (.service e) ∧ e.isProtocol = true

/-- The digest in a text of the standard. -/
theorem length_and_value_of_isStandard {bytes : Bytes} (h : IsStandard hash) (hd : decode .strict hash = .ok bytes) :
    ∃ (letters : Text) (pads : Nat), hash = letters ++ List.replicate pads pad ∧ (∀ c ∈ letters, c ∈ alphabet) ∧
      bytes.length = 3 * hash.length / 4 - pads ∧ Sha2.ofBytes bytes = number letters / 4 ^ pads := by
  obtain ⟨letters, pads, rfl, hm, htwo, hfour⟩ := h
  obtain ⟨hlength, hvalue⟩ := spells_of_decode hm hd
  rw [List.length_append, List.length_replicate] at hfour
  have hspare : letters.length * 6 % 8 = 2 * pads := by omega
  refine ⟨letters, pads, rfl, hm, ?_, ?_⟩
  · rw [hlength, List.length_append, List.length_replicate]
    omega
  · rw [hvalue, hspare, Nat.pow_mul]

/-- **A digest is read as the standard has it**, with a recognised algorithm, unless complete groups of letters have
padding: this is accepted as well. -/
theorem readsStandard_iff (ha : Algorithm.parse? name = some a) : ReadsStandard hash name ↔ ¬ IsOverpadded hash := by
  constructor
  · rintro ⟨haccepted, -, -⟩ hover
    have hne : hash ≠ [] := by
      obtain ⟨letters, n, rfl, -, hl, -⟩ := hover
      exact List.append_ne_nil_of_left_ne_nil hl _
    exact (haccepted.mp ((exists_read_iff ha).mpr ⟨hne, .inr hover⟩)).2.not_isOverpadded hover
  · intro hover
    have haccepted : (∃ h, read hash name = .ok h) ↔ hash ≠ [] ∧ IsStandard hash := by
      rw [exists_read_iff ha, or_iff_left hover]
    refine ⟨haccepted, fun h hr => ?_, fun hn => ?_⟩
    · obtain ⟨hd, hne, rfl⟩ := (read_eq_ok_iff ha).mp hr
      exact ⟨hne, ha, length_and_value_of_isStandard (haccepted.mp ⟨h, hr⟩).2 hd⟩
    · cases hr : read hash name with
      | ok h => exact absurd (haccepted.mp ⟨h, hr⟩) hn
      | error f => exact ⟨⟨f, rfl⟩, fun _ _ hs hb hh hn => refused_of_read hr hs hb hh hn⟩

/-- Two bytes in four characters, with an algorithm that is named in lower case after a blank. -/
theorem readsStandard_shortDigest :
    Algorithm.parse? " rsa-sha256" = some ⟨.sha256, some .rsa⟩ ∧ ReadsStandard "Zm8=" " rsa-sha256" := by
  have ha : Algorithm.parse? " rsa-sha256" = some ⟨.sha256, some .rsa⟩ := by decide +kernel
  refine ⟨ha, (readsStandard_iff ha).mpr ?_⟩
  rintro ⟨letters, n, he, -, hne, hfour, hpos⟩
  have hlength : 4 = letters.length + n := by simpa [Text.ofString] using congrArg List.length he
  have := List.length_pos_iff.mpr hne
  omega

/-- Four letters and one padding character are accepted. -/
theorem not_readsStandard_overpadded : ¬ ReadsStandard "Zm9v=" "SHA-256" := by
  intro h
  have hread : ∃ x, read "Zm9v=" "SHA-256" = .ok x := ⟨⟨[0x66, 0x6F, 0x6F], ⟨.sha256, none⟩⟩, by decide +kernel⟩
  obtain ⟨letters, n, -, -, -, hfour⟩ := (h.accepted.mp hread).2
  exact absurd hfour (by decide)

end RemoteSigning.HashToSign
