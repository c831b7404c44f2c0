import RemoteSigning.Proofs.Service.Transcript
import RemoteSigning.Proofs.Session.Isolation

/-!
# How the person is written

A personal code has eleven digits and a phone number seven to fifteen, perhaps after a plus sign. In the digits of ASCII
and with nothing around them this is the grammar of both (`Text.IsPersonalCode`, `Text.IsPhoneNumber`). More than that is
accepted: the digits may be those of any script, and one line feed may follow them (`Text.IsNumeralOfAnyScript`). The
two differ in such code points only, so that a plain text (`Text.IsPlain`) is accepted exactly if it has the grammar.

- `isPersonalCode_iff`, `isPhoneNumber_iff`: what is accepted;
- `isPersonalCode_iff_of_isPlain`, `isPhoneNumber_iff_of_isPlain`: what is accepted among plain texts;
- `Network.says_person_of_posted`: a request for Mobile-ID says the code and the number of the session's person;
- `keepsGrammar_iff`: for which persons the grammar is kept.
-/

namespace RemoteSigning

/-! ## The grammar -/

namespace Text

/-- Digits of ASCII and nothing else, their number within bounds. -/
structure IsDigits (least greatest : Nat) (t : Text) : Prop where
  digit : ∀ c ∈ t, c.isAsciiDigit = true
  least_le : least ≤ t.length
  le_greatest : t.length ≤ greatest

/-- Eleven digits. -/
def IsPersonalCode (t : Text) : Prop := t.IsDigits 11 11

/-- Seven to fifteen digits, perhaps after a plus sign. -/
def IsPhoneNumber (t : Text) : Prop :=
  ∃ sign digits : Text, t = sign ++ digits ∧ (sign = [] ∨ sign = [CodePoint.ofChar '+']) ∧ digits.IsDigits 7 15

/-- Decimal digits of any script, their number within bounds, and perhaps a line feed. -/
def IsNumeralOfAnyScript (least greatest : Nat) (t : Text) : Prop :=
  ∃ digits ending : Text, t = digits ++ ending ∧ (ending = [] ∨ ending = [CodePoint.ofChar '\n']) ∧
    (∀ c ∈ digits, c.isDecimal = true) ∧ least ≤ digits.length ∧ digits.length ≤ greatest

/-- A phone number in digits of any script. -/
def IsPhoneNumberOfAnyScript (t : Text) : Prop :=
  ∃ sign rest : Text, t = sign ++ rest ∧ (sign = [] ∨ sign = [CodePoint.ofChar '+']) ∧ rest.IsNumeralOfAnyScript 7 15

/-- ASCII without a line feed. -/
def IsPlain (t : Text) : Prop := ∀ c ∈ t, c.isAscii = true ∧ c ≠ CodePoint.ofChar '\n'

end Text

/-! ## Digits -/

theorem CodePoint.isAscii_of_isAsciiDigit {c : CodePoint} (h : c.isAsciiDigit = true) : c.isAscii = true := by
  simp only [isAsciiDigit, Bool.and_eq_true, decide_eq_true_eq] at h
  exact decide_eq_true (by omega)

/-- Among the digits of all scripts those of ASCII are in ASCII. -/
theorem CodePoint.isAsciiDigit_of_isDecimal {c : CodePoint} (h : c.isDecimal = true) (ha : c.isAscii = true) :
    c.isAsciiDigit = true := by
  have hzeros : ∀ z ∈ zeros, z = 0x30 ∨ 0x80 ≤ z := by decide
  obtain ⟨z, hz, hc⟩ := List.any_eq_true.mp h
  have ha : c.val < 0x80 := of_decide_eq_true ha
  simp only [isAsciiDigit, Bool.and_eq_true, decide_eq_true_eq] at hc ⊢
  have := hzeros z hz
  omega

namespace Text

variable {least greatest : Nat} {t : Text}

theorem IsDigits.isPlain (h : t.IsDigits least greatest) : t.IsPlain := fun c hc => by
  refine ⟨CodePoint.isAscii_of_isAsciiDigit (h.digit c hc), ?_⟩
  rintro rfl
  exact absurd (h.digit _ hc) (by decide)

theorem IsDigits.isNumeral (h : t.IsDigits least greatest) : t.isNumeral least greatest = true :=
  isNumeral_of_ascii (List.all_eq_true.mpr h.digit) h.least_le h.le_greatest

theorem isNumeral_iff : t.isNumeral least greatest = true ↔
    (∀ c ∈ t, c.isDecimal = true) ∧ least ≤ t.length ∧ t.length ≤ greatest := by
  simp [isNumeral, and_assoc]

/-! ## The line feed at the end -/

/-- Nothing else is dropped than a line feed at the end. -/
theorem dropLineFeed_append {ending : Text} (h : CodePoint.ofChar '\n' ∉ t)
    (he : ending = [] ∨ ending = [CodePoint.ofChar '\n']) : dropLineFeed (t ++ ending) = t := by
  rcases he with rfl | rfl
  · rw [List.append_nil]
    unfold dropLineFeed
    split
    next c rest hrev =>
      have hc : c ∈ t := List.mem_reverse.mp (hrev ▸ List.mem_cons_self)
      exact if_neg fun hn : c = CodePoint.ofChar '\n' => h (hn ▸ hc)
    · rfl
  · simp [dropLineFeed]

/-- What is dropped is a line feed, if anything. -/
theorem exists_eq_dropLineFeed_append (t : Text) :
    ∃ ending, t = t.dropLineFeed ++ ending ∧ (ending = [] ∨ ending = [CodePoint.ofChar '\n']) := by
  unfold dropLineFeed
  split
  next c rest hrev =>
    split
    next hc =>
      refine ⟨[CodePoint.ofChar '\n'], ?_, .inr rfl⟩
      rw [← List.reverse_reverse t, hrev, List.reverse_cons, hc]
    · exact ⟨[], (List.append_nil t).symm, .inl rfl⟩
  · exact ⟨[], (List.append_nil t).symm, .inl rfl⟩

/-- No digit is a line feed. -/
theorem lineFeed_not_mem (h : ∀ c ∈ t, c.isDecimal = true) : CodePoint.ofChar '\n' ∉ t :=
  fun hm => absurd (h _ hm) (by decide)

theorem isNumeral_dropLineFeed_iff :
    t.dropLineFeed.isNumeral least greatest = true ↔ t.IsNumeralOfAnyScript least greatest := by
  constructor
  · intro h
    obtain ⟨ending, ht, he⟩ := t.exists_eq_dropLineFeed_append
    exact ⟨_, ending, ht, he, isNumeral_iff.mp h⟩
  · rintro ⟨digits, ending, rfl, he, h⟩
    rw [dropLineFeed_append (lineFeed_not_mem h.1) he]
    exact isNumeral_iff.mpr h

/-- A plain numeral is one in the digits of ASCII. -/
theorem IsNumeralOfAnyScript.isDigits (h : t.IsNumeralOfAnyScript least greatest) (hp : t.IsPlain) :
    t.IsDigits least greatest := by
  obtain ⟨digits, ending, rfl, rfl | rfl, hd, hl, hg⟩ := h
  · rw [List.append_nil] at hp ⊢
    exact ⟨fun c hc => CodePoint.isAsciiDigit_of_isDecimal (hd c hc) (hp c hc).1, hl, hg⟩
  · exact absurd rfl (hp (CodePoint.ofChar '\n') (by simp)).2

theorem IsDigits.isNumeralOfAnyScript (h : t.IsDigits least greatest) : t.IsNumeralOfAnyScript least greatest :=
  ⟨t, [], (List.append_nil t).symm, .inl rfl, isNumeral_iff.mp h.isNumeral⟩

end Text

/-! ## What is accepted -/

section Accepted

variable {t : Text}

theorem isPersonalCode_iff : isPersonalCode t = true ↔ t.IsNumeralOfAnyScript 11 11 := Text.isNumeral_dropLineFeed_iff

theorem isPhoneNumber_iff : isPhoneNumber t = true ↔ t.IsPhoneNumberOfAnyScript := by
  constructor
  · intro h
    obtain ⟨ending, ht, he⟩ := t.exists_eq_dropLineFeed_append
    unfold isPhoneNumber at h
    split at h
    next c rest hcons =>
      rw [hcons] at ht
      split at h
      next hc =>
        subst hc
        exact ⟨[CodePoint.ofChar '+'], rest ++ ending, ht, .inr rfl, rest, ending, rfl, he, Text.isNumeral_iff.mp h⟩
      · exact ⟨[], t, rfl, .inl rfl, c :: rest, ending, ht, he, Text.isNumeral_iff.mp h⟩
    · cases h
  · rintro ⟨sign, rest, rfl, hs, digits, ending, rfl, he, hd, hl, hg⟩
    have hfeed : CodePoint.ofChar '\n' ∉ sign ++ digits := by
      rw [List.mem_append]
      rintro (hm | hm)
      · rcases hs with rfl | rfl
        · cases hm
        · exact absurd (List.mem_singleton.mp hm) (by decide)
      · exact Text.lineFeed_not_mem hd hm
    rw [isPhoneNumber, ← List.append_assoc, Text.dropLineFeed_append hfeed he]
    have hnumeral := Text.isNumeral_iff.mpr ⟨hd, hl, hg⟩
    rcases hs with rfl | rfl
    · cases digits with
      | nil => exact absurd hl (by decide)
      | cons c digits =>
        have hc : c ≠ CodePoint.ofChar '+' := by
          rintro rfl
          exact absurd (hd _ List.mem_cons_self) (by decide)
        exact (if_neg hc).trans hnumeral
    · exact (if_pos rfl).trans hnumeral

/-- Among plain texts the personal codes are those of the grammar. -/
theorem isPersonalCode_iff_of_isPlain (hp : t.IsPlain) : isPersonalCode t = true ↔ t.IsPersonalCode :=
  isPersonalCode_iff.trans ⟨fun h => h.isDigits hp, fun h => h.isNumeralOfAnyScript⟩

/-- Among plain texts the phone numbers are those of the grammar. -/
theorem isPhoneNumber_iff_of_isPlain (hp : t.IsPlain) : isPhoneNumber t = true ↔ t.IsPhoneNumber := by
  rw [isPhoneNumber_iff]
  constructor
  · rintro ⟨sign, rest, rfl, hs, h⟩
    exact ⟨sign, rest, rfl, hs, h.isDigits fun c hc => hp c (List.mem_append_right _ hc)⟩
  · rintro ⟨sign, digits, rfl, hs, h⟩
    exact ⟨sign, digits, rfl, hs, h.isNumeralOfAnyScript⟩

theorem Text.IsPhoneNumber.isPlain (h : t.IsPhoneNumber) : t.IsPlain := by
  obtain ⟨sign, digits, rfl, hs, h⟩ := h
  intro c hc
  rcases List.mem_append.mp hc with hc | hc
  · rcases hs with rfl | rfl
    · cases hc
    · obtain rfl := List.mem_singleton.mp hc
      decide
  · exact h.isPlain c hc

theorem MobileId.exists_make_iff (code phone : Text) :
    (∃ p, MobileId.make code phone = .ok p) ↔ isPersonalCode code = true ∧ isPhoneNumber phone = true := by
  unfold MobileId.make
  split
  next hc =>
    split
    next hp => exact ⟨fun _ => ⟨hc, hp⟩, fun _ => ⟨_, rfl⟩⟩
    next hp => exact ⟨fun ⟨_, h⟩ => (nomatch h), fun h => absurd h.2 hp⟩
  next hc => exact ⟨fun ⟨_, h⟩ => (nomatch h), fun h => absurd h.1 hc⟩

end Accepted

/-! ## What goes out -/

/-- A document that goes out has no surrogates. -/
theorem Outgoing.isScalar_of_prepare {address code phone document : Text} {url : Url} {body : Text}
    (h : (Outgoing.mobileId code phone document).prepare address = .ok (url, body)) : document.isScalar = true := by
  obtain ⟨_, hcheck, -⟩ := exists_of_bind_eq_ok h
  by_contra hn
  have hproblem : problem? document = some .stringUnicode := by simp [problem?, hn]
  simp [checkMembers, faults, hproblem] at hcheck

/-- A request for Mobile-ID says the code and the number of the session's person. -/
theorem Network.says_person_of_posted {address : Text} {c : Coordinator} {l : List (Text × Incident)} {id : Text}
    {url : Url} {body : Text} (h : .posted .mobileId url body ∈ turnsOf id ((init address c).run l).2) :
    ∃ s p, ((init address c).run l).1.session? id = some s ∧ s.request.signer = .mobileId p ∧
      Json.read .default body = .ok (.object [("isikukood", .text p.personalCode), ("nr", .text p.phoneNumber),
        ("tekst", .text s.request.document)]) := by
  obtain ⟨s, hs, hl⟩ := exists_life h
  obtain ⟨q, way, heard, ht, hd, hh⟩ := hl.exists_trail (List.ne_nil_of_mem h)
  obtain ⟨q', hm, hlast⟩ := ht.exists_of_outgoing (Session.mem_way hh rfl (hd ▸ h)) rfl
  rcases Call.mem_opening hm with hc | ⟨o, url', body', ho, hp, hc⟩
  · cases hc
  obtain ⟨he, rfl, rfl⟩ := Turn.posted.inj hc
  cases q' with
  | mobileId p =>
    obtain rfl := Call.submit.inj ho
    -- Nothing follows this call, so it is the one to which the way of the session leads.
    obtain rfl : Pending.mobileId p = q := hlast.resolve_right fun ⟨_, _, hl⟩ => nomatch hl
    have hdocument := Outgoing.isScalar_of_prepare hp
    refine ⟨s, p, hs, ht.mobileId.1, ?_⟩
    rw [Outgoing.eq_text_of_prepare hp]
    exact ((decodes_to_held hdocument).2.2.2.1 p).text
  | phase1 => obtain rfl := Call.submit.inj ho; cases he
  | phase2 => obtain rfl := Call.submit.inj ho; cases he
  | _ => cases ho

/-! ## The grammar and the persons -/

/-- A personal code and a phone number are accepted exactly if they have the grammar, and are refused otherwise. What
requests for Mobile-ID say of a person with this code and this number has the grammar. -/
structure KeepsGrammar (code phone : Text) : Prop where
  accepted : (∃ p, MobileId.make code phone = .ok p) ↔ code.IsPersonalCode ∧ phone.IsPhoneNumber
  refused : ¬ (code.IsPersonalCode ∧ phone.IsPhoneNumber) →
    MobileId.make code phone = .error .personalCode ∨ MobileId.make code phone = .error .phoneNumber
  posted : ∀ address c l id s p url body, ((Network.init address c).run l).1.session? id = some s →
    s.request.signer = .mobileId p → p.personalCode = code → p.phoneNumber = phone →
    .posted .mobileId url body ∈ turnsOf id ((Network.init address c).run l).2 →
    ∃ isikukood nr document, Json.read .default body =
        .ok (.object [("isikukood", .text isikukood), ("nr", .text nr), ("tekst", .text document)]) ∧
      isikukood.IsPersonalCode ∧ nr.IsPhoneNumber

theorem MobileId.make_eq_error {code phone : Text} (h : ¬ ∃ p, MobileId.make code phone = .ok p) :
    MobileId.make code phone = .error .personalCode ∨ MobileId.make code phone = .error .phoneNumber := by
  cases hm : MobileId.make code phone with
  | ok p => exact absurd ⟨p, hm⟩ h
  | error e =>
    unfold MobileId.make at hm
    split at hm
    · split at hm
      · cases hm
      · cases hm; exact .inr rfl
    · cases hm; exact .inl rfl

/-- **The grammar is kept** by all personal codes and phone numbers but those that are numerals of the right length
only if the digits of all scripts count, or a line feed may follow: these are accepted as well. -/
theorem keepsGrammar_iff (code phone : Text) :
    KeepsGrammar code phone ↔
      ¬ (code.IsNumeralOfAnyScript 11 11 ∧ phone.IsPhoneNumberOfAnyScript ∧ ¬ (code.IsPlain ∧ phone.IsPlain)) := by
  constructor
  · rintro ⟨haccepted, -, -⟩ ⟨hc, hp, hplain⟩
    obtain ⟨hc, hp⟩ := haccepted.mp
      ((MobileId.exists_make_iff code phone).mpr ⟨isPersonalCode_iff.mpr hc, isPhoneNumber_iff.mpr hp⟩)
    exact hplain ⟨hc.isPlain, hp.isPlain⟩
  · intro h
    have hgrammar : isPersonalCode code = true ∧ isPhoneNumber phone = true ↔
        code.IsPersonalCode ∧ phone.IsPhoneNumber := by
      constructor
      · rintro ⟨hc, hp⟩
        obtain ⟨hcp, hpp⟩ : code.IsPlain ∧ phone.IsPlain :=
          by_contra fun hn => h ⟨isPersonalCode_iff.mp hc, isPhoneNumber_iff.mp hp, hn⟩
        exact ⟨(isPersonalCode_iff_of_isPlain hcp).mp hc, (isPhoneNumber_iff_of_isPlain hpp).mp hp⟩
      · rintro ⟨hc, hp⟩
        exact ⟨(isPersonalCode_iff_of_isPlain hc.isPlain).mpr hc, (isPhoneNumber_iff_of_isPlain hp.isPlain).mpr hp⟩
    have haccepted := (MobileId.exists_make_iff code phone).trans hgrammar
    refine ⟨haccepted, fun hn => MobileId.make_eq_error fun hm => hn (haccepted.mp hm), ?_⟩
    rintro address c l id s p url body hs hsigner rfl rfl hposted
    obtain ⟨s', p', hs', hsigner', hread⟩ := Network.says_person_of_posted hposted
    obtain rfl := Option.some.inj (hs.symm.trans hs')
    obtain rfl := Signer.mobileId.inj (hsigner.symm.trans hsigner')
    exact ⟨_, _, _, hread, hgrammar.mp ⟨p.isPersonalCode_personalCode, p.isPhoneNumber_phoneNumber⟩⟩

/-- Eleven digits and a line feed are accepted. -/
theorem not_keepsGrammar_lineFeed : ¬ KeepsGrammar "60001019906\n" "+37200000766" := by
  intro h
  have hmake : ∃ p, MobileId.make "60001019906\n" "+37200000766" = .ok p :=
    (MobileId.exists_make_iff _ _).mpr ⟨by decide, by decide⟩
  have hlength : (Text.ofString "60001019906\n").length ≤ 11 := (h.accepted.mp hmake).1.le_greatest
  exact absurd hlength (by decide)

end RemoteSigning
