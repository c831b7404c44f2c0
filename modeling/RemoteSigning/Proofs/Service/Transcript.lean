import RemoteSigning.Proofs.Encoding.Armor
import RemoteSigning.Proofs.Json.Texts
import RemoteSigning.Proofs.Text.Coding
import RemoteSigning.Service.Client
import RemoteSigning.Request

/-!
# What the service is told

A request is written three times over: bytes in base64 and perhaps in armour, texts in JSON, the JSON text in UTF-8.
None of them loses anything, so whoever reads a request has the document, the certificate, the signature and the person
of the session.

- `Outgoing.Says`: what a request says to whoever reads it;
- `Outgoing.says_members`: a request whose members have no surrogates says its members;
- `decodes_to_held`: what is read is what the session holds.
-/

namespace RemoteSigning

/-! ## Texts without surrogates -/

theorem CodePoint.isSurrogate_of_isDecimal {c : CodePoint} (h : c.isDecimal = true) : c.isSurrogate = false := by
  have hzeros : ∀ z ∈ zeros, z + 10 ≤ 0xD800 ∨ 0xDFFF < z := by decide
  obtain ⟨z, hz, hc⟩ := List.any_eq_true.mp h
  simp only [Bool.and_eq_true, decide_eq_true_eq] at hc
  have := hzeros z hz
  simp only [isSurrogate, Bool.and_eq_false_iff, decide_eq_false_iff_not]
  omega

/-- A numeral has no surrogates, with or without a line feed after it. -/
theorem Text.isScalar_of_dropLineFeed {t : Text} (h : t.dropLineFeed.isScalar = true) : t.isScalar = true := by
  unfold dropLineFeed at h
  split at h
  next c rest hrev =>
    split at h
    next hc =>
      have ht : t = rest.reverse ++ [c] := by rw [← List.reverse_reverse t, hrev, List.reverse_cons]
      rw [ht, isScalar_append]
      exact ⟨h, by rw [hc]; decide⟩
    · exact h
  · exact h

theorem Text.isScalar_of_isNumeral {t : Text} {least greatest : Nat} (h : t.isNumeral least greatest = true) :
    t.isScalar = true := by
  simp only [isNumeral, Bool.and_eq_true, List.all_eq_true] at h
  exact isScalar_iff.mpr fun c hc => CodePoint.isSurrogate_of_isDecimal (h.1.1 c hc)

theorem isScalar_of_isPersonalCode {t : Text} (h : isPersonalCode t = true) : t.isScalar = true :=
  Text.isScalar_of_dropLineFeed (Text.isScalar_of_isNumeral h)

theorem isScalar_of_isPhoneNumber {t : Text} (h : isPhoneNumber t = true) : t.isScalar = true := by
  unfold isPhoneNumber at h
  refine Text.isScalar_of_dropLineFeed ?_
  split at h
  next c rest hcons =>
    rw [hcons]
    split at h
    next hc => exact Text.isScalar_cons.mpr ⟨by rw [hc]; decide, Text.isScalar_of_isNumeral h⟩
    · exact Text.isScalar_of_isNumeral h
  · cases h

theorem isAscii_encode (bs : Bytes) : (Base64.encode bs).isAscii = true :=
  List.all_eq_true.mpr fun _ => Base64.isAscii_of_mem_encode

theorem isAscii_toArmor (c : Certificate) : c.toArmor.isAscii = true := by
  have hbody : (Armor.body (Armor.lines (Base64.encode c.der))).isAscii = true :=
    List.all_eq_true.mpr fun _ => Armor.isAscii_of_mem_body
  rw [Certificate.toArmor, Armor.encode_eq, Text.isAscii, List.all_append, List.all_append, List.all_append,
    ← Text.isAscii, ← Text.isAscii, hbody]
  decide

/-! ## Requests as texts -/

namespace Json

/-- An escape is the code point itself, or ASCII. -/
theorem mem_escape {c d : CodePoint} (h : d ∈ escape false c) : d = c ∨ d.isAscii = true := by
  have ascii {t : Text} (ht : t.isAscii = true) (hd : d ∈ t) : d = c ∨ d.isAscii = true :=
    .inr (List.all_eq_true.mp ht d hd)
  have hunits : ∀ n : Fin 0x20, (unitEscape n.val).isAscii = true := by decide
  unfold escape at h
  split at h
  · exact ascii (by decide) h
  split at h
  · exact ascii (by decide) h
  split at h
  · exact ascii (by decide) h
  split at h
  · exact ascii (by decide) h
  split at h
  · exact ascii (by decide) h
  split at h
  · exact ascii (by decide) h
  split at h
  · exact ascii (by decide) h
  split at h
  next hc => exact ascii (hunits ⟨c.val, hc⟩) h
  split at h
  next hc => cases hc
  · exact .inl (List.mem_singleton.mp h)

theorem isScalar_quote {t : Text} (h : t.isScalar = true) : (quote false t).isScalar = true := by
  rw [quote_eq, Text.isScalar_cons, Text.isScalar_append]
  refine ⟨by decide, Text.isScalar_iff.mpr fun d hd => ?_, by decide⟩
  obtain ⟨c, hc, hd⟩ := List.mem_flatMap.mp hd
  rcases mem_escape hd with rfl | hd
  · exact Text.isScalar_iff.mp h d hc
  · exact CodePoint.isSurrogate_of_isAscii hd

theorem isScalar_membersText {ms : List (Text × Text)} (h : ∀ m ∈ ms, m.1.isScalar = true ∧ m.2.isScalar = true) :
    (membersText ms).isScalar = true := by
  have hmember : ∀ m ∈ ms, (member m).isScalar = true := fun m hm => by
    obtain ⟨h₁, h₂⟩ := h m hm
    rw [member, Text.isScalar_append, Text.isScalar_append]
    exact ⟨⟨isScalar_quote h₁, by decide⟩, isScalar_quote h₂⟩
  induction ms with
  | nil => rfl
  | cons m ms ih =>
    cases ms with
    | nil =>
      have htext : membersText [m] = member m := by simp [membersText]
      exact htext ▸ hmember m (List.mem_singleton_self m)
    | cons m' ms =>
      rw [membersText_cons, Text.isScalar_append, Text.isScalar_cons]
      exact ⟨hmember m List.mem_cons_self, by decide,
        ih (fun n hn => h n (List.mem_cons_of_mem _ hn)) fun n hn => hmember n (List.mem_cons_of_mem _ hn)⟩

theorem isScalar_render_texts {ms : List (Text × Text)} (h : ∀ m ∈ ms, m.1.isScalar = true ∧ m.2.isScalar = true) :
    (render .request (.object (texts ms))).isScalar = true := by
  rw [render_texts, Text.isScalar_cons, Text.isScalar_append]
  exact ⟨by decide, isScalar_membersText h, by decide⟩

/-! ## Requests as bytes -/

section Bytes

variable {m : Text × Text} {ms : List (Text × Text)}

theorem isAscii_quote {t : Text} (h : t.isAscii = true) : (quote false t).isAscii = true := by
  refine List.all_eq_true.mpr fun d hd => ?_
  have hmark : (CodePoint.ofChar '"').isAscii = true := by decide
  rw [quote_eq, List.mem_cons, List.mem_append, List.mem_singleton, List.mem_flatMap] at hd
  rcases hd with rfl | ⟨c, hc, hd⟩ | rfl
  · exact hmark
  · rcases mem_escape hd with rfl | hd
    · exact List.all_eq_true.mp h d hc
    · exact hd
  · exact hmark

/-- An object of texts begins with four code points of ASCII, if its first name is in ASCII. -/
theorem exists_render_texts_eq (ms : List (Text × Text)) (hne : m.1 ≠ []) (hascii : m.1.isAscii = true) :
    ∃ c d rest, render .request (.object (texts (m :: ms))) =
      CodePoint.ofChar '\x7b' :: CodePoint.ofChar '"' :: c :: d :: rest ∧ c.isAscii = true ∧ d.isAscii = true := by
  have hlength : 3 ≤ (quote false m.1).length := by
    have hname := List.length_pos_iff.mpr hne
    have hescaped := length_le_flatMap_escape m.1
    rw [quote_eq, List.length_cons, List.length_append, List.length_singleton]
    omega
  have hquote := isAscii_quote hascii
  obtain ⟨rest, hrest⟩ := exists_membersText_cons m ms
  rw [render_texts, hrest]
  match hq : quote false m.1, hlength with
  | q :: c :: d :: name, _ =>
    obtain rfl : q = CodePoint.ofChar '"' := (List.cons.inj hq).1.symm
    rw [hq] at hquote
    obtain ⟨-, hc, hd, -⟩ : (CodePoint.ofChar '"').isAscii = true ∧ c.isAscii = true ∧ d.isAscii = true ∧
        Text.isAscii name = true := by simpa [Text.isAscii] using hquote
    exact ⟨c, d, _, rfl, hc, hd⟩

/-- An object of texts comes back from its bytes. -/
theorem decodeDetected_render_texts (hne : m.1 ≠ []) (hascii : m.1.isAscii = true)
    (h : ∀ n ∈ m :: ms, n.1.isScalar = true ∧ n.2.isScalar = true) :
    decodeDetected (Utf8.encodeAll (render .request (.object (texts (m :: ms))))) =
      .ok (render .request (.object (texts (m :: ms)))) := by
  have hscalar := isScalar_render_texts h
  obtain ⟨c, d, rest, htext, hc, hd⟩ := exists_render_texts_eq ms hne hascii
  rw [htext] at hscalar ⊢
  refine decodeDetected_encodeAll hscalar ?_ (by decide) (by decide)
  simp [Text.isAscii, hc, hd]
  decide

/-- **An object of texts is read from its bytes**, if no name is written twice. -/
theorem readBody_render_texts (e : Endpoint) (hne : m.1 ≠ []) (hascii : m.1.isAscii = true)
    (h : ∀ n ∈ m :: ms, n.1.isScalar = true ∧ n.2.isScalar = true) (hnodup : ((m :: ms).map (·.1)).Nodup) :
    readBody e (Utf8.encodeAll (render .request (.object (texts (m :: ms))))) = .ok (.object (texts (m :: ms))) := by
  have hread : read .default (render .request (.object (texts (m :: ms)))) = .ok (.object (texts (m :: ms))) :=
    read_render_texts (by decide) hnodup
  rw [readBody, decodeDetected_render_texts hne hascii h]
  dsimp only
  rw [hread]
  rfl

end Bytes

end Json

/-! ## Requests as they are read -/

namespace Outgoing

/-- What a request says to whoever reads it: an object of these members. It says so in its text, which is what goes out,
and in the bytes of that text. -/
structure Says (o : Outgoing) (members : List (Text × Json)) : Prop where
  sent : ∀ address url body, o.prepare address = .ok (url, body) → body = o.text
  text : Json.read .default o.text = .ok (.object members)
  bytes : ∃ bs, Utf8.encode o.text = .ok bs ∧ readBody o.endpoint bs = .ok (.object members)

/-- The names and the texts of the members. -/
def told : Outgoing → List (Text × Text)
  | .phase1 document certificate => ("tekst", document) :: certificate.toList.map fun c => ("sert", c.toArmor)
  | .phase2 s => [("allkiri", s.encoded)]
  | .mobileId personalCode phoneNumber document =>
    [("isikukood", personalCode), ("nr", phoneNumber), ("tekst", document)]

theorem members_eq (o : Outgoing) : o.members = Json.texts o.told := by
  cases o with
  | phase1 document certificate => cases certificate <;> rfl
  | phase2 s => rfl
  | mobileId personalCode phoneNumber document => rfl

/-- The names that the members of a request can have. -/
def names : List (List Text) := [["tekst"], ["tekst", "sert"], ["allkiri"], ["isikukood", "nr", "tekst"]]

theorem names_told (o : Outgoing) : o.told.map (·.1) ∈ names := by
  cases o with
  | phase1 document certificate => cases certificate <;> simp [told, names]
  | phase2 s => simp [told, names]
  | mobileId personalCode phoneNumber document => simp [told, names]

/-- No name is written twice, and none has surrogates. -/
theorem nodup_of_mem_names {ns : List Text} (h : ns ∈ names) : ns.Nodup ∧ ∀ n ∈ ns, n.isScalar = true := by
  have all : ∀ ns ∈ names, ns.Nodup ∧ ∀ n ∈ ns, n.isScalar = true := by decide
  exact all ns h

/-- A request has a first member, whose name is in ASCII. -/
theorem exists_told_eq (o : Outgoing) : ∃ m ms, o.told = m :: ms ∧ m.1 ≠ [] ∧ m.1.isAscii = true := by
  have all : ∀ ns ∈ names, ∀ n ∈ ns.head?, n ≠ [] ∧ n.isAscii = true := by decide
  have hnames := all _ o.names_told
  obtain ⟨m, ms, hms⟩ : ∃ m ms, o.told = m :: ms := by cases o <;> exact ⟨_, _, rfl⟩
  rw [hms] at hnames
  exact ⟨m, ms, hms, hnames m.1 rfl⟩

theorem isScalar_told_phase2 (s : Signature) : ∀ m ∈ (phase2 s).told, m.2.isScalar = true := by
  intro m hm
  obtain rfl := List.mem_singleton.mp hm
  exact Text.isScalar_of_isAscii (isAscii_encode s.value)

/-- A request whose members have no surrogates says its members. -/
theorem says_members {o : Outgoing} (h : ∀ m ∈ o.told, m.2.isScalar = true) : o.Says o.members := by
  obtain ⟨hnodup, hnames⟩ := nodup_of_mem_names o.names_told
  have hmembers : ∀ m ∈ o.told, m.1.isScalar = true ∧ m.2.isScalar = true := fun m hm =>
    ⟨hnames m.1 (List.mem_map_of_mem hm), h m hm⟩
  have htext : o.text = Json.render .request (.object (Json.texts o.told)) := by rw [text, members_eq]
  have hscalar : o.text.isScalar = true := htext ▸ Json.isScalar_render_texts hmembers
  refine ⟨fun _ _ _ => eq_text_of_prepare, ?_, _, Utf8.encode_of_isScalar hscalar, ?_⟩
  · rw [htext, members_eq]
    exact Json.read_render_texts (by decide) hnodup
  · obtain ⟨m, ms, hms, hne, hascii⟩ := o.exists_told_eq
    rw [htext, members_eq]
    rw [hms] at hnodup hmembers ⊢
    exact Json.readBody_render_texts o.endpoint hne hascii hmembers hnodup

/-- A request goes out if its members have no surrogates and are not refused. -/
theorem body_eq {o : Outgoing} (h : ∀ m ∈ o.told, m.2.isScalar = true) (hfaults : o.faults = []) :
    o.body = .ok o.text := by
  obtain ⟨bs, hbs, -⟩ := (says_members h).bytes
  have hcheck : o.checkMembers = .ok () := by rw [checkMembers, hfaults]
  simp only [body, hcheck, hbs]
  rfl

end Outgoing

/-! ## Requests and what they are made of -/

/-- **What is read of a request is what the session holds**: the document; the certificate, if it is sent, in armour
that comes off to the encoding; the signature in base64 that stands for its bytes; the person. A request goes out unless
its document is empty. -/
theorem decodes_to_held {document : Text} (hdocument : document.isScalar = true) :
    (Outgoing.phase1 document none).Says [("tekst", .text document)] ∧
    (∀ c : Certificate, ∃ sert,
      (Outgoing.phase1 document (some c)).Says [("tekst", .text document), ("sert", .text sert)] ∧
        ∀ keyRef, Certificate.ofArmor sert keyRef = .ok ⟨c.der, keyRef⟩) ∧
    (∀ s : Signature, s.value ≠ [] → ∃ allkiri, (Outgoing.phase2 s).Says [("allkiri", .text allkiri)] ∧
      (Outgoing.phase2 s).body = .ok (Outgoing.phase2 s).text ∧ Base64.decode .strict allkiri = .ok s.value) ∧
    (∀ p : MobileId, (Outgoing.mobileId p.personalCode p.phoneNumber document).Says
      [("isikukood", .text p.personalCode), ("nr", .text p.phoneNumber), ("tekst", .text document)]) ∧
    (document ≠ [] →
      (∀ c, (Outgoing.phase1 document c).body = .ok (Outgoing.phase1 document c).text) ∧
      ∀ p : MobileId, (Outgoing.mobileId p.personalCode p.phoneNumber document).body =
        .ok (Outgoing.mobileId p.personalCode p.phoneNumber document).text) := by
  have hphase1 : ∀ c, ∀ m ∈ (Outgoing.phase1 document c).told, m.2.isScalar = true := by
    intro c m hm
    rcases List.mem_cons.mp hm with rfl | hm
    · exact hdocument
    · obtain ⟨c, -, rfl⟩ := List.mem_map.mp hm
      exact Text.isScalar_of_isAscii (isAscii_toArmor c)
  have hphase2 := Outgoing.isScalar_told_phase2
  have hmobile : ∀ p : MobileId, ∀ m ∈ (Outgoing.mobileId p.personalCode p.phoneNumber document).told,
      m.2.isScalar = true := by
    intro p m hm
    rcases List.mem_cons.mp hm with rfl | hm
    · exact isScalar_of_isPersonalCode p.isPersonalCode_personalCode
    rcases List.mem_cons.mp hm with rfl | hm
    · exact isScalar_of_isPhoneNumber p.isPhoneNumber_phoneNumber
    · obtain rfl := List.mem_singleton.mp hm
      exact hdocument
  have hproblem {t : Text} (ht : t.isScalar = true) (hne : t ≠ []) : Outgoing.problem? t = none := by
    simp [Outgoing.problem?, ht, hne]
  refine ⟨Outgoing.says_members (hphase1 none), fun c => ?_, fun s hs => ?_, fun p => Outgoing.says_members (hmobile p),
    fun hne => ⟨fun c => Outgoing.body_eq (hphase1 c) ?_, fun p => Outgoing.body_eq (hmobile p) ?_⟩⟩
  · exact ⟨c.toArmor, Outgoing.says_members (hphase1 (some c)), c.ofArmor_toArmor⟩
  · refine ⟨s.encoded, Outgoing.says_members (hphase2 s), Outgoing.body_eq (hphase2 s) ?_,
      Base64.decode_encode .strict s.value⟩
    simp [Outgoing.faults, Signature.encoded,
      hproblem (Text.isScalar_of_isAscii (isAscii_encode s.value)) (Base64.encode_ne_nil hs)]
  · simp [Outgoing.faults, hproblem hdocument hne]
  · simp [Outgoing.faults, hproblem hdocument hne]

/-- A document with a quote, a backslash, control characters and a code point beyond the first plane. -/
def awkwardDocument : Text := [0x22, 0x5C, 0x0A, 0x01, 0x7F, 0xF5, 0x2028, 0x1F600].map CodePoint.ofNat

def shortSignature : Signature := ⟨[0xC0, 0xDE], ⟨[0x66, 0x6F, 0x6F], ⟨.sha256, none⟩⟩⟩

/-- What is read of a request for the awkward document with a certificate of two bytes, and of one for the short
signature. -/
theorem decodes_to_held_awkwardDocument :
    awkwardDocument.isScalar = true ∧
    (∃ sert, (Outgoing.phase1 awkwardDocument (some ⟨[0x30, 0x00], none⟩)).Says
      [("tekst", .text awkwardDocument), ("sert", .text sert)] ∧
      Certificate.ofArmor sert none = .ok ⟨[0x30, 0x00], none⟩ ∧
      (Outgoing.phase1 awkwardDocument (some ⟨[0x30, 0x00], none⟩)).body =
        .ok (Outgoing.phase1 awkwardDocument (some ⟨[0x30, 0x00], none⟩)).text) ∧
    ∃ allkiri, (Outgoing.phase2 shortSignature).Says [("allkiri", .text allkiri)] ∧
      (Outgoing.phase2 shortSignature).body = .ok (Outgoing.phase2 shortSignature).text ∧
      Base64.decode .strict allkiri = .ok [0xC0, 0xDE] := by
  have hscalar : awkwardDocument.isScalar = true := by decide
  obtain ⟨-, hcertificate, hsignature, -, hbody⟩ := decodes_to_held hscalar
  obtain ⟨sert, hsays, hsert⟩ := hcertificate ⟨[0x30, 0x00], none⟩
  exact ⟨hscalar, ⟨sert, hsays, hsert none, (hbody (by decide)).1 _⟩, hsignature shortSignature (by decide)⟩

end RemoteSigning
