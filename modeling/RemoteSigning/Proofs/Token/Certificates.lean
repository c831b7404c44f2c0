import Mathlib.Data.List.Nodup
import RemoteSigning.Proofs.Session.Escape
import RemoteSigning.Proofs.Token.Meaning

/-!
# Which certificate of a token is used

A token is opened without a PIN to read the certificates on it. The first one for qualified signatures is taken, with
the reference that stands beside it; if there is none, the first one. Every certificate before the one that is taken is
judged, and there is no choice if one of them cannot be.

- `X509.Structure.Sound`, `X509.Structure.Commits`: what there is to say about the extensions of a certificate, and
  `judged_of_sound`, `judged_of_not_sound`: nothing else plays a part when it is judged;
- `Certificate.Qualified`, `Certificate.Flawed`, `Certificate.Plain`: the three kinds of certificates, and
  `hasNonRepudiation_cases`: how they are told apart;
- `CardModule.choose_append`, `CardModule.choose_of_plain`, `CardModule.mem_of_chosen`: the choice among certificates;
- `CardModule.fetch_selects`: the certificate that is fetched from the token that is found.
-/

namespace RemoteSigning

/-! ## Extensions -/

namespace X509

/-- No identifier occurs again exactly if all are different. -/
theorem repeated?_eq_none_iff (seen l : List Oid) :
    repeated? seen l = none ↔ l.Nodup ∧ ∀ o ∈ l, o ∉ seen := by
  induction l generalizing seen with
  | nil => simp [repeated?]
  | cons o l ih =>
    rw [repeated?]
    split
    next hseen =>
      have hmem : o ∈ seen := by simpa using hseen
      simp [hmem]
    next hseen =>
      have hmem : o ∉ seen := by simpa using hseen
      rw [ih, List.nodup_cons, List.forall_mem_cons]
      constructor
      · rintro ⟨hnodup, hrest⟩
        refine ⟨⟨fun ho => hrest o ho List.mem_cons_self, hnodup⟩, hmem, fun x hx hxs => ?_⟩
        exact hrest x hx (List.mem_cons_of_mem o hxs)
      · rintro ⟨⟨ho, hnodup⟩, -, hrest⟩
        refine ⟨hnodup, fun x hx hxs => ?_⟩
        rcases List.mem_cons.mp hxs with rfl | hxs
        · exact ho hx
        · exact hrest x hx hxs

/-- All extensions are checked. -/
theorem forM_check_eq_ok_iff (xs : List Extension) :
    xs.forM Extension.check = .ok () ↔ ∀ x ∈ xs, x.check = .ok () := by
  induction xs with
  | nil => exact iff_of_true rfl nofun
  | cons x xs ih =>
    rw [List.forall_mem_cons, ← ih]
    show (x.check >>= fun _ => xs.forM Extension.check) = .ok () ↔ _
    cases x.check with
    | error f => exact iff_of_false nofun fun h => nomatch h.1
    | ok _ => exact (and_iff_right rfl).symm

namespace Structure

/-- The version is the first or the third, no extension occurs twice, and all can be used. -/
structure Sound (s : Structure) : Prop where
  version : s.version = 0 ∨ s.version = 2
  distinct : (s.extensions.map (·.oid)).Nodup
  usable : ∀ x ∈ s.extensions, x.check = .ok ()

/-- There is a key usage with non-repudiation. -/
def Commits (s : Structure) : Prop :=
  ∃ x ∈ s.extensions, x.oid = keyUsageId ∧
    ∃ usage, Der.whole? KeyUsage.read? x.content = some usage ∧ usage.nonRepudiation = true

variable {s : Structure}

/-- The usage is read from the extension with the identifier, of which there is only one. -/
theorem commits_iff (hd : (s.extensions.map (·.oid)).Nodup) :
    s.Commits ↔ ∃ x, s.extensions.find? (·.oid = keyUsageId) = some x ∧
      ((Der.whole? KeyUsage.read? x.content).map KeyUsage.nonRepudiation).getD false = true := by
  constructor
  · rintro ⟨x, hx, hoid, usage, husage, hmarked⟩
    obtain ⟨y, hy⟩ : ∃ y, s.extensions.find? (·.oid = keyUsageId) = some y :=
      Option.isSome_iff_exists.mp (List.find?_isSome.mpr ⟨x, hx, by simpa using hoid⟩)
    have hyoid : y.oid = keyUsageId := by simpa using List.find?_some hy
    obtain rfl := List.inj_on_of_nodup_map hd (List.mem_of_find?_eq_some hy) hx (hyoid.trans hoid.symm)
    exact ⟨y, hy, by simp [husage, hmarked]⟩
  · rintro ⟨x, hx, hmarked⟩
    have hoid : x.oid = keyUsageId := by simpa using List.find?_some hx
    refine ⟨x, List.mem_of_find?_eq_some hx, hoid, ?_⟩
    cases husage : Der.whole? KeyUsage.read? x.content with
    | none => simp [husage] at hmarked
    | some usage => exact ⟨usage, rfl, by simpa [husage] using hmarked⟩

/-- A sound certificate is judged by its key usage. -/
theorem judged_of_sound (hs : s.Sound) :
    ∃ marked, s.ofKnownVersion.bind hasNonRepudiation = .ok marked ∧ (marked = true ↔ s.Commits) := by
  have hversion : s.ofKnownVersion = .ok s := if_pos (by simpa using hs.version)
  have hrepeated := (repeated?_eq_none_iff [] _).mpr ⟨hs.distinct, by simp⟩
  have hchecked := (forM_check_eq_ok_iff _).mpr hs.usable
  rw [hversion, commits_iff hs.distinct]
  show ∃ marked, s.hasNonRepudiation = .ok marked ∧ _
  unfold hasNonRepudiation
  rw [hrepeated]
  dsimp only
  rw [hchecked]
  dsimp only
  cases s.extensions.find? (·.oid = keyUsageId) with
  | none => exact ⟨false, rfl, by simp⟩
  | some x => exact ⟨_, rfl, by simp⟩

/-- A certificate that is not sound is not judged. -/
theorem judged_of_not_sound (hs : ¬ s.Sound) : ∃ e, s.ofKnownVersion.bind hasNonRepudiation = .error e := by
  by_cases hversion : s.version = 0 ∨ s.version = 2
  · rw [ofKnownVersion, if_pos (by simpa using hversion)]
    show ∃ e, s.hasNonRepudiation = .error e
    unfold hasNonRepudiation
    cases hrepeated : repeated? [] (s.extensions.map (·.oid)) with
    | some oid => exact ⟨_, rfl⟩
    | none =>
      dsimp only
      cases hchecked : s.extensions.forM Extension.check with
      | error e => exact ⟨_, rfl⟩
      | ok _ =>
        have hdistinct := ((repeated?_eq_none_iff [] _).mp hrepeated).1
        exact absurd ⟨hversion, hdistinct, (forM_check_eq_ok_iff _).mp hchecked⟩ hs
  · rw [ofKnownVersion, if_neg (by simpa using hversion)]
    exact ⟨_, rfl⟩

end Structure

end X509

/-! ## Kinds of certificates -/

namespace Certificate

/-- A certificate for qualified signatures. -/
def Qualified (d : Certificate) : Prop := ∃ s, X509.parse? d.der = some s ∧ s.Sound ∧ s.Commits

/-- A certificate that can be read as such, but not judged. -/
def Flawed (d : Certificate) : Prop := ∃ s, X509.parse? d.der = some s ∧ ¬ s.Sound

/-- Any other certificate, and whatever is no certificate. -/
def Plain (d : Certificate) : Prop := ¬ d.Qualified ∧ ¬ d.Flawed

variable {d : Certificate}

theorem plain_of_parse?_eq_none (h : X509.parse? d.der = none) : d.Plain := by
  constructor <;> rintro ⟨s, hs, -⟩ <;> exact nomatch h.symm.trans hs

/-- What is read is judged if it is sound. -/
theorem hasNonRepudiation_of_parse?_eq_some {s : X509.Structure} (h : X509.parse? d.der = some s) :
    d.hasNonRepudiation = s.ofKnownVersion.bind X509.Structure.hasNonRepudiation := by
  unfold hasNonRepudiation structure?
  rw [h]
  dsimp only
  cases s.ofKnownVersion <;> rfl

/-- Every certificate is of one of the three kinds, and is judged accordingly. -/
theorem hasNonRepudiation_cases (d : Certificate) :
    (d.Qualified ∧ d.hasNonRepudiation = .ok true) ∨
    (d.Flawed ∧ ∃ e, d.hasNonRepudiation = .error e) ∨
    (d.Plain ∧ d.hasNonRepudiation = .ok false) := by
  cases hparse : X509.parse? d.der with
  | none => exact .inr (.inr ⟨plain_of_parse?_eq_none hparse, (keyType_of_not_certificate hparse).2⟩)
  | some s =>
    rw [hasNonRepudiation_of_parse?_eq_some hparse]
    have hsame {s' : X509.Structure} (h : X509.parse? d.der = some s') : s' = s :=
      Option.some.inj (h.symm.trans hparse)
    by_cases hs : s.Sound
    · obtain ⟨marked, hjudged, hcommits⟩ := X509.Structure.judged_of_sound hs
      rw [hjudged]
      cases marked with
      | true => exact .inl ⟨⟨s, hparse, hs, hcommits.mp rfl⟩, rfl⟩
      | false =>
        refine .inr (.inr ⟨⟨?_, ?_⟩, rfl⟩)
        · rintro ⟨s', h, -, hc⟩
          exact nomatch hcommits.mpr (hsame h ▸ hc)
        · rintro ⟨s', h, hn⟩
          exact hn (hsame h ▸ hs)
    · exact .inr (.inl ⟨⟨s, hparse, hs⟩, X509.Structure.judged_of_not_sound hs⟩)

/-- A sound certificate has no flaws. -/
theorem Qualified.not_flawed (h : d.Qualified) : ¬ d.Flawed := by
  obtain ⟨s, hs, hsound, -⟩ := h
  rintro ⟨s', hs', hn⟩
  obtain rfl := Option.some.inj (hs.symm.trans hs')
  exact hn hsound

theorem hasNonRepudiation_of_qualified (h : d.Qualified) : d.hasNonRepudiation = .ok true := by
  obtain ⟨-, hd⟩ | ⟨hf, -⟩ | ⟨hp, -⟩ := d.hasNonRepudiation_cases
  · exact hd
  · exact absurd hf h.not_flawed
  · exact absurd h hp.1

theorem hasNonRepudiation_of_flawed (h : d.Flawed) : ∃ e, d.hasNonRepudiation = .error e := by
  obtain ⟨hq, -⟩ | ⟨-, hd⟩ | ⟨hp, -⟩ := d.hasNonRepudiation_cases
  · exact absurd h hq.not_flawed
  · exact hd
  · exact absurd h hp.2

theorem hasNonRepudiation_of_plain (h : d.Plain) : d.hasNonRepudiation = .ok false := by
  obtain ⟨hq, -⟩ | ⟨hf, -⟩ | ⟨-, hd⟩ := d.hasNonRepudiation_cases
  · exact absurd hq h.1
  · exact absurd hf h.2
  · exact hd

end Certificate

/-- What is wrong with a certificate is a fault without a meaning of its own. -/
theorem CertificateFault.exists_toDecline_eq (e : CertificateFault) :
    ∃ message, e.toFault.toDecline = .declined .tokenError message := by
  cases e with
  | version n => exact ⟨_, rfl⟩
  | key r => cases r <;> exact ⟨_, rfl⟩
  | duplicateExtension oid => exact ⟨_, rfl⟩
  | extension m => cases m <;> exact ⟨_, rfl⟩

/-! ## The choice -/

/-- The certificate in an object on a card, with the reference that stands beside it. -/
def CardObject.certificate (o : CardObject) : Certificate := ⟨o.value, some o.id⟩

namespace CardModule

/-- The certificates of which none is for qualified signatures are passed over. -/
theorem choose_append (first : Certificate) {before : List Certificate} (h : ∀ d ∈ before, d.Plain)
    (rest : List Certificate) : choose first (before ++ rest) = choose first rest := by
  induction before with
  | nil => rfl
  | cons d before ih =>
    obtain ⟨hd, hbefore⟩ := List.forall_mem_cons.mp h
    rw [List.cons_append, choose, Certificate.hasNonRepudiation_of_plain hd]
    exact ih hbefore

/-- Where none is for qualified signatures, the choice falls back. -/
theorem choose_of_plain (first : Certificate) {ds : List Certificate} (h : ∀ d ∈ ds, d.Plain) :
    choose first ds = .ok first := by
  rw [← List.append_nil ds]
  exact choose_append first h []

/-- What is chosen stands in the list, or is what there is without a choice. -/
theorem eq_or_mem_of_choose {first d : Certificate} {ds : List Certificate} (h : choose first ds = .ok d) :
    d = first ∨ d ∈ ds := by
  induction ds with
  | nil => exact .inl (Except.ok.inj h).symm
  | cons x ds ih =>
    rw [choose] at h
    split at h
    · cases h
    · exact .inr (Except.ok.inj h ▸ List.mem_cons_self)
    · exact (ih h).imp_right (List.mem_cons_of_mem x)

theorem chosen_append (s : Slot) {before : List Certificate} (h : ∀ d ∈ before, d.Plain) (d : Certificate)
    (after : List Certificate) : ∃ first, chosen s (before ++ d :: after) = choose first (d :: after) := by
  cases before with
  | nil => exact ⟨d, rfl⟩
  | cons first rest => exact ⟨first, choose_append first h (d :: after)⟩

/-- What is chosen stands in the list. -/
theorem mem_of_chosen {s : Slot} {d : Certificate} {ds : List Certificate} (h : chosen s ds = .ok d) : d ∈ ds := by
  cases ds with
  | nil => cases h
  | cons first rest =>
    rcases eq_or_mem_of_choose h with rfl | hd
    · exact List.mem_cons_self
    · exact hd

variable (m : CardModule) (c : CardConfig) (loaded : Bool) {s : Slot}

/-- The certificates are read from the token that is found. -/
theorem readCertificate_of_found (htoken : (m.findToken c loaded).2 = .ok s) :
    m.readCertificate c loaded =
      ((m.findToken c loaded).1 ++ ((sessionRun s .none (listRun s)).bind fun ds => ([], chosen s ds)).told.1,
        ((sessionRun s .none (listRun s)).bind fun ds => ([], chosen s ds)).told.2) := by
  rw [← told_readRun, readRun, CardRun.told_bind, told_findTokenRun, CardTask.bind, htoken]

/-- The certificates on a token are what there is to choose from. -/
theorem readCertificate_eq_chosen (htoken : (m.findToken c loaded).2 = .ok s) (hopen : s.openFault = none)
    (hread : s.objectsFault = none) :
    (m.readCertificate c loaded).2 = chosen s (s.objects.map CardObject.certificate) := by
  rw [m.readCertificate_of_found c loaded htoken, sessionRun, hopen, listRun, hread]
  rfl

/-- A certificate that is read stands in an object on the token. -/
theorem exists_object_of_read (htoken : (m.findToken c loaded).2 = .ok s) {d : Certificate}
    (h : (m.readCertificate c loaded).2 = .ok d) : ∃ o ∈ s.objects, d = o.certificate := by
  rw [m.readCertificate_of_found c loaded htoken, sessionRun, listRun] at h
  cases hopen : s.openFault with
  | some f =>
    rw [hopen] at h
    cases h
  | none =>
    cases hread : s.objectsFault with
    | some f =>
      rw [hopen, hread] at h
      cases h
    | none =>
      rw [hopen, hread] at h
      obtain ⟨o, ho, rfl⟩ := List.mem_map.mp (mem_of_chosen h)
      exact ⟨o, ho, rfl⟩

/-- What is done to fetch a certificate is done to read it, and the certificate that is read is fetched. -/
theorem fetch_reads : (m.fetch c loaded).events = (m.readCertificate c loaded).1 ∧
    ∀ d, (m.fetch c loaded).result = .ok d ↔ (m.readCertificate c loaded).2 = .ok d := by
  unfold fetch
  split
  next heq => simp [heq]
  next heq => simp [heq]
  next heq => simp [heq]

/-- A token that is found is opened once, and without a PIN. -/
theorem openings_fetch (htoken : (m.findToken c loaded).2 = .ok s) :
    CardEvent.openings (m.fetch c loaded).events = [(s.slotId, .none)] := by
  rw [(m.fetch_reads c loaded).1, m.readCertificate_of_found c loaded htoken, CardEvent.openings,
    CardEvent.filterMap_search_append (fun _ => CardEvent.opening?_of_isSearch) (m.findToken_searches c loaded)]
  unfold sessionRun
  cases s.openFault with
  | some f => rfl
  | none =>
    unfold listRun
    cases s.objectsFault <;> rfl

/-- **Which certificate is fetched.** The token that is found is opened once, without a PIN, and a certificate that is
fetched is what stands in one object on it, with the reference in that object. If everything can be read: without an
object, there is no certificate; otherwise the objects are looked at in order, and the first one for qualified
signatures is taken, or the first one of all if none is. A certificate that cannot be judged is a refusal if it comes
first. -/
theorem fetch_selects (htoken : (m.findToken c loaded).2 = .ok s) :
    CardEvent.openings (m.fetch c loaded).events = [(s.slotId, .none)] ∧
    (∀ d, (m.fetch c loaded).result = .ok d → ∃ o ∈ s.objects, d.der = o.value ∧ d.keyRef = some o.id) ∧
    (s.openFault = none → s.objectsFault = none →
      (s.objects = [] → (m.fetch c loaded).result =
        .error (.declined .noCertificate ("No certificate on token " ++ s.label.quoted))) ∧
      (∀ o rest, s.objects = o :: rest → (∀ x ∈ s.objects, x.certificate.Plain) →
        (m.fetch c loaded).result = .ok o.certificate) ∧
      ∀ before o after, s.objects = before ++ o :: after → (∀ x ∈ before, x.certificate.Plain) →
        (o.certificate.Qualified → (m.fetch c loaded).result = .ok o.certificate) ∧
        (o.certificate.Flawed → ∃ message, (m.fetch c loaded).result = .error (.declined .tokenError message))) := by
  obtain ⟨-, hok⟩ := m.fetch_reads c loaded
  refine ⟨m.openings_fetch c loaded htoken, fun d hd => ?_, fun hopen hread => ?_⟩
  · obtain ⟨o, ho, rfl⟩ := m.exists_object_of_read c loaded htoken ((hok d).mp hd)
    exact ⟨o, ho, rfl, rfl⟩
  · have hchosen := m.readCertificate_eq_chosen c loaded htoken hopen hread
    refine ⟨fun hnone => ?empty, fun o rest hobjects hplain => ?plain, fun before o after hobjects hplain => ?first⟩
    case empty =>
      rw [hnone] at hchosen
      exact m.fetch_of_error c loaded hchosen nofun
    case plain =>
      rw [hobjects] at hchosen hplain
      exact (hok _).mpr (hchosen.trans (choose_of_plain o.certificate (List.forall_mem_map.mpr hplain)))
    case first =>
      obtain ⟨first, hpassed⟩ := chosen_append s (List.forall_mem_map.mpr hplain) o.certificate
        (after.map CardObject.certificate)
      rw [hobjects, List.map_append, List.map_cons, hpassed, choose] at hchosen
      refine ⟨fun hqualified => ?_, fun hflawed => ?_⟩
      · rw [Certificate.hasNonRepudiation_of_qualified hqualified] at hchosen
        exact (hok _).mpr hchosen
      · obtain ⟨e, he⟩ := Certificate.hasNonRepudiation_of_flawed hflawed
        obtain ⟨message, hmessage⟩ := e.exists_toDecline_eq
        rw [he] at hchosen
        exact ⟨message, hmessage ▸ m.fetch_of_error c loaded hchosen e.toFault_ne_cancelled⟩

/-- A token with something that is no certificate, before a certificate for qualified signatures. -/
def mixedSlot : Slot :=
  ⟨1, "ID (PIN2)", [⟨[0x30], [1]⟩, ⟨Session.foreignKey.der, [2]⟩, ⟨[0x30], [3]⟩], [], none, none, none, none⟩

theorem fetch_selects_mixedSlot :
    ((⟨none, none, [mixedSlot]⟩ : CardModule).findToken ⟨some "module", some "PIN2", none, true⟩ false).2 =
      .ok mixedSlot ∧
    ((⟨none, none, [mixedSlot]⟩ : CardModule).fetch ⟨some "module", some "PIN2", none, true⟩ false).result =
      .ok ⟨Session.foreignKey.der, some [2]⟩ := by
  have hqualified : (CardObject.certificate ⟨Session.foreignKey.der, [2]⟩).Qualified := by
    have hjudged : (CardObject.certificate ⟨Session.foreignKey.der, [2]⟩).hasNonRepudiation.toOption = some true := by
      decide +kernel
    obtain ⟨hq, -⟩ | ⟨-, e, he⟩ | ⟨-, hn⟩ := Certificate.hasNonRepudiation_cases ⟨Session.foreignKey.der, some [2]⟩
    · exact hq
    · exact nomatch he ▸ hjudged
    · exact nomatch hn ▸ hjudged
  have hplain : ∀ x ∈ [(⟨[0x30], [1]⟩ : CardObject)], x.certificate.Plain := by
    intro x hx
    obtain rfl := List.mem_singleton.mp hx
    exact Certificate.plain_of_parse?_eq_none (by decide)
  obtain ⟨-, -, hselects⟩ := fetch_selects ⟨none, none, [mixedSlot]⟩ ⟨some "module", some "PIN2", none, true⟩ false
    (s := mixedSlot) rfl
  obtain ⟨-, -, hfirst⟩ := hselects rfl rfl
  exact ⟨rfl, (hfirst _ _ _ rfl hplain).1 hqualified⟩

end CardModule

end RemoteSigning
