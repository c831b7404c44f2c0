import RemoteSigning.CommandLine.Run
import RemoteSigning.Proofs.Request.Person

/-!
# What a command asks for

A command that signs names a file, and perhaps a person. If the file can be read, is UTF-8 and not empty, and the person
has a valid code and a valid number, then the command asks for a signature, and a session is run for it. If not, the
user gets a complaint; but a file that is no UTF-8, a name that no file can have, and an option without a text are not
provided for, and a fault leaves the program.

- `Surroundings.Asks`: the request that a command makes of what is there, `Asks.unique`: there is one at most;
- `Surroundings.Unprovided`: what is not provided for;
- `Surroundings.begins_run`: a session, a complaint, or a fault that leaves the program.
-/

namespace RemoteSigning

/-! ## Requests and persons -/

theorem MobileId.make_eq_ok_iff {code phone : Text} {p : MobileId} :
    MobileId.make code phone = .ok p ↔ p.personalCode = code ∧ p.phoneNumber = phone := by
  unfold make
  constructor
  · intro h
    split at h
    · split at h
      · obtain rfl := Except.ok.inj h
        exact ⟨rfl, rfl⟩
      · cases h
    · cases h
  · rintro ⟨rfl, rfl⟩
    rw [dif_pos p.isPersonalCode_personalCode, dif_pos p.isPhoneNumber_phoneNumber]

theorem Request.make_eq_ok_iff {document : Text} {signer : Signer} {r : Request} :
    make document signer = .ok r ↔ r.document = document ∧ r.signer = signer := by
  unfold make
  constructor
  · intro h
    split at h
    · obtain rfl := Except.ok.inj h
      exact ⟨rfl, rfl⟩
    · cases h
  · rintro ⟨rfl, rfl⟩
    rw [dif_pos r.document_ne_nil]

namespace CommandLine

open Rehearsal

def Command.file? : Command → Option Text
  | .sign file _ _ | .mobileId file _ _ _ => some file
  | .config => none

/-- The personal code and the phone number of a command, as far as there are texts for them. A command for the local
token has no person. -/
def Command.person? : Command → Option (Option Text × Option Text)
  | .mobileId _ code phone _ => some (code, phone)
  | .sign .. | .config => none

/-- The signer is the person of a command, or the local token if it has none. -/
def IsSigner : Option (Option Text × Option Text) → Signer → Prop
  | none, signer => signer = .localToken
  | some (code, phone), signer =>
    ∃ p : MobileId, code = some p.personalCode ∧ phone = some p.phoneNumber ∧ signer = .mobileId p

theorem IsSigner.unique {person : Option (Option Text × Option Text)} {signer signer' : Signer}
    (h : IsSigner person signer) (h' : IsSigner person signer') : signer = signer' := by
  cases person with
  | none => exact h.trans h'.symm
  | some person =>
    obtain ⟨p, hcode, hphone, rfl⟩ := h
    obtain ⟨p', hcode', hphone', rfl⟩ := h'
    have hcodes := Option.some.inj (hcode.symm.trans hcode')
    have hphones := Option.some.inj (hphone.symm.trans hphone')
    have hmake := MobileId.make_eq_ok_iff.mpr ⟨hcodes, hphones⟩
    rw [Except.ok.inj (hmake.symm.trans (MobileId.make_eq_ok_iff.mpr ⟨rfl, rfl⟩))]

/-- There is no text for a part of the person that is looked at. -/
def Lacks (person : Option (Option Text × Option Text)) : Prop :=
  (∃ phone, person = some (none, phone)) ∨ ∃ code, person = some (some code, none) ∧ isPersonalCode code = true

/-- A signer has all parts that are looked at. -/
theorem IsSigner.not_lacks {person : Option (Option Text × Option Text)} {signer : Signer}
    (h : IsSigner person signer) : ¬ Lacks person := by
  rintro (⟨phone, rfl⟩ | ⟨code, rfl, -⟩)
  · obtain ⟨p, hcode, -⟩ := h
    cases hcode
  · obtain ⟨p, -, hphone, -⟩ := h
    cases hphone

theorem lacks_iff {person : Option (Option Text × Option Text)} :
    (person.map fun (code, phone) => lacksText code phone).getD false = true ↔ Lacks person := by
  unfold Lacks
  rcases person with _ | ⟨_ | code, _ | phone⟩ <;> simp [lacksText]

/-- A request is made of a document and the person of a command, if its texts are there. -/
theorem ofPerson_eq_ok_iff {person : Option (Option Text × Option Text)} (hl : ¬ Lacks person) {document : Text}
    {r : Request} :
    Request.ofPerson document (person.map fun (code, phone) => (code.getD [], phone.getD [])) = .ok r ↔
      r.document = document ∧ IsSigner person r.signer := by
  rcases person with _ | ⟨_ | code, phone⟩
  · exact Request.make_eq_ok_iff
  · exact absurd (.inl ⟨phone, rfl⟩) hl
  unfold Request.ofPerson
  dsimp only [Option.map_some, Option.getD_some]
  constructor
  · intro h
    split at h
    next p hp =>
      obtain ⟨hdocument, hsigner⟩ := Request.make_eq_ok_iff.mp h
      obtain ⟨rfl, hphone⟩ := MobileId.make_eq_ok_iff.mp hp
      cases phone with
      | none => exact absurd (.inr ⟨_, rfl, p.isPersonalCode_personalCode⟩) hl
      | some phone => exact ⟨hdocument, p, rfl, congrArg some hphone.symm, hsigner⟩
    · cases h
  · rintro ⟨hdocument, p, hcode, rfl, hsigner⟩
    obtain rfl := Option.some.inj hcode
    have hp : MobileId.make p.personalCode p.phoneNumber = .ok p := MobileId.make_eq_ok_iff.mpr ⟨rfl, rfl⟩
    rw [Option.getD_some, hp]
    exact Request.make_eq_ok_iff.mpr ⟨hdocument, hsigner⟩

/-! ## Files and documents -/

/-- A file can be read and is UTF-8; the document is its text with line feeds for all line ends. -/
def ReadsAs (files : FileTree) (name document : Text) : Prop :=
  ∃ bytes t, files.read name = .ok bytes ∧ Utf8.decode bytes = .ok t ∧ document = t.unifyNewlines

theorem documentOf_eq_ok_iff {files : FileTree} {name document : Text} :
    documentOf files name = .ok document ↔ ReadsAs files name document := by
  unfold documentOf
  constructor
  · intro h
    split at h
    · cases h
    next bytes hr =>
      split at h
      · cases h
      next t hd => exact ⟨bytes, t, hr, hd, (Except.ok.inj h).symm⟩
  · rintro ⟨bytes, t, hr, hd, rfl⟩
    rw [hr]
    dsimp only
    rw [hd]

theorem ReadsAs.unique {files : FileTree} {name d d' : Text} (h : ReadsAs files name d) (h' : ReadsAs files name d') :
    d = d' :=
  Except.ok.inj ((documentOf_eq_ok_iff.mpr h).symm.trans (documentOf_eq_ok_iff.mpr h'))

namespace Surroundings

variable {w : Surroundings} {args : List Text} {c : Command} {s : Settings} {file : Text}

/-! ## What is asked for, and what is not provided for -/

/-- A command asks for a signature: of the text of its file, by the local token or by its person. -/
structure Asks (w : Surroundings) (c : Command) (r : Request) : Prop where
  document : ∃ file, c.file? = some file ∧ ReadsAs w.files file r.document
  signer : IsSigner c.person? r.signer

/-- There is at most one request. -/
theorem Asks.unique {r r' : Request} (h : w.Asks c r) (h' : w.Asks c r') : r = r' := by
  obtain ⟨⟨file, hf, hd⟩, hs⟩ := h
  obtain ⟨⟨file', hf', hd'⟩, hs'⟩ := h'
  obtain rfl := Option.some.inj (hf.symm.trans hf')
  have hmake := Request.make_eq_ok_iff.mpr ⟨hd.unique hd', hs.unique hs'⟩
  exact Except.ok.inj (hmake.symm.trans (Request.make_eq_ok_iff.mpr ⟨rfl, rfl⟩))

/-- What is not provided for: a file that is no UTF-8, a name that cannot be handed to the file system, and a person
without a text when there is a document. -/
inductive Unprovided (w : Surroundings) (c : Command) : Prop
  | notUtf8 {file : Text} {bytes : Bytes} {f : DecodeFault} : c.file? = some file → w.files.read file = .ok bytes →
      Utf8.decode bytes = .error f → Unprovided w c
  | name {file : Text} {f : FileFault} : c.file? = some file → w.files.read file = .error f → f.isSystem = false →
      Unprovided w c
  | person {file document : Text} : c.file? = some file → ReadsAs w.files file document → Lacks c.person? →
      Unprovided w c

theorem unprovided_iff_of_readsAs (hf : c.file? = some file) {document : Text}
    (hd : ReadsAs w.files file document) : w.Unprovided c ↔ Lacks c.person? := by
  refine ⟨fun h => ?_, .person hf hd⟩
  obtain ⟨bytes, t, hr, ht, -⟩ := hd
  cases h with
  | notUtf8 hf' hr' hd' =>
    obtain rfl := Option.some.inj (hf'.symm.trans hf)
    obtain rfl := Except.ok.inj (hr'.symm.trans hr)
    cases hd'.symm.trans ht
  | name hf' hr' =>
    obtain rfl := Option.some.inj (hf'.symm.trans hf)
    cases hr'.symm.trans hr
  | person _ _ hl => exact hl

theorem unprovided_iff_of_unreadable (hf : c.file? = some file) {f : FileFault} (hr : w.files.read file = .error f) :
    w.Unprovided c ↔ f.isSystem = false := by
  refine ⟨fun h => ?_, .name hf hr⟩
  cases h with
  | notUtf8 hf' hr' =>
    obtain rfl := Option.some.inj (hf'.symm.trans hf)
    cases hr'.symm.trans hr
  | name hf' hr' hs =>
    obtain rfl := Option.some.inj (hf'.symm.trans hf)
    obtain rfl := Except.error.inj (hr'.symm.trans hr)
    exact hs
  | person hf' hd =>
    obtain rfl := Option.some.inj (hf'.symm.trans hf)
    obtain ⟨bytes, t, hr', -⟩ := hd
    cases hr'.symm.trans hr

/-- What is asked for is provided for. -/
theorem Asks.not_unprovided {r : Request} (h : w.Asks c r) : ¬ w.Unprovided c := by
  obtain ⟨⟨file, hf, hd⟩, hs⟩ := h
  exact fun hu => hs.not_lacks ((unprovided_iff_of_readsAs hf hd).mp hu)

/-- Without a document nothing is asked for. -/
theorem not_asks_of_not_readsAs (hf : c.file? = some file) (hd : ∀ d, ¬ ReadsAs w.files file d) (r : Request) :
    ¬ w.Asks c r := by
  rintro ⟨⟨file', hf', hd'⟩, -⟩
  obtain rfl := Option.some.inj (hf'.symm.trans hf)
  exact hd _ hd'

/-! ## How runs begin -/

inductive Begins (w : Surroundings) (s : Settings) (c : Command) : Performance → Prop
  | session {r : Request} : w.Asks c r → Begins w s c (w.session (override s c) r)
  | complains (t : Text) : (∀ r, ¬ w.Asks c r) → ¬ w.Unprovided c → Begins w s c (complaint t)
  | escapes (f : Fault) : (∀ r, ¬ w.Asks c r) → w.Unprovided c → Begins w s c (escape f)

/-- The file cannot be read. -/
theorem begins_of_unreadable (hf : c.file? = some file) {f : FileFault} (hr : w.files.read file = .error f)
    (s : Settings) (person : Option (Option Text × Option Text)) : w.Begins s c (w.signFile (override s c) file person) := by
  have hd : ∀ d, ¬ ReadsAs w.files file d := by
    rintro d ⟨bytes, t, hr', -⟩
    cases hr'.symm.trans hr
  have hdocument : documentOf w.files file = .error (.file f) := by rw [documentOf, hr]
  have hasks := not_asks_of_not_readsAs hf hd
  have hunprovided := unprovided_iff_of_unreadable hf hr
  rw [signFile, hdocument]
  dsimp only
  cases hs : f.isSystem with
  | true =>
    refine .complains _ hasks fun h => ?_
    cases hs.symm.trans (hunprovided.mp h)
  | false => exact .escapes _ hasks (hunprovided.mpr hs)

/-- The file is no UTF-8. -/
theorem begins_of_notUtf8 (hf : c.file? = some file) {bytes : Bytes} (hr : w.files.read file = .ok bytes)
    {f : DecodeFault} (hb : Utf8.decode bytes = .error f) (s : Settings)
    (person : Option (Option Text × Option Text)) : w.Begins s c (w.signFile (override s c) file person) := by
  have hd : ∀ d, ¬ ReadsAs w.files file d := by
    rintro d ⟨bytes', t, hr', ht, -⟩
    obtain rfl := Except.ok.inj (hr'.symm.trans hr)
    cases ht.symm.trans hb
  rw [signFile, documentOf_of_not_utf8 hr hb]
  exact .escapes _ (not_asks_of_not_readsAs hf hd) (.notUtf8 hf hr hb)

/-- The file has a text. -/
theorem begins_of_readsAs (hf : c.file? = some file) {document : Text} (hd : ReadsAs w.files file document)
    (s : Settings) : w.Begins s c (w.signFile (override s c) file c.person?) := by
  have hunprovided := unprovided_iff_of_readsAs hf hd
  have hasks (r : Request) : w.Asks c r ↔ r.document = document ∧ IsSigner c.person? r.signer := by
    constructor
    · rintro ⟨⟨file', hf', hd'⟩, hs⟩
      obtain rfl := Option.some.inj (hf'.symm.trans hf)
      exact ⟨hd'.unique hd, hs⟩
    · rintro ⟨rfl, hs⟩
      exact ⟨⟨file, hf, hd⟩, hs⟩
  rw [signFile, documentOf_eq_ok_iff.mpr hd]
  dsimp only
  split
  next hl =>
    have hlacks := lacks_iff.mp hl
    exact .escapes _ (fun r hr => ((hasks r).mp hr).2.not_lacks hlacks) (hunprovided.mpr hlacks)
  next hl =>
    have hlacks : ¬ Lacks c.person? := fun h => hl (lacks_iff.mpr h)
    split
    next e he =>
      refine .complains _ (fun r hr => ?_) fun h => hlacks (hunprovided.mp h)
      cases he.symm.trans ((ofPerson_eq_ok_iff hlacks).mpr ((hasks r).mp hr))
    next r hr => exact .session ((hasks r).mpr ((ofPerson_eq_ok_iff hlacks).mp hr))

/-- **What comes of a command that signs**: a session for what it asks for; or a complaint; or, in the cases that are not
provided for, a fault that leaves the program. -/
theorem begins_run (hc : Command.parse args = .ok c) (hs : Settings.load w.sources = .ok s)
    (hf : c.file? = some file) : w.Begins s c (w.run args) := by
  have hrun : w.run args = w.signFile (override s c) file c.person? := by
    rw [run, hc]
    dsimp only
    rw [hs]
    cases c with
    | config => cases hf
    | sign | mobileId => obtain rfl := Option.some.inj hf; rfl
  rw [hrun]
  cases hr : w.files.read file with
  | error f => exact begins_of_unreadable hf hr s c.person?
  | ok bytes =>
    cases hd : Utf8.decode bytes with
    | error f => exact begins_of_notUtf8 hf hr hd s c.person?
    | ok t => exact begins_of_readsAs hf ⟨bytes, t, hr, hd, rfl⟩ s

/-! ## A file that a person signs -/

/-- There is one file, a service that knows no path, and no token. -/
def withFile (bytes : Bytes) : Surroundings := { files := [("b.txt", .file bytes)], cardModule := .absent }

def samplePerson : MobileId := ⟨"60001019906", "+37200000766", by decide, by decide⟩

/-- The arguments by which the person is asked to sign the file. -/
def personSigns : List Text := ["mid", "b.txt", "--personal-code", "60001019906", "--phone", "+37200000766"]

theorem parse_personSigns :
    Command.parse personSigns = .ok (.mobileId "b.txt" (some "60001019906") (some "+37200000766") none) := by
  decide +kernel

/-- The person is asked to sign the text of the file. -/
theorem asks_personSigns {bytes : Bytes} {t : Text} {r : Request} (ht : Utf8.decode bytes = .ok t)
    (hd : r.document = t.unifyNewlines) (hs : r.signer = .mobileId samplePerson) :
    (withFile bytes).Asks (.mobileId "b.txt" (some "60001019906") (some "+37200000766") none) r where
  document := ⟨_, rfl, bytes, t, rfl, ht, hd⟩
  signer := ⟨samplePerson, rfl, rfl, hs⟩

end Surroundings

end CommandLine

end RemoteSigning
