import RemoteSigning.Proofs.CommandLine.Asked
import RemoteSigning.Proofs.Rehearsal.Requests
import RemoteSigning.Proofs.Service.Transcript
import RemoteSigning.Proofs.Text.Reading

/-!
# The text of a file and the text that is signed

A command that signs reads the text of a file, and the first request of its session says a text. Between the two nothing
is lost but carriage returns: they are read as line feeds. So the signed text is the file's text exactly if the file has
none of them.

- `Performance.Posts`: the requests to sign a text;
- `Surroundings.says_document`: they say the text of the file with line feeds for all line ends;
- `Surroundings.saysFile_iff`: for which files they say the text as it stands.
-/

namespace RemoteSigning.CommandLine

open Rehearsal

/-- A request to sign a text was made, with a certificate or for a person. -/
def Performance.Posts (p : Performance) (body : Text) : Prop :=
  ∃ n ∈ p.notes, ∃ exchange url, n.event = .cue (.http exchange url body) ∧
    (exchange = .phase1 ∨ exchange = .mobileId)

/-- The body of a request is an object with a text to be signed. -/
def SaysText (body t : Text) : Prop :=
  ∃ members, Json.read .default body = .ok (.object members) ∧ Json.get? members "tekst" = some (.text t)

/-- The text that is to be signed is the text of the file: the bytes of the file, read as UTF-8. Written as UTF-8 it is
the file again. -/
def Performance.SaysFile (p : Performance) (bytes : Bytes) : Prop :=
  ∀ body, p.Posts body → ∃ t, SaysText body t ∧ Utf8.decode bytes = .ok t ∧ Utf8.encode t = .ok bytes

theorem SaysText.unique {body t t' : Text} (h : SaysText body t) (h' : SaysText body t') : t = t' := by
  obtain ⟨members, hr, ht⟩ := h
  obtain ⟨members', hr', ht'⟩ := h'
  obtain rfl := Json.object.inj (Except.ok.inj (hr.symm.trans hr'))
  exact Json.text.inj (Option.some.inj (ht.symm.trans ht'))

/-- A request of a session to sign a text says the document. -/
theorem saysText_of_isFor {r : Request} {o : Outgoing} {address : Text} {url : Url} {body : Text} (ho : o.IsFor r)
    (hd : r.document.isScalar = true) (hp : o.prepare address = .ok (url, body))
    (he : o.endpoint = .phase1 ∨ o.endpoint = .mobileId) : SaysText body r.document := by
  obtain rfl := Outgoing.eq_text_of_prepare hp
  obtain ⟨-, hphase1, -, hmobile, -⟩ := decodes_to_held hd
  cases ho with
  | phase1 c =>
    obtain ⟨sert, hsaid, -⟩ := hphase1 c
    exact ⟨_, hsaid.text, rfl⟩
  | mobileId p => exact ⟨_, (hmobile p).text, rfl⟩
  | phase2 => rcases he with he | he <;> cases he

namespace Surroundings

variable {w : Surroundings} {args : List Text} {c : Command} {s : Settings} {file : Text} {bytes : Bytes} {t : Text}

/-- **What is signed is the text of the file** with line feeds for all line ends. -/
theorem says_document (hc : Command.parse args = .ok c) (hf : c.file? = some file)
    (hs : Settings.load w.sources = .ok s) (hr : w.files.read file = .ok bytes) (ht : Utf8.decode bytes = .ok t)
    {body : Text} (hb : (w.run args).Posts body) : SaysText body t.unifyNewlines := by
  have hbegins := begins_run hc hs hf
  generalize w.run args = p at hbegins hb
  obtain ⟨n, hn, exchange, url, hevent, hexchange⟩ := hb
  cases hbegins with
  | complains => cases hn
  | escapes => cases hn
  | @session r hasks =>
    obtain ⟨⟨file', hf', hread⟩, -⟩ := hasks
    obtain rfl := Option.some.inj (hf'.symm.trans hf)
    have hdocument : r.document = t.unifyNewlines := hread.unique ⟨bytes, t, hr, ht, rfl⟩
    have hscalar : r.document.isScalar = true :=
      hdocument ▸ Text.isScalar_unifyNewlines (Utf8.decode_eq_ok_iff.mp ht).1
    obtain ⟨o, ho, rfl, hp⟩ := Stage.proper_of_mem_notes hn exchange url body hevent
    exact hdocument ▸ saysText_of_isFor ho hscalar hp hexchange

/-- A person who is asked to sign a document is sent it, if the request can be sent. -/
theorem posts_of_asks (hc : Command.parse args = .ok c) (hf : c.file? = some file)
    (hs : Settings.load w.sources = .ok s) {r : Request} (hr : w.Asks c r) {p : MobileId} (hp : r.signer = .mobileId p)
    {url : Url} {body : Text}
    (hsent : (Outgoing.mobileId p.personalCode p.phoneNumber r.document).prepare s.serviceUrl = .ok (url, body)) :
    (w.run args).Posts body := by
  have hbegins := begins_run hc hs hf
  generalize w.run args = performance at hbegins ⊢
  cases hbegins with
  | complains _ hnone => exact absurd hr (hnone r)
  | escapes _ hnone => exact absurd hr (hnone r)
  | session hr' =>
    obtain rfl := hr.unique hr'
    have hmem := Stage.mem_notes_of_mobileId (c := w.cast (override s c) r.document) hp hsent w.files sessionName
    exact ⟨_, hmem, .mobileId, url, rfl, .inr rfl⟩

/-- **The signed text is the file's text** exactly if the file has no carriage return. -/
theorem saysFile_iff (hc : Command.parse args = .ok c) (hf : c.file? = some file)
    (hs : Settings.load w.sources = .ok s) (hr : w.files.read file = .ok bytes) (ht : Utf8.decode bytes = .ok t)
    (hreaches : ∃ body, (w.run args).Posts body) :
    (w.run args).SaysFile bytes ↔ CodePoint.ofChar '\r' ∉ t := by
  rw [← Text.unifyNewlines_eq_self_iff]
  constructor
  · intro h
    obtain ⟨body, hb⟩ := hreaches
    obtain ⟨t', ht', hd, -⟩ := h body hb
    obtain rfl := Except.ok.inj (hd.symm.trans ht)
    exact (says_document hc hf hs hr ht hb).unique ht'
  · intro h body hb
    refine ⟨t, ?_, ht, Utf8.encode_of_decode ht⟩
    have hsaid := says_document hc hf hs hr ht hb
    rwa [h] at hsaid

/-! ## A file of two lines that a person signs -/

/-- A person signs two lines. -/
def twoLines : Request := ⟨"a\nb", .mobileId samplePerson, by decide⟩

/-- The service is sent the two lines, however they end in the file. -/
theorem exists_posts_personSigns (ht : Utf8.decode bytes = .ok t) (hlines : t.unifyNewlines = twoLines.document) :
    ∃ body, ((withFile bytes).run personSigns).Posts body := by
  have hasks := asks_personSigns (r := twoLines) ht hlines.symm rfl
  let o : Outgoing := .mobileId samplePerson.personalCode samplePerson.phoneNumber twoLines.document
  have hsent : (o.prepare "https://localhost:8080").toOption.isSome = true := by decide +kernel
  cases hp : o.prepare "https://localhost:8080" with
  | error f => rw [hp] at hsent; cases hsent
  | ok sent =>
    have hs : Settings.load (withFile bytes).sources = .ok .default := rfl
    exact ⟨sent.2, posts_of_asks parse_personSigns rfl hs hasks rfl hp⟩

theorem saysFile_iff_lineFeed :
    Utf8.decode [97, 10, 98] = .ok "a\nb" ∧ ((withFile [97, 10, 98]).run personSigns).SaysFile [97, 10, 98] := by
  have ht : Utf8.decode [97, 10, 98] = .ok "a\nb" := by cbv
  have hreaches := exists_posts_personSigns ht (by decide)
  exact ⟨ht, (saysFile_iff parse_personSigns rfl rfl rfl ht hreaches).mpr (by decide)⟩

/-- A line that ends with a carriage return and a line feed is signed as one that ends with a line feed. -/
theorem not_saysFile_carriageReturn :
    Utf8.decode [97, 13, 10, 98] = .ok "a\r\nb" ∧
      (∃ body, ((withFile [97, 13, 10, 98]).run personSigns).Posts body ∧ SaysText body "a\nb") ∧
      ¬ ((withFile [97, 13, 10, 98]).run personSigns).SaysFile [97, 13, 10, 98] := by
  have ht : Utf8.decode [97, 13, 10, 98] = .ok "a\r\nb" := by cbv
  obtain ⟨body, hb⟩ := exists_posts_personSigns ht (by decide)
  have hsaid : SaysText body "a\nb" := says_document parse_personSigns rfl rfl rfl ht hb
  refine ⟨ht, ⟨body, hb, hsaid⟩, fun h => ?_⟩
  obtain ⟨t, hsaid', hd, -⟩ := h body hb
  obtain rfl := Except.ok.inj (hd.symm.trans ht)
  exact absurd (hsaid.unique hsaid') (by decide)

end Surroundings

end RemoteSigning.CommandLine
