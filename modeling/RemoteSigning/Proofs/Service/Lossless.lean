import RemoteSigning.Proofs.Service.Digest
import RemoteSigning.Proofs.Service.Transcript
import RemoteSigning.Proofs.Session.Moves

/-!
# Digests and signatures keep their bytes

A digest comes from the service in base64, and a signature goes to it in base64. Both ways the bytes are kept: what is
sent is read strictly as the signature, and what an answer holds is the digest that was written. So a session that waits
for a signature over one digest does not take a signature over another one that the service asked for elsewhere.

- `HashToSign.read_encode`: a digest is read as it was written;
- `readHttpAnswer_of_holds`: so it is in an answer;
- `Session.resume_of_foreignHash`: a session ends when it gets a signature over another hash;
- `wireCoding_lossless`: nothing is lost either way.
-/

namespace RemoteSigning

/-! ## Signatures that are sent -/

theorem Signature.decode_encoded (s : Signature) : Base64.decode .strict s.encoded = .ok s.value :=
  Base64.decode_encode .strict s.value

/-- Requests with the same text hold signatures in the same letters. -/
theorem Outgoing.encoded_eq_of_text_eq {s s' : Signature} (h : (phase2 s).text = (phase2 s').text) :
    s.encoded = s'.encoded := by
  have hread := (says_members (isScalar_told_phase2 s)).text
  rw [h, (says_members (isScalar_told_phase2 s')).text] at hread
  have hmembers : (phase2 s').members = (phase2 s).members := Json.object.inj (Except.ok.inj hread)
  simpa [members] using hmembers.symm

/-! ## Digests that are received -/

/-- A digest is read as it was written. -/
theorem HashToSign.read_encode {digest : Bytes} {name : Text} {a : Algorithm} (hne : digest ≠ [])
    (ha : Algorithm.parse? name = some a) : read (Base64.encode digest) name = .ok ⟨digest, a⟩ :=
  (read_eq_ok_iff ha).mpr ⟨Base64.decode_encode .strict digest, hne, rfl⟩

/-- An answer of success holds a digest in base64 and a name of an algorithm. -/
structure HttpAnswer.Holds (answer : HttpAnswer) (digest : Bytes) (a : Algorithm) : Prop where
  success : answer.isSuccess = true
  notEmpty : digest ≠ []
  members : ∃ members name, readBody .phase1 answer.body = .ok (.object members) ∧
    Json.get? members "hash" = some (.text (Base64.encode digest)) ∧ Json.get? members "algo" = some (.text name) ∧
    Algorithm.parse? name = some a

/-- The digest of an answer is read as it was written. -/
theorem readHttpAnswer_of_holds {answer : HttpAnswer} {digest : Bytes} {a : Algorithm} (h : answer.Holds digest a) :
    readHttpAnswer .phase1 answer = .ok (.hash ⟨digest, a⟩) := by
  obtain ⟨hs, hne, members, name, hb, hhash, halgo, ha⟩ := h
  have hname : name ≠ [] := by
    rintro rfl
    have hnone : Algorithm.parse? [] = none := by decide +kernel
    cases hnone.symm.trans ha
  have hread : readMembers .phase1 members = .ok (.hash ⟨digest, a⟩) :=
    readMembers_eq_ok_iff.mpr
      (.hash hhash (Base64.encode_ne_nil hne) halgo hname (HashToSign.read_encode hne ha))
  simp only [readHttpAnswer, hs, hb, hread, Bool.not_true, Bool.false_eq_true, if_false]

/-! ## Signatures over another hash -/

/-- A session that gets a signature over another hash than the one it waits for fails, and makes no call. -/
theorem Session.resume_of_foreignHash {s : Session} {backend : Handle} {c : Certificate} {h : HashToSign} {n : Nat}
    {sig : Signature} (hrun : s.run = some ⟨.sign backend c h, n⟩) (hne : sig.hash ≠ h) :
    (s.resume (.ok (.signature sig))).1.state =
        .failed (if s.cancelRequested then .userCancelled else .signatureDeclined) none ∧
      (s.resume (.ok (.signature sig))).2.filterMap Action.call? = [] := by
  have hresume : s.resume (.ok (.signature sig)) =
      if s.cancelRequested then s.fail .userCancelled .none n else s.takeSignature h sig n := by
    rw [resume, hrun]
    rfl
  rw [hresume]
  by_cases hc : s.cancelRequested = true
  · rw [if_pos hc, if_pos hc]
    exact ⟨rfl, rfl⟩
  · rw [if_neg hc, if_neg hc, takeSignature, if_neg hne]
    exact ⟨rfl, rfl⟩

/-! ## Nothing is lost -/

/-- **Digests and signatures keep their bytes.** A signature is read from what is sent, so that two signatures are not
sent as one; a digest is read as it was written, with the algorithm that is named; and a session that waits for a
signature over the digest of one answer takes none that was made over the different digest of another answer. -/
theorem wireCoding_lossless :
    (∀ s : Signature, Base64.decode .strict s.encoded = .ok s.value) ∧
    (∀ s s' : Signature, s.value ≠ s'.value →
      s.encoded ≠ s'.encoded ∧ (Outgoing.phase2 s).text ≠ (Outgoing.phase2 s').text) ∧
    (∀ (digest : Bytes) (name : Text) (a : Algorithm), digest ≠ [] → Algorithm.parse? name = some a →
      HashToSign.read (Base64.encode digest) name = .ok ⟨digest, a⟩) ∧
    ∀ (x y : HttpAnswer) (digest digest' : Bytes) (a a' : Algorithm), x.Holds digest a → y.Holds digest' a' →
      readHttpAnswer .phase1 x = .ok (.hash ⟨digest, a⟩) ∧ readHttpAnswer .phase1 y = .ok (.hash ⟨digest', a'⟩) ∧
      (digest ≠ digest' → ∀ (s : Session) (backend : Handle) (c : Certificate) (n : Nat) (value : Bytes),
        s.run = some ⟨.sign backend c ⟨digest, a⟩, n⟩ →
        (s.resume (.ok (.signature ⟨value, ⟨digest', a'⟩⟩))).1.state =
            .failed (if s.cancelRequested then .userCancelled else .signatureDeclined) none ∧
          (s.resume (.ok (.signature ⟨value, ⟨digest', a'⟩⟩))).2.filterMap Action.call? = []) := by
  have hencoded {s s' : Signature} (h : s.encoded = s'.encoded) : s.value = s'.value :=
    Except.ok.inj (s.decode_encoded.symm.trans (h ▸ s'.decode_encoded))
  refine ⟨Signature.decode_encoded, fun s s' hne => ⟨fun h => hne (hencoded h), fun h => ?_⟩,
    fun _ _ _ => HashToSign.read_encode, fun x y digest digest' a a' hx hy => ?_⟩
  · exact hne (hencoded (Outgoing.encoded_eq_of_text_eq h))
  · refine ⟨readHttpAnswer_of_holds hx, readHttpAnswer_of_holds hy, fun hne s backend c n value hrun => ?_⟩
    exact Session.resume_of_foreignHash hrun fun h => hne (congrArg HashToSign.digest h).symm

def sampleAnswer (digest : Bytes) : HttpAnswer :=
  ⟨200, Utf8.encodeAll
    (Json.render .request (.object (Json.texts [("hash", Base64.encode digest), ("algo", "rsa-sha256")])))⟩

theorem holds_sampleAnswer (digest : Bytes) (hne : digest ≠ []) :
    (sampleAnswer digest).Holds digest ⟨.sha256, some .rsa⟩ := by
  let ms : List (Text × Text) := [("hash", Base64.encode digest), ("algo", "rsa-sha256")]
  have hnames : ∀ name ∈ [Text.ofString "hash", Text.ofString "algo"], name.isScalar = true := by decide
  have hscalar : ∀ m ∈ ms, m.1.isScalar = true ∧ m.2.isScalar = true := by
    refine fun m hm => ⟨hnames m.1 (List.mem_map_of_mem hm), ?_⟩
    rcases List.mem_cons.mp hm with rfl | hm
    · exact Text.isScalar_of_isAscii (isAscii_encode digest)
    · obtain rfl := List.mem_singleton.mp hm
      decide
  have hfirst : Text.ofString "hash" ≠ [] ∧ (Text.ofString "hash").isAscii = true := by decide
  have hnodup : [Text.ofString "hash", Text.ofString "algo"].Nodup := by decide
  exact ⟨rfl, hne, Json.texts ms, "rsa-sha256",
    Json.readBody_render_texts .phase1 hfirst.1 hfirst.2 hscalar hnodup, rfl, rfl, by decide +kernel⟩

/-- A session that waits for a signature over a digest. -/
def sampleWaiting (digest : Bytes) : Session :=
  (Session.fresh "s" ⟨"tekst", .localToken, by decide⟩ (.mode .auto) "et").begun.calling
    (.sign 0 ⟨[0x30, 0x00], none⟩ ⟨digest, ⟨.sha256, some .rsa⟩⟩) 0

/-- Two signatures that differ in one bit, two answers whose digests do, and a session that gets the wrong one. -/
theorem wireCoding_lossless_oneBit :
    (⟨[0x01], default⟩ : Signature).encoded ≠ (⟨[0x00], default⟩ : Signature).encoded ∧
    HashToSign.read (Base64.encode [0x01]) " rsa-sha256" = .ok ⟨[0x01], ⟨.sha256, some .rsa⟩⟩ ∧
    (sampleAnswer [0x01]).Holds [0x01] ⟨.sha256, some .rsa⟩ ∧ (sampleAnswer [0x00]).Holds [0x00] ⟨.sha256, some .rsa⟩ ∧
    ((sampleWaiting [0x01]).resume (.ok (.signature ⟨[0x2A], ⟨[0x00], ⟨.sha256, some .rsa⟩⟩⟩))).1.state =
      .failed .signatureDeclined none := by
  have hx := holds_sampleAnswer [0x01] (by decide)
  have hy := holds_sampleAnswer [0x00] (by decide)
  obtain ⟨-, hsent, hread, hanswers⟩ := wireCoding_lossless
  obtain ⟨-, -, hforeign⟩ := hanswers _ _ _ _ _ _ hx hy
  exact ⟨(hsent ⟨[0x01], default⟩ ⟨[0x00], default⟩ (by decide)).1, hread [0x01] " rsa-sha256" _ (by decide)
    (by decide +kernel), hx, hy, (hforeign (by decide) (sampleWaiting [0x01]) 0 ⟨[0x30, 0x00], none⟩ 0 [0x2A] rfl).1⟩

end RemoteSigning
