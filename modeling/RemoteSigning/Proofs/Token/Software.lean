import RemoteSigning.Proofs.Crypto.Ecdsa
import RemoteSigning.Proofs.Token.Agreement

/-!
# What a key in memory signs

A key in memory signs for its own certificate only, with algorithms that suit it, and only digests that are as long as
those of the hash function they are named after and for which an RSA modulus leaves room. Everything else is declined,
and a certificate of somebody else before all other things.

- `SoftwareToken.Accepts` is what has to hold, `SigningKey.Makes` what is made then;
- `SigningKey.sign_eq_ok_iff`, `SoftwareToken.sign_eq_ok_iff`: a key makes this and nothing else;
- `SoftwareToken.signs_or_declines`: there is a signature exactly if it has to be, and otherwise a reason;
- `SoftwareToken.raw_pair_comes_back`: a pair of numbers is written in full, and can be read again.
-/

namespace RemoteSigning

/-! ## Digests -/

/-- A digest is as long as its hash function says. -/
theorem HashName.length_digest (h : HashName) (message : Bytes) : (h.digest message).length = h.size := by
  cases h <;> simp [digest, Sha2.State.toBytes, Sha2.State.words, Sha2.length_toBytes, Sha2.Word.bytes, size, bits]

/-! ## Keys -/

namespace SigningKey

/-- A key leaves room for the encoding of a digest with its hash function; on a curve nothing is encoded. -/
inductive HasRoom (h : HashName) (digest : Bytes) : SigningKey → Prop
  | rsa {key : Rsa.PrivateKey} : (h.encodedInfo digest).length + 11 ≤ key.size → HasRoom h digest (.rsa key)
  | ec (key : Ecdsa.PrivateKey) : HasRoom h digest (.ec key)

/-- What a key makes of a digest: an RSA key is applied to the padded encoding of the digest with its hash function, and
for a key on a curve a pair is written, in two halves. -/
inductive Makes (pairs : PairSource) (h : HashName) (digest : Bytes) : SigningKey → Bytes → Prop
  | rsa {key : Rsa.PrivateKey} {signature : Bytes} :
      key.Raw (Rsa.paddedBlock key.size (h.encodedInfo digest)) signature → Makes pairs h digest (.rsa key) signature
  | ec (key : Ecdsa.PrivateKey) :
      Makes pairs h digest (.ec key)
        (Ecdsa.rawBytes key.curve.halfSize (pairs h key digest).1 (pairs h key digest).2)

variable {k : SigningKey} {h : HashName} {digest signature : Bytes} {pairs : PairSource}

/-- A key signs digests of the right length that it has room for. -/
theorem sign_eq_ok_iff :
    k.sign h digest pairs = .ok signature ↔
      (digest.length = h.size ∧ k.HasRoom h digest) ∧ k.Makes pairs h digest signature := by
  unfold sign
  by_cases hlength : digest.length = h.size
  · rw [if_neg (not_not_intro hlength)]
    cases k with
    | rsa key =>
      have hmade : key.sign? (h.encodedInfo digest) = some signature ↔
          HasRoom h digest (.rsa key) ∧ Makes pairs h digest (.rsa key) signature := by
        rw [Rsa.PrivateKey.sign?_eq_some_iff]
        constructor
        · rintro ⟨hroom, hraw⟩
          exact ⟨.rsa hroom, .rsa hraw⟩
        · rintro ⟨⟨hroom⟩, ⟨hraw⟩⟩
          exact ⟨hroom, hraw⟩
      rw [and_assoc, and_iff_right hlength, ← hmade, HashName.digestInfo_eq hlength]
      dsimp only
      cases key.sign? (h.encodedInfo digest) with
      | none => simp
      | some made => simp
    | ec key =>
      refine ⟨fun he => ⟨⟨hlength, .ec key⟩, Except.ok.inj he ▸ .ec key⟩, ?_⟩
      rintro ⟨-, ⟨⟩⟩
      rfl
  · rw [if_pos hlength]
    exact iff_of_false nofun fun hm => hlength hm.1.1

/-- Something is made of every digest that there is room for. -/
theorem exists_makes (pairs : PairSource) (hroom : k.HasRoom h digest) :
    ∃ signature, k.Makes pairs h digest signature := by
  cases hroom with
  | @rsa key hroom =>
    obtain ⟨signature, -, hraw⟩ := Rsa.PrivateKey.sign?_raw hroom
    exact ⟨signature, .rsa hraw⟩
  | ec key => exact ⟨_, .ec key⟩

/-- Of other digests nothing is made, wherever pairs come from. -/
theorem exists_sign_eq_error (hnot : ¬ (digest.length = h.size ∧ k.HasRoom h digest)) :
    ∃ p, ∀ pairs, k.sign h digest pairs = .error p := by
  by_cases hlength : digest.length = h.size
  · cases k with
    | rsa key =>
      have hnone : key.sign? (h.digestInfo digest) = none := by
        rw [Option.eq_none_iff_forall_ne_some]
        intro signature hs
        rw [Rsa.PrivateKey.sign?_eq_some_iff, HashName.digestInfo_eq hlength] at hs
        exact hnot ⟨hlength, .rsa hs.1⟩
      exact ⟨.keyTooSmall, fun pairs => by simp [sign, hlength, hnone]⟩
    | ec key => exact absurd ⟨hlength, .ec key⟩ hnot
  · exact ⟨.digestLength, fun pairs => if_pos hlength⟩

end SigningKey

/-! ## Tokens -/

namespace SoftwareToken

variable {t : SoftwareToken} {d : Certificate} {h : HashToSign} {pairs : PairSource}

/-- What has to hold for a signature: the certificate is the token's own, the algorithm names no kind of key or that of
the key, the digest is as long as any digest of its hash function, and the key has room for its encoding. -/
structure Accepts (t : SoftwareToken) (d : Certificate) (h : HashToSign) : Prop where
  certificate : d.der = t.certificate.der
  algorithm : h.algorithm.key = none ∨ h.algorithm.key = some t.key.type
  digest : ∀ message, h.digest.length = (h.hashName.digest message).length
  room : t.key.HasRoom h.hashName h.digest

/-- The first two things are looked at by the token, the others by its key. -/
theorem accepts_iff :
    t.Accepts d h ↔ d.der = t.certificate.der ∧ (h.algorithm.key = none ∨ h.algorithm.key = some t.key.type) ∧
      h.digest.length = h.hashName.size ∧ t.key.HasRoom h.hashName h.digest := by
  constructor
  · rintro ⟨hd, ha, hdigest, hroom⟩
    exact ⟨hd, ha, (hdigest []).trans (h.hashName.length_digest []), hroom⟩
  · rintro ⟨hd, ha, hlength, hroom⟩
    exact ⟨hd, ha, fun message => hlength.trans (h.hashName.length_digest message).symm, hroom⟩

/-- An algorithm for keys of another kind is declined. -/
theorem sign_of_other_key (hd : d.der = t.certificate.der)
    (halgorithm : ¬ (h.algorithm.key = none ∨ h.algorithm.key = some t.key.type)) (pairs : PairSource) :
    (t.sign d h pairs).1 = .error (.decline .tokenError (Text.ofString h.algorithm.identifier ++
      " cannot be used with a " ++ Text.ofString t.key.type.name ++ " key")) := by
  have hsame : d.same t.certificate = true := (d.same_iff _).mpr hd
  have hadmits : h.algorithm.admits (some t.key.type) = false := by
    rw [Bool.eq_false_iff, Ne, h.algorithm.admits_some]
    exact halgorithm
  simp [sign, hsame, hadmits]

/-- Otherwise the key decides, and what it cannot sign is declined. -/
theorem sign_of_own (hd : d.der = t.certificate.der)
    (halgorithm : h.algorithm.key = none ∨ h.algorithm.key = some t.key.type) (pairs : PairSource) :
    (t.sign d h pairs).1 =
      (t.key.sign h.hashName h.digest pairs).mapError fun p => .decline .tokenError p.message := by
  have hsame : d.same t.certificate = true := (d.same_iff _).mpr hd
  have hadmits : h.algorithm.admits (some t.key.type) = true := (h.algorithm.admits_some _).mpr halgorithm
  simp only [sign, hsame, hadmits, Bool.not_true, Bool.false_eq_true, if_false]
  cases t.key.sign h.hashName h.digest pairs <;> rfl

/-- There is a signature if all this holds, and it is what the key makes. -/
theorem sign_eq_ok_iff {signature : Bytes} :
    (t.sign d h pairs).1 = .ok signature ↔
      t.Accepts d h ∧ t.key.Makes pairs h.hashName h.digest signature := by
  rw [accepts_iff]
  by_cases hd : d.der = t.certificate.der
  · by_cases halgorithm : h.algorithm.key = none ∨ h.algorithm.key = some t.key.type
    · have hkey : t.key.sign h.hashName h.digest pairs = .ok signature ↔ _ := SigningKey.sign_eq_ok_iff
      rw [sign_of_own hd halgorithm]
      generalize t.key.sign h.hashName h.digest pairs = r at hkey ⊢
      cases r with
      | ok made => simpa [Except.mapError, hd, halgorithm, and_assoc] using hkey
      | error p => simpa [Except.mapError, hd, halgorithm, and_assoc] using hkey
    · rw [sign_of_other_key hd halgorithm]
      exact iff_of_false nofun fun hm => halgorithm hm.1.2.1
  · rw [sign_of_other_certificate hd]
    exact iff_of_false nofun fun hm => hd hm.1.1

/-- **A key in memory signs only what it should.** Wherever its pairs come from, it makes a signature exactly if the
certificate is its own, whatever the reference to a key in it, if the algorithm suits the key, if the digest has the
right length, and if the modulus of an RSA key leaves room. Otherwise it declines, without a signature: a certificate of
somebody else as such, whatever else is wrong, and everything else as a fault of the token. -/
theorem signs_or_declines (t : SoftwareToken) (d : Certificate) (h : HashToSign) :
    (∀ pairs, (∃ signature, (t.sign d h pairs).1 = .ok signature) ↔ t.Accepts d h) ∧
    (∀ pairs signature, (t.sign d h pairs).1 = .ok signature → t.key.Makes pairs h.hashName h.digest signature) ∧
    (d.der ≠ t.certificate.der → ∃ message, ∀ pairs,
      (t.sign d h pairs).1 = .error (.declined .noCertificate message)) ∧
    (d.der = t.certificate.der → ¬ t.Accepts d h → ∃ message, ∀ pairs,
      (t.sign d h pairs).1 = .error (.declined .tokenError message)) := by
  refine ⟨fun pairs => ⟨?_, fun ha => ?_⟩, fun pairs signature hs => (sign_eq_ok_iff.mp hs).2, fun hd => ?_,
    fun hd hnot => ?_⟩
  · rintro ⟨signature, hs⟩
    exact (sign_eq_ok_iff.mp hs).1
  · obtain ⟨signature, hm⟩ := SigningKey.exists_makes pairs ha.room
    exact ⟨signature, sign_eq_ok_iff.mpr ⟨ha, hm⟩⟩
  · exact ⟨_, sign_of_other_certificate hd h⟩
  · by_cases halgorithm : h.algorithm.key = none ∨ h.algorithm.key = some t.key.type
    · have hkey : ¬ (h.digest.length = h.hashName.size ∧ t.key.HasRoom h.hashName h.digest) :=
        fun hk => hnot (accepts_iff.mpr ⟨hd, halgorithm, hk⟩)
      obtain ⟨p, hp⟩ := SigningKey.exists_sign_eq_error hkey
      exact ⟨_, fun pairs => by rw [sign_of_own hd halgorithm, hp]; rfl⟩
    · exact ⟨_, sign_of_other_key hd halgorithm⟩

/-- A key of 512 bits signs a digest of 32 bytes for its own certificate, whatever the reference in it. It has no room
for one of 64 bytes, and of a hash for another certificate it does not even see that everything else is wrong, too. -/
theorem signs_or_declines_smallToken :
    (smallToken.Accepts ⟨[0x30, 0x00], some [0x02]⟩ smallHash ∧
      ∃ signature, (smallToken.sign ⟨[0x30, 0x00], some [0x02]⟩ smallHash).1 = .ok signature) ∧
    (¬ smallToken.Accepts ⟨[0x30, 0x00], none⟩ ⟨List.replicate 64 0x2A, ⟨.sha512, none⟩⟩ ∧ ∃ message,
      (smallToken.sign ⟨[0x30, 0x00], none⟩ ⟨List.replicate 64 0x2A, ⟨.sha512, none⟩⟩).1 =
        .error (.declined .tokenError message)) ∧
    ([0x30, 0x01] ≠ smallToken.certificate.der ∧ ∃ message,
      (smallToken.sign ⟨[0x30, 0x01], none⟩ ⟨[], ⟨.sha512, some .ec⟩⟩).1 =
        .error (.declined .noCertificate message)) := by
  have hencoded (h : HashName) {digest : Bytes} (hlength : digest.length = h.size) :
      (h.encodedInfo digest).length = h.size + 19 := by
    rw [← HashName.digestInfo_eq hlength, HashName.digestInfo, List.length_append, h.length_digestInfoHead, hlength,
      Nat.add_comm]
  have hsize : smallKey.size = 64 := by decide +kernel
  have haccepts : smallToken.Accepts ⟨[0x30, 0x00], some [0x02]⟩ smallHash := by
    refine accepts_iff.mpr ⟨rfl, .inr rfl, rfl, .rsa ?_⟩
    rw [hencoded _ rfl, hsize]
    decide
  have hrefuses : ¬ smallToken.Accepts ⟨[0x30, 0x00], none⟩ ⟨List.replicate 64 0x2A, ⟨.sha512, none⟩⟩ := by
    rintro ⟨-, -, -, ⟨hroom⟩⟩
    rw [hencoded _ rfl, hsize] at hroom
    exact absurd hroom (by decide)
  obtain ⟨hsigns, -⟩ := signs_or_declines smallToken ⟨[0x30, 0x00], some [0x02]⟩ smallHash
  obtain ⟨-, -, -, hroom⟩ :=
    signs_or_declines smallToken ⟨[0x30, 0x00], none⟩ ⟨List.replicate 64 0x2A, ⟨.sha512, none⟩⟩
  obtain ⟨-, -, hother, -⟩ := signs_or_declines smallToken ⟨[0x30, 0x01], none⟩ ⟨[], ⟨.sha512, some .ec⟩⟩
  have hne : [0x30, 0x01] ≠ smallToken.certificate.der := by decide
  obtain ⟨small, hsmall⟩ := hroom rfl hrefuses
  obtain ⟨foreign, hforeign⟩ := hother hne
  exact ⟨⟨haccepts, (hsigns _).mpr haccepts⟩, ⟨hrefuses, small, hsmall _⟩, hne, foreign, hforeign _⟩

/-! ## Keys on curves -/

section Raw

variable {key : Ecdsa.PrivateKey}

/-- What comes from a key on a curve is a pair in two halves. -/
theorem eq_rawBytes_of_sign {signature : Bytes} (hkey : t.key = .ec key)
    (hs : (t.sign d h pairs).1 = .ok signature) :
    signature = Ecdsa.rawBytes (key.curve.bits ⌈/⌉ 8) (pairs h.hashName key h.digest).1
      (pairs h.hashName key h.digest).2 := by
  obtain ⟨-, hm⟩ := sign_eq_ok_iff.mp hs
  rw [hkey] at hm
  cases hm
  rw [key.curve.halfSize_eq]

/-- The pair can be read from it. -/
theorem rawPair_of_sign {signature : Bytes} (hkey : t.key = .ec key)
    (horder : key.curve.order < 256 ^ (key.curve.bits ⌈/⌉ 8))
    (hbelow : Ecdsa.Below key.curve (pairs h.hashName key h.digest)) (hs : (t.sign d h pairs).1 = .ok signature) :
    rawPair (key.curve.bits ⌈/⌉ 8) signature = pairs h.hashName key h.digest := by
  rw [eq_rawBytes_of_sign hkey hs]
  exact Ecdsa.rawPair_rawBytes (hbelow.first.trans horder) (hbelow.second.trans horder)

/-- **A pair of numbers comes back.** Let the order of a curve fit in as many whole bytes as the key has, and let the
pair for a hash be below the order, wherever it comes from. Then both numbers can be written in so many bytes, and the
signature is the one behind the other; it is twice as long, and reading its halves gives the pair again. So no other
pair has the same signature. -/
theorem raw_pair_comes_back (hkey : t.key = .ec key) (horder : key.curve.order < 256 ^ (key.curve.bits ⌈/⌉ 8))
    (hbelow : Ecdsa.Below key.curve (pairs h.hashName key h.digest)) (haccepts : t.Accepts d h) :
    let size := key.curve.bits ⌈/⌉ 8
    let pair := pairs h.hashName key h.digest
    ∃ first second, (t.sign d h pairs).1 = .ok (first ++ second) ∧
      Sha2.toBytes? size pair.1 = some first ∧ Sha2.toBytes? size pair.2 = some second ∧
      (first ++ second).length = 2 * size ∧ rawPair size (first ++ second) = pair ∧
      ∀ d' h' pairs', Ecdsa.Below key.curve (pairs' h'.hashName key h'.digest) →
        (t.sign d' h' pairs').1 = .ok (first ++ second) → pairs' h'.hashName key h'.digest = pair := by
  intro size pair
  obtain ⟨signature, hm⟩ := SigningKey.exists_makes pairs haccepts.room
  have hs : (t.sign d h pairs).1 = .ok signature := sign_eq_ok_iff.mpr ⟨haccepts, hm⟩
  have hpair := rawPair_of_sign hkey horder hbelow hs
  obtain ⟨first, second, hraw, hfirst, hsecond⟩ :=
    Ecdsa.exists_rawBytes_eq (hbelow.first.trans horder) (hbelow.second.trans horder)
  obtain rfl : signature = first ++ second := (eq_rawBytes_of_sign hkey hs).trans hraw
  refine ⟨first, second, hs, hfirst, hsecond, ?_, hpair, fun d' h' pairs' hbelow' hs' => ?_⟩
  · rw [← hraw, Ecdsa.length_rawBytes]
  · exact (rawPair_of_sign hkey horder hbelow' hs').symm.trans hpair

/-- A key of 521 bits, which is not a whole number of bytes. -/
def curveKey : Ecdsa.PrivateKey := ⟨Curve.secp521r1, 0xC0FFEE⟩

/-- The key in memory. -/
def curveToken : SoftwareToken := ⟨.ec curveKey, ⟨[0x30, 0x00], none⟩⟩

/-- A digest of 64 bytes. -/
def longHash : HashToSign := ⟨List.replicate 64 0x2A, ⟨.sha512, some .ec⟩⟩

/-- Its signature has two halves of 66 bytes. -/
theorem raw_pair_comes_back_curveToken :
    curveKey.curve.order < 256 ^ (curveKey.curve.bits ⌈/⌉ 8) ∧
      Ecdsa.Below curveKey.curve (Ecdsa.sign longHash.hashName curveKey longHash.digest) ∧
      curveToken.Accepts ⟨[0x30, 0x00], none⟩ longHash ∧
      ∃ signature, (curveToken.sign ⟨[0x30, 0x00], none⟩ longHash).1 = .ok signature ∧ signature.length = 2 * 66 ∧
        rawPair 66 signature = Ecdsa.sign longHash.hashName curveKey longHash.digest := by
  have horder : curveKey.curve.order < 256 ^ (curveKey.curve.bits ⌈/⌉ 8) := Curve.order_lt_of_mem_all (by decide)
  have hbelow := Ecdsa.sign_below curveKey (by decide) longHash.hashName longHash.digest
  have haccepts : curveToken.Accepts ⟨[0x30, 0x00], none⟩ longHash :=
    accepts_iff.mpr ⟨rfl, .inr rfl, by decide, .ec curveKey⟩
  have hsize : curveKey.curve.bits ⌈/⌉ 8 = 66 := curveKey.curve.halfSize_eq.symm
  obtain ⟨first, second, hs, -, -, hlength, hpair, -⟩ := raw_pair_comes_back rfl horder hbelow haccepts
  rw [hsize] at hlength hpair
  exact ⟨horder, hbelow, haccepts, first ++ second, hs, hlength, hpair⟩

end Raw

end SoftwareToken

end RemoteSigning
