import RemoteSigning.Proofs.Crypto.Rsa
import RemoteSigning.Proofs.Encoding.DigestInfo
import RemoteSigning.Proofs.Token.Signing

/-!
# A key in memory and a card sign alike

With one RSA key it makes no difference whether it is held in memory or on a card: the same bytes come out. A card pads
what it is given and applies the key; that is all that is asked of it.

- `CardKey.Holds` says so of a card's key, `CardKey.holds_ofRsa`: there are such keys;
- `SoftwareToken.sign_rsa`: what a key in memory makes of a digest;
- `SoftwareToken.agrees_with_card`: a card makes the same of it.
-/

namespace RemoteSigning

/-- A card has an RSA key: it pads the data that it is given, if the modulus leaves room for them, and applies the
key. -/
structure CardKey.Holds (k : CardKey) (key : Rsa.PrivateKey) : Prop where
  type : k.type = .known .rsa
  signs : ∀ data, data.length + 11 ≤ key.size →
    ∃ signature, k.sign .rsaPkcs data = .ok signature ∧ key.Raw (Rsa.paddedBlock key.size data) signature

/-- A card's key that signs as `Rsa.PrivateKey.sign?` does. -/
def CardKey.ofRsa (id : Bytes) (key : Rsa.PrivateKey) : CardKey where
  id := id
  type := .known .rsa
  sign
    | .rsaPkcs, data =>
      match key.sign? data with
      | some signature => .ok signature
      | none => .error (.card (.other "DataLenRange") none)
    | .ecdsa, _ => .error (.card (.other "MechanismInvalid") none)

theorem CardKey.holds_ofRsa (id : Bytes) (key : Rsa.PrivateKey) : (CardKey.ofRsa id key).Holds key := by
  refine ⟨rfl, fun data hroom => ?_⟩
  obtain ⟨signature, hsign, hraw⟩ := Rsa.PrivateKey.sign?_raw hroom
  refine ⟨signature, ?_, hraw⟩
  simp [ofRsa, hsign]

namespace SoftwareToken

variable {t : SoftwareToken} {key : Rsa.PrivateKey} {d : Certificate} {h : HashToSign}

/-- An RSA key in memory is applied to the padded encoding of a digest. -/
theorem sign_rsa (hkey : t.key = .rsa key) (hd : d.der = t.certificate.der)
    (halgorithm : h.algorithm.key = none ∨ h.algorithm.key = some .rsa)
    (hdigest : h.digest.length = h.hashName.size)
    (hroom : (h.hashName.encodedInfo h.digest).length + 11 ≤ key.size) :
    ∃ signature, t.sign d h = (.ok signature, none) ∧
      key.Raw (Rsa.paddedBlock key.size (h.hashName.encodedInfo h.digest)) signature := by
  rw [← HashName.digestInfo_eq hdigest] at hroom ⊢
  obtain ⟨signature, hsign, hraw⟩ := Rsa.PrivateKey.sign?_raw hroom
  refine ⟨signature, ?_, hraw⟩
  have hsame : d.same t.certificate = true := by simp [Certificate.same, hd]
  have hadmits : h.algorithm.admits (some t.key.type) = true := by
    rw [hkey]
    exact (h.algorithm.admits_some .rsa).mpr halgorithm
  have hkeySigns : t.key.sign h.hashName h.digest = .ok signature := by
    simp [SigningKey.sign, hkey, hdigest, hsign]
  simp [sign, hsame, hadmits, hkeySigns]

/-- **A key in memory and a card with the same key sign alike.** Neither declines, and both make of a digest the private
power of the padded block that holds the encoding of the digest with its hash function, which is what the card is
given. -/
theorem agrees_with_card {m : CardModule} {c : CardConfig} {loaded : Bool} {d' : Certificate} {s : Slot} {k : CardKey}
    {answer : Except Fault (Option Text)} {login : Login}
    (hkey : t.key = .rsa key) (hd : d.der = t.certificate.der)
    (hfinds : CardModule.Finds m c loaded d' s k) (hholds : k.Holds key) (hlogin : c.LogsIn answer login)
    (halgorithm : h.algorithm.key = none ∨ h.algorithm.key = some .rsa)
    (hdigest : h.digest.length = h.hashName.size)
    (hroom : (h.hashName.encodedInfo h.digest).length + 11 ≤ key.size) :
    h.hashName.digestInfo h.digest = h.hashName.encodedInfo h.digest ∧
      ∃ signature, (t.sign d h).1 = .ok signature ∧ (m.signAsking c loaded d' h answer).2.result = .ok signature ∧
        key.Raw (Rsa.paddedBlock key.size (h.hashName.encodedInfo h.digest)) signature := by
  obtain ⟨signature, hsoftware, hraw⟩ := sign_rsa hkey hd halgorithm hdigest hroom
  have hprepares : k.Prepares h (h.hashName.digestInfo h.digest) .rsaPkcs := .rsa hholds.type halgorithm
  have hreference : d'.keyRef ≠ none := by
    rw [← hfinds.id_eq]
    simp
  have hsigned := m.signAsking_signed loaded h hreference hlogin
  refine ⟨HashName.digestInfo_eq hdigest, signature, by rw [hsoftware], ?_, hraw⟩
  rw [(hsigned.suits s k _ _ hfinds hprepares).2]
  -- The card is given the same data, and there is one result for them.
  rw [← HashName.digestInfo_eq hdigest] at hroom hraw
  obtain ⟨signature', hcard, hraw'⟩ := hholds.signs _ hroom
  rw [hcard, hraw.unique hraw']

def smallKey : Rsa.PrivateKey where
  modulus :=
    0xa4cbb70f508d3df7dfd2642c9b67afd8aa4e23b34c79c817f7ae6b358b8eb4330b7fafb2806c29eb589a85b04e597a1581908eeb94662224288ae8ff2da73309
  publicExponent := 65537
  privateExponent :=
    0x320abe6b031df0cc5d8628ef36bdb4b3497bf2f1566ec0a92e88237c1e05d688109aac87b7f395c1b10bd7a4897fe08404d01bc6766e56e58ef303880fd7f081

/-- The key in memory. -/
def smallToken : SoftwareToken := ⟨.rsa smallKey, ⟨[0x30, 0x00], none⟩⟩

def smallCard : CardModule :=
  ⟨none, none, [⟨1, "ID (PIN2)", [], [.ofRsa [0x02] smallKey], none, none, none, none⟩]⟩

/-- A digest of 32 bytes. -/
def smallHash : HashToSign := ⟨List.replicate 32 0x2A, ⟨.sha256, some .rsa⟩⟩

/-- The digest is signed in memory, and on the card after the user has entered the PIN. -/
theorem agrees_with_card_smallKey :
    smallHash.hashName.digestInfo smallHash.digest = smallHash.hashName.encodedInfo smallHash.digest ∧
      ∃ signature, (smallToken.sign ⟨[0x30, 0x00], none⟩ smallHash).1 = .ok signature ∧
        (smallCard.signAsking ⟨some "module", some "PIN2", none, true⟩ false ⟨[0x30, 0x00], some [0x02]⟩ smallHash
          (.ok (some "12345"))).2.result = .ok signature ∧
        smallKey.Raw (Rsa.paddedBlock smallKey.size (smallHash.hashName.encodedInfo smallHash.digest)) signature := by
  have hdigest : smallHash.digest.length = smallHash.hashName.size := rfl
  have hroom : (smallHash.hashName.encodedInfo smallHash.digest).length + 11 ≤ smallKey.size := by
    rw [← HashName.digestInfo_eq hdigest]
    decide +kernel
  exact agrees_with_card rfl rfl ⟨rfl, rfl, rfl, rfl⟩ (CardKey.holds_ofRsa [0x02] smallKey) (.pin rfl rfl) (.inr rfl)
    hdigest hroom

end SoftwareToken

end RemoteSigning
