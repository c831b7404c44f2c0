import RemoteSigning.Proofs.Encoding.DigestInfo

/-!
# Digests with their hash functions are read back

The bytes in which a digest is put together with its hash function are one element (`IsDigestInfo`): each length in them
is that of what follows, and the identifier is that of the hash function. A reader takes the element apart again and is
left with nothing else. Which hash function it was, and which digest, can be told from the bytes even if the digest does
not have the length that the hash function gives it, since what is put in front of it has the same length for all.

- `Der.read?_of_isElement`, `Der.elements?_of_read?`: elements are read one after another;
- `IsDigestInfo.read`: the hash function and the digest are read from the element;
- `digestInfo_unambiguous`: what is read, and that it can be told from the bytes.
-/

namespace RemoteSigning

/-! ## Elements -/

namespace Der

/-- The bytes of an element with short contents: a tag, a length, which is that of the contents, and the contents. -/
def IsElement (tag : UInt8) (content bs : Bytes) : Prop :=
  ∃ length : UInt8, bs = tag :: length :: content ∧ length.toNat = content.length ∧ length < 0x80

variable {tag : UInt8} {content bs : Bytes}

theorem isElement_encode (tag : UInt8) {content : Bytes} (h : content.length < 0x80) :
    IsElement tag content (encode tag content) := by
  have hlength : content.length.toUInt8.toNat = content.length := by
    rw [Nat.toUInt8, UInt8.toNat_ofNat']
    omega
  refine ⟨content.length.toUInt8, ?_, hlength, ?_⟩
  · rw [encode, lengthBytes, if_pos h]
    rfl
  · rw [UInt8.lt_iff_toNat_lt, hlength]
    exact h

theorem IsElement.length (h : IsElement tag content bs) : bs.length = content.length + 2 := by
  obtain ⟨n, rfl, -, -⟩ := h
  rfl

/-- An element is read off the front, if its tag is a short one. -/
theorem read?_of_isElement (ht : tag &&& 0x1F ≠ 0x1F) (h : IsElement tag content bs) (rest : Bytes) :
    read? (bs ++ rest) = some (⟨tag, [], content⟩, rest) := by
  obtain ⟨n, rfl, hn, hshort⟩ := h
  have hlength : length? (n :: (content ++ rest)) = some (content.length, content ++ rest) := by
    rw [length?, if_pos hshort, hn]
  have henough : ¬ (content ++ rest).length < content.length := by
    rw [List.length_append]
    omega
  rw [List.cons_append, List.cons_append, read?, tagTail?, if_neg ht]
  simp only [hlength, if_neg henough, List.take_left, List.drop_left]

/-- An element in front of others is the first of them. -/
theorem elements?_of_read? {e : Element} {rest : Bytes} (h : read? bs = some (e, rest)) :
    elements? bs = (elements? rest).map (e :: ·) := by
  cases bs with
  | nil => cases h
  | cons b bs =>
    rw [elements?]
    split
    next hn => cases hn.symm.trans h
    next hr =>
      cases hr.symm.trans h
      rfl

theorem elements?_of_isElement (ht : tag &&& 0x1F ≠ 0x1F) (h : IsElement tag content bs) (rest : Bytes) :
    elements? (bs ++ rest) = (elements? rest).map (⟨tag, [], content⟩ :: ·) :=
  elements?_of_read? (read?_of_isElement ht h rest)

/-- Two elements are read as the items of what holds them. -/
theorem items?_pair {tag' : UInt8} {content' bs' : Bytes} (ht : tag &&& 0x1F ≠ 0x1F) (ht' : tag' &&& 0x1F ≠ 0x1F)
    (h : IsElement tag content bs) (h' : IsElement tag' content' bs') :
    Element.items? ⟨sequenceTag, [], bs ++ bs'⟩ = some [⟨tag, [], content⟩, ⟨tag', [], content'⟩] := by
  have hlast := elements?_of_isElement ht' h' []
  rw [List.append_nil] at hlast
  have hnone : elements? [] = some [] := by rw [elements?]
  have hpair : elements? (bs ++ bs') = some [⟨tag, [], content⟩, ⟨tag', [], content'⟩] := by
    rw [elements?_of_isElement ht h, hlast, hnone]
    rfl
  exact hpair

/-- An element is all that its bytes consist of. -/
theorem single?_of_isElement (ht : tag &&& 0x1F ≠ 0x1F) (h : IsElement tag content bs) :
    single? bs = some ⟨tag, [], content⟩ := by
  have hread := read?_of_isElement ht h []
  rw [List.append_nil] at hread
  rw [single?, hread]

end Der

/-! ## Reading a digest with its hash function -/

open Der

/-- The bytes are an element that holds an algorithm without parameters and a digest; the algorithm has this
identifier. -/
def IsDigestInfo (oid : Oid) (digest bs : Bytes) : Prop :=
  ∃ identifier null algorithm octets : Bytes,
    IsElement oidTag (Oid.content oid) identifier ∧ IsElement nullTag [] null ∧
    IsElement sequenceTag (identifier ++ null) algorithm ∧ IsElement octetStringTag digest octets ∧
    IsElement sequenceTag (algorithm ++ octets) bs

/-- Reads a hash function and a digest from bytes that consist of nothing else. -/
def readDigestInfo? (bs : Bytes) : Option (HashName × Bytes) := do
  let [algorithm, octets] ← (← single? bs).items? | none
  let [identifier, null] ← algorithm.items? | none
  let oid ← identifier.oid?
  let h ← HashName.all.find? fun h => h.oid = oid
  let digest ← octets.octets?
  if null.isNull then some (h, digest) else none

theorem HashName.find?_oid (h : HashName) : (HashName.all.find? fun g => g.oid = h.oid) = some h := by
  cases h <;> decide

theorem IsDigestInfo.read {h : HashName} {digest bs : Bytes} (hbs : IsDigestInfo h.oid digest bs) :
    readDigestInfo? bs = some (h, digest) := by
  obtain ⟨identifier, null, algorithm, octets, hidentifier, hnull, halgorithm, hoctets, hwhole⟩ := hbs
  have hitems := items?_pair (by decide) (by decide) halgorithm hoctets
  have hitems' := items?_pair (by decide) (by decide) hidentifier hnull
  have hdigest : Element.octets? ⟨octetStringTag, [], digest⟩ = some digest := rfl
  have hempty : Element.isNull ⟨nullTag, [], []⟩ = true := by decide
  simp only [readDigestInfo?, single?_of_isElement (by decide) hwhole, Option.bind_eq_bind, Option.bind_some, hitems,
    hitems', h.oid?_content_oid, h.find?_oid, hdigest, hempty, if_true]

/-- The encoded value of a digest of the right length is such an element. -/
theorem HashName.isDigestInfo_encodedInfo {h : HashName} {digest : Bytes} (hlength : digest.length = h.size) :
    IsDigestInfo h.oid digest (h.encodedInfo digest) := by
  have hsize : h.size ≤ 64 := by cases h <;> decide
  have hoid : (Oid.content h.oid).length = 9 := by
    rw [h.content_oid]
    rfl
  have hidentifier : IsElement oidTag (Oid.content h.oid) (encode oidTag (Oid.content h.oid)) :=
    isElement_encode oidTag (by omega)
  have hnull : IsElement nullTag [] (encode nullTag []) := isElement_encode nullTag (by decide)
  have hitems : (encode oidTag (Oid.content h.oid) ++ encode nullTag []).length = 13 := by
    rw [List.length_append, hidentifier.length, hnull.length, hoid]
    rfl
  have halgorithm := isElement_encode sequenceTag (Nat.lt_of_le_of_lt (Nat.le_of_eq hitems) (by decide))
  have hoctets : IsElement octetStringTag digest (encode octetStringTag digest) :=
    isElement_encode octetStringTag (by omega)
  refine ⟨_, _, _, _, hidentifier, hnull, halgorithm, hoctets, isElement_encode sequenceTag ?_⟩
  rw [List.length_append, halgorithm.length, hoctets.length, hitems]
  omega

/-! ## What is in front of a digest -/

theorem HashName.ofName?_name (h : HashName) : ofName? (Text.ofString h.name) = some h := by
  cases h <;> decide +kernel

/-- A hash function is found by its name. -/
theorem HashName.ofName?_eq_some_iff {name : Text} {h : HashName} :
    ofName? name = some h ↔ name = Text.ofString h.name := by
  constructor
  · intro hf
    have hfound := List.find?_some hf
    exact (of_decide_eq_true hfound).symm
  · rintro rfl
    exact h.ofName?_name

theorem digestInfo_eq_ok_iff {name : Text} {digest bs : Bytes} :
    digestInfo name digest = .ok bs ↔
      ∃ h : HashName, name = Text.ofString h.name ∧ bs = h.digestInfoHead ++ digest := by
  simp only [← HashName.ofName?_eq_some_iff]
  unfold digestInfo
  cases HashName.ofName? name with
  | none => simp
  | some h => simp [HashName.digestInfo, eq_comm]

/-- The bytes in front of a digest tell the hash functions apart. -/
theorem HashName.digestInfoHead_injective {h h' : HashName} (he : h.digestInfoHead = h'.digestInfoHead) : h = h' := by
  have hall : ∀ h ∈ all, ∀ h' ∈ all, h.digestInfoHead = h'.digestInfoHead → h = h' := by decide
  have hmem (h : HashName) : h ∈ all := by cases h <;> decide
  exact hall h (hmem h) h' (hmem h') he

/-- A hash function and a digest can be told from their bytes, however long the digest is. -/
theorem eq_of_digestInfo_eq {name name' : Text} {digest digest' bs : Bytes} (h : digestInfo name digest = .ok bs)
    (h' : digestInfo name' digest' = .ok bs) : name = name' ∧ digest = digest' := by
  obtain ⟨g, rfl, rfl⟩ := digestInfo_eq_ok_iff.mp h
  obtain ⟨g', rfl, he⟩ := digestInfo_eq_ok_iff.mp h'
  have hlength : g.digestInfoHead.length = g'.digestInfoHead.length :=
    g.length_digestInfoHead.trans g'.length_digestInfoHead.symm
  obtain ⟨hhead, hdigest⟩ := List.append_inj he hlength
  rw [HashName.digestInfoHead_injective hhead]
  exact ⟨rfl, hdigest⟩

/-! ## Unambiguous bytes -/

/-- **A digest with its hash function is unambiguous.** If the digest has the length that the hash function gives it,
the bytes are an element that holds the identifier of the function and the digest, and are read as these two. Whatever
the length, no other hash function and no other digest have the same bytes; and there are none exactly for a name that
no hash function has. -/
theorem digestInfo_unambiguous :
    (∀ (h : HashName) (digest : Bytes), digest.length = h.size →
      ∃ bs, digestInfo (Text.ofString h.name) digest = .ok bs ∧ IsDigestInfo h.oid digest bs ∧
        readDigestInfo? bs = some (h, digest)) ∧
    (∀ (name name' : Text) (digest digest' bs : Bytes), digestInfo name digest = .ok bs →
      digestInfo name' digest' = .ok bs → name = name' ∧ digest = digest') ∧
    ∀ (name : Text) (digest : Bytes), digestInfo name digest = .error ⟨name⟩ ↔
      ∀ h : HashName, name ≠ Text.ofString h.name := by
  refine ⟨fun h digest hlength => ?_, fun _ _ _ _ _ => eq_of_digestInfo_eq, fun name digest => ⟨?_, fun hname => ?_⟩⟩
  · have hinfo := HashName.isDigestInfo_encodedInfo hlength
    refine ⟨h.encodedInfo digest, ?_, hinfo, hinfo.read⟩
    rw [digestInfo, h.ofName?_name, ← HashName.digestInfo_eq hlength]
  · rintro he h rfl
    cases he.symm.trans (digestInfo_eq_ok_iff.mpr ⟨h, rfl, rfl⟩)
  · cases hf : HashName.ofName? name with
    | none => rw [digestInfo, hf]
    | some h => exact absurd (HashName.ofName?_eq_some_iff.mp hf) (hname h)

/-- The longest digest is read back, no other name gives its bytes, and there are none for a name that is unknown. -/
theorem digestInfo_unambiguous_sha512 :
    (List.replicate 64 (0x2A : UInt8)).length = HashName.sha512.size ∧
    (∃ bs, digestInfo "SHA-512" (List.replicate 64 0x2A) = .ok bs ∧
      readDigestInfo? bs = some (.sha512, List.replicate 64 0x2A) ∧
      digestInfo "SHA-384" (List.replicate 64 0x2A) ≠ .ok bs) ∧
    digestInfo "SHA-1" (List.replicate 20 0x2A) = .error ⟨"SHA-1"⟩ := by
  obtain ⟨hread, hinjective, hunknown⟩ := digestInfo_unambiguous
  obtain ⟨bs, hbs, -, hr⟩ := hread .sha512 (List.replicate 64 0x2A) (by decide)
  refine ⟨by decide, ⟨bs, hbs, hr, fun h => ?_⟩, (hunknown _ _).mpr fun h => by cases h <;> decide⟩
  exact absurd (hinjective _ _ _ _ _ hbs h).1 (by decide)

end RemoteSigning
