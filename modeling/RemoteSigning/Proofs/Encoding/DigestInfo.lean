import RemoteSigning.Algorithm
import RemoteSigning.X509.AlgorithmIdentifier

/-!
# Digests with their hash functions, as encoded values

A digest is signed with RSA together with the identifier of its hash function. The encoding has the form of an element
whose items are an algorithm without parameters and the digest.

- `Oid.content` is the encoding of an identifier; `oid?_content`: it is read as that identifier;
- `HashName.digestInfo_eq`: a digest with the fixed bytes in front of it is the encoded value.
-/

namespace RemoteSigning

open Der

/-! ## Identifiers -/

/-- The digits of a number in base 128, each marked as not being the last. -/
def arcHead (n : Nat) : Bytes :=
  if n = 0 then [] else arcHead (n / 128) ++ [(0x80 + n % 128).toUInt8]
termination_by n
decreasing_by omega

/-- A number in base 128, with the last digit marked. -/
def arcBytes (n : Nat) : Bytes := arcHead (n / 128) ++ [(n % 128).toUInt8]

/-- The contents of an encoded identifier: the first number holds two arcs. -/
def Oid.content : Oid → Bytes
  | a :: b :: rest => arcBytes (40 * a + b) ++ rest.flatMap arcBytes
  | _ => []

theorem arcHead_zero : arcHead 0 = [] := by
  rw [arcHead]
  simp

theorem arcHead_of_pos {n : Nat} (h : n ≠ 0) : arcHead n = arcHead (n / 128) ++ [(0x80 + n % 128).toUInt8] := by
  rw [arcHead, if_neg h]

/-- A digit with the mark is the last one. -/
theorem arcs?_last (acc? : Option Nat) {b : UInt8} (hb : b.toNat < 128) (rest : Bytes) :
    Element.arcs? acc? (b :: rest) = (Element.arcs? none rest).map ((acc?.getD 0 * 128 + b.toNat) :: ·) := by
  have hlow : b < 0x80 := by
    rw [UInt8.lt_iff_toNat_lt]
    exact hb
  have hfirst : b ≠ 0x80 := by
    rintro rfl
    exact absurd hb (by decide)
  have hvalue : b.toNat % 128 = b.toNat := Nat.mod_eq_of_lt hb
  rw [Element.arcs?]
  simp only [hfirst, decide_false, Bool.and_false, Bool.false_eq_true, if_false, hlow, if_true, hvalue]

/-- A digit without it is not, and no number begins with a zero. -/
theorem arcs?_more {acc? : Option Nat} {b : UInt8} (hb : 128 ≤ b.toNat) (hfirst : acc? = none → b ≠ 0x80)
    (rest : Bytes) :
    Element.arcs? acc? (b :: rest) = Element.arcs? (some (acc?.getD 0 * 128 + b.toNat % 128)) rest := by
  have hlow : ¬ b < 0x80 := by
    rw [UInt8.lt_iff_toNat_lt]
    exact Nat.not_lt.mpr hb
  have hzero : ¬ (decide (acc? = none) && decide (b = 0x80)) = true := by
    intro h
    simp only [Bool.and_eq_true, decide_eq_true_eq] at h
    exact hfirst h.1 h.2
  rw [Element.arcs?, if_neg hzero]
  simp only [hlow, if_false]

/-- Digits that are not the last add up. -/
theorem arcs?_arcHead (n : Nat) (h : n ≠ 0) (rest : Bytes) :
    Element.arcs? none (arcHead n ++ rest) = Element.arcs? (some n) rest := by
  induction n using Nat.strongRecOn generalizing rest with
  | ind n ih =>
    have hbyte : (0x80 + n % 128).toUInt8.toNat = 0x80 + n % 128 := by
      simp only [Nat.toUInt8, UInt8.toNat_ofNat']
      omega
    rw [arcHead_of_pos h, List.append_assoc, List.singleton_append]
    by_cases hn : n / 128 = 0
    · have hfirst : (0x80 + n % 128).toUInt8 ≠ 0x80 := by
        intro he
        have hzero : 0x80 + n % 128 = 0x80 := hbyte.symm.trans (congrArg UInt8.toNat he)
        omega
      have hvalue : (none : Option Nat).getD 0 * 128 + (0x80 + n % 128).toUInt8.toNat % 128 = n := by
        rw [hbyte, Option.getD_none]
        omega
      rw [hn, arcHead_zero, List.nil_append, arcs?_more (by omega) (fun _ => hfirst), hvalue]
    · have hvalue : (some (n / 128)).getD 0 * 128 + (0x80 + n % 128).toUInt8.toNat % 128 = n := by
        rw [hbyte, Option.getD_some]
        omega
      rw [ih (n / 128) (by omega) hn, arcs?_more (by omega) (by simp), hvalue]

/-- The number in front is read first. -/
theorem arcs?_arcBytes (n : Nat) (rest : Bytes) :
    Element.arcs? none (arcBytes n ++ rest) = (Element.arcs? none rest).map (n :: ·) := by
  have hbyte : (n % 128).toUInt8.toNat = n % 128 := by
    simp only [Nat.toUInt8, UInt8.toNat_ofNat']
    omega
  rw [arcBytes, List.append_assoc, List.singleton_append]
  by_cases hn : n / 128 = 0
  · have hvalue : (none : Option Nat).getD 0 * 128 + (n % 128).toUInt8.toNat = n := by
      rw [hbyte, Option.getD_none]
      omega
    rw [hn, arcHead_zero, List.nil_append, arcs?_last _ (by omega), hvalue]
  · have hvalue : (some (n / 128)).getD 0 * 128 + (n % 128).toUInt8.toNat = n := by
      rw [hbyte, Option.getD_some]
      omega
    rw [arcs?_arcHead _ hn, arcs?_last _ (by omega), hvalue]

/-- Numbers are read one after another. -/
theorem arcs?_flatMap (ns : List Nat) : Element.arcs? none (ns.flatMap arcBytes) = some ns := by
  induction ns with
  | nil => rfl
  | cons n ns ih => rw [List.flatMap_cons, arcs?_arcBytes, ih, Option.map_some]

/-- An encoded identifier is read as this identifier, if it is not too long. -/
theorem oid?_content {a b : Nat} {rest : List Nat} (ha : a < 2 ∧ b < 40 ∨ a = 2)
    (hlength : (Oid.content (a :: b :: rest)).length ≤ 63) (hbits : ∀ n ∈ (40 * a + b) :: rest, n < 1 <<< 128) :
    Element.oid? ⟨oidTag, [], Oid.content (a :: b :: rest)⟩ = some (a :: b :: rest) := by
  have harcs : Element.arcs? none (Oid.content (a :: b :: rest)) = some ((40 * a + b) :: rest) := by
    rw [Oid.content, arcs?_arcBytes, arcs?_flatMap, Option.map_some]
  have hany : ((40 * a + b) :: rest).any (fun n => decide (n ≥ 1 <<< 128)) = false := by
    rw [List.any_eq_false]
    intro n hn
    simpa using hbits n hn
  have hfirst : min ((40 * a + b) / 40) 2 = a := by omega
  have hsecond : 40 * a + b - 40 * a = b := by omega
  have hexpect : Element.expect? ⟨oidTag, [], Oid.content (a :: b :: rest)⟩ oidTag =
      some (Oid.content (a :: b :: rest)) := by simp [Element.expect?]
  have hshort : ¬ (Oid.content (a :: b :: rest)).length > 63 := by omega
  unfold Element.oid?
  simp only [hexpect, Option.bind_eq_bind, Option.bind_some, hshort, if_false, harcs, hany, hfirst, hsecond]
  rfl

/-! ## Digests -/

/-- The identifier of a hash function. -/
def HashName.oid : HashName → Oid
  | .sha224 => AlgorithmId.sha224
  | .sha256 => AlgorithmId.sha256
  | .sha384 => AlgorithmId.sha384
  | .sha512 => AlgorithmId.sha512

/-- A digest with its hash function, as an encoded value: the algorithm, which is an identifier without parameters, and
the digest. -/
def HashName.encodedInfo (h : HashName) (digest : Bytes) : Bytes :=
  encode sequenceTag
    (encode sequenceTag (encode oidTag (Oid.content h.oid) ++ encode nullTag []) ++ encode octetStringTag digest)

def HashName.lastArc : HashName → UInt8
  | .sha224 => 4
  | .sha256 => 1
  | .sha384 => 2
  | .sha512 => 3

/-- The encoded identifiers differ in their last bytes. -/
theorem HashName.content_oid (h : HashName) :
    Oid.content h.oid = [0x60, 0x86, 0x48, 0x01, 0x65, 0x03, 0x04, 0x02, h.lastArc] := by
  cases h <;>
    simp [oid, lastArc, AlgorithmId.sha224, AlgorithmId.sha256, AlgorithmId.sha384, AlgorithmId.sha512, Oid.content,
      arcBytes, arcHead]

/-- The identifier of a hash function is read from its encoding. -/
theorem HashName.oid?_content_oid (h : HashName) : Element.oid? ⟨oidTag, [], Oid.content h.oid⟩ = some h.oid := by
  have hlength : (Oid.content h.oid).length ≤ 63 := by
    rw [h.content_oid]
    simp
  cases h with
  | sha224 => exact oid?_content (.inr rfl) hlength (by decide)
  | sha256 => exact oid?_content (.inr rfl) hlength (by decide)
  | sha384 => exact oid?_content (.inr rfl) hlength (by decide)
  | sha512 => exact oid?_content (.inr rfl) hlength (by decide)

/-- The bytes in front of a digest are those of the encoded value. -/
theorem HashName.digestInfo_eq {h : HashName} {digest : Bytes} (hlength : digest.length = h.size) :
    h.digestInfo digest = h.encodedInfo digest := by
  have hdigest : encode octetStringTag digest = 0x04 :: h.size.toUInt8 :: digest := by
    cases h <;> simp [encode, lengthBytes, hlength, size, bits, octetStringTag]
  have halgorithm : encode sequenceTag (encode oidTag (Oid.content h.oid) ++ encode nullTag []) =
      [0x30, 0x0D, 0x06, 0x09, 0x60, 0x86, 0x48, 0x01, 0x65, 0x03, 0x04, 0x02, h.lastArc, 0x05, 0x00] := by
    simp [h.content_oid, encode, lengthBytes, sequenceTag, oidTag, nullTag]
  rw [encodedInfo, halgorithm, hdigest]
  cases h <;> simp [digestInfo, digestInfoHead, lastArc, encode, lengthBytes, hlength, size, bits, sequenceTag]

end RemoteSigning
