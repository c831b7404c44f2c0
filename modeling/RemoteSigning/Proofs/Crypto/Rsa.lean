import Mathlib.Algebra.Group.Nat.Defs
import Mathlib.Data.List.Induction
import RemoteSigning.Crypto.Rsa

/-!
# What an RSA signature is

A signature over data is a number modulo the key's modulus: the private power of the number that a padded block stands
for. Both are written in as many bytes as the modulus has.

- `Sha2.ofBytes_toBytes`, `Sha2.toBytes_ofBytes`: bytes of a length and numbers below a bound are the same;
- `Rsa.PrivateKey.le_modulus`, `Rsa.PrivateKey.modulus_lt`: the size of a key is the number of bytes of its modulus;
- `Rsa.paddedBlock` is the padded block, `Rsa.PrivateKey.Raw` the operation on it; `Raw.unique`: it has one result;
- `Rsa.PrivateKey.sign?_raw`: the signature over data that the modulus leaves room for; `sign?_eq_some_iff`: there is
  no other.
-/

namespace RemoteSigning

/-! ## Bytes and numbers -/

namespace Sha2

theorem ofBytes_concat (bs : Bytes) (b : UInt8) : ofBytes (bs ++ [b]) = ofBytes bs * 256 + b.toNat := by
  simp [ofBytes, List.foldl_append]

/-- A zero in front does not count. -/
theorem ofBytes_zero_cons (bs : Bytes) : ofBytes (0 :: bs) = ofBytes bs := by
  simp [ofBytes]

theorem ofBytes_lt (bs : Bytes) : ofBytes bs < 256 ^ bs.length := by
  induction bs using List.reverseRecOn with
  | nil => simp [ofBytes]
  | append_singleton bs b ih =>
    have hb := b.toNat_lt
    rw [ofBytes_concat, List.length_append, List.length_singleton, Nat.pow_succ]
    omega

theorem ofBytes_toBytes {width n : Nat} (h : n < 256 ^ width) : ofBytes (toBytes width n) = n := by
  induction width generalizing n with
  | zero =>
    have hn : n = 0 := by simpa using h
    subst hn
    rfl
  | succ width ih =>
    have hq : n / 256 < 256 ^ width := by
      rw [Nat.pow_succ] at h
      exact Nat.div_lt_of_lt_mul (by omega)
    have hr : n.toUInt8.toNat = n % 256 := by simp [Nat.toUInt8]
    rw [toBytes, ofBytes_concat, ih hq, hr]
    omega

theorem toBytes_ofBytes (bs : Bytes) : toBytes bs.length (ofBytes bs) = bs := by
  induction bs using List.reverseRecOn with
  | nil => rfl
  | append_singleton bs b ih =>
    have hb := b.toNat_lt
    have hq : (ofBytes bs * 256 + b.toNat) / 256 = ofBytes bs := by omega
    have hr : (ofBytes bs * 256 + b.toNat).toUInt8 = b := by
      apply UInt8.toNat_inj.mp
      simp only [Nat.toUInt8, UInt8.toNat_ofNat']
      omega
    rw [List.length_append, List.length_singleton, ofBytes_concat, toBytes, hq, ih, hr]

/-- Bytes of one length that stand for the same number are the same. -/
theorem ofBytes_inj {a b : Bytes} (hlength : a.length = b.length) (h : ofBytes a = ofBytes b) : a = b := by
  rw [← toBytes_ofBytes a, ← toBytes_ofBytes b, hlength, h]

end Sha2

/-! ## Keys and blocks -/

namespace Rsa

variable {k : PrivateKey} {data block signature : Bytes}

/-- The modulus fits in the size of the key. -/
theorem PrivateKey.modulus_lt (k : PrivateKey) : k.modulus < 256 ^ k.size := by
  unfold size
  split
  next h => simp [h]
  next h =>
    have hlog : k.modulus < 2 ^ (k.modulus.log2 + 1) := Nat.lt_log2_self
    have hpow : (256 : Nat) ^ (k.modulus.log2 / 8 + 1) = 2 ^ (8 * (k.modulus.log2 / 8 + 1)) := by
      rw [Nat.pow_mul]
    rw [hpow]
    exact Nat.lt_of_lt_of_le hlog (Nat.pow_le_pow_right (by omega) (by omega))

/-- The modulus does not fit in less. -/
theorem PrivateKey.le_modulus (hk : k.size ≠ 0) : 256 ^ (k.size - 1) ≤ k.modulus := by
  unfold size at hk ⊢
  split
  next h => simp [h] at hk
  next h =>
    have hlog : 2 ^ k.modulus.log2 ≤ k.modulus := Nat.log2_self_le h
    have hpow : (256 : Nat) ^ (k.modulus.log2 / 8 + 1 - 1) = 2 ^ (8 * (k.modulus.log2 / 8)) := by
      rw [Nat.pow_mul, Nat.add_sub_cancel]
    rw [hpow]
    exact Nat.le_trans (Nat.pow_le_pow_right (by omega) (by omega)) hlog

/-- Data behind a zero, a one, filling bytes and another zero. -/
def paddedBlock (size : Nat) (data : Bytes) : Bytes :=
  [0x00, 0x01] ++ List.replicate (size - data.length - 3) 0xFF ++ [0x00] ++ data

/-- There have to be eight filling bytes. -/
theorem pad?_eq {size : Nat} (h : data.length + 11 ≤ size) : pad? size data = some (paddedBlock size data) := by
  have hroom : ¬ size < data.length + 11 := by omega
  simp [pad?, hroom, paddedBlock]

theorem length_paddedBlock {size : Nat} (h : data.length + 11 ≤ size) : (paddedBlock size data).length = size :=
  length_pad (pad?_eq h)

/-- A key applied to a block: both stand for numbers below the modulus, and the result is the private power. -/
structure PrivateKey.Raw (k : PrivateKey) (block signature : Bytes) : Prop where
  inRange : Sha2.ofBytes block < k.modulus
  length : signature.length = k.size
  power : Sha2.ofBytes signature = Sha2.ofBytes block ^ k.privateExponent % k.modulus

/-- There is one result. -/
theorem PrivateKey.Raw.unique {signature' : Bytes} (h : k.Raw block signature) (h' : k.Raw block signature') :
    signature = signature' :=
  Sha2.ofBytes_inj (h.length.trans h'.length.symm) (h.power.trans h'.power.symm)

theorem PrivateKey.raw_apply (h : Sha2.ofBytes block < k.modulus) : k.Raw block (k.apply block) := by
  have hpos : 0 < k.modulus := Nat.lt_of_le_of_lt (Nat.zero_le _) h
  have hpower : powMod (Sha2.ofBytes block) k.privateExponent k.modulus < 256 ^ k.size := by
    rw [powMod_eq]
    exact Nat.lt_trans (Nat.mod_lt _ hpos) k.modulus_lt
  refine ⟨h, Sha2.length_toBytes _ _, ?_⟩
  rw [apply, Sha2.ofBytes_toBytes hpower, powMod_eq]
  rfl

/-- A padded block stands for a number below the modulus, because it begins with a zero. -/
theorem PrivateKey.ofBytes_paddedBlock_lt (h : data.length + 11 ≤ k.size) :
    Sha2.ofBytes (paddedBlock k.size data) < k.modulus := by
  obtain ⟨rest, hrest⟩ : ∃ rest, paddedBlock k.size data = 0 :: rest := ⟨_, rfl⟩
  have hlength : rest.length = k.size - 1 := by
    have := length_paddedBlock h
    rw [hrest, List.length_cons] at this
    omega
  have hlt := Sha2.ofBytes_lt rest
  rw [hlength] at hlt
  rw [hrest, Sha2.ofBytes_zero_cons]
  exact Nat.lt_of_lt_of_le hlt (k.le_modulus (by omega))

/-- The signature over data is the key applied to the padded block. -/
theorem PrivateKey.sign?_raw (h : data.length + 11 ≤ k.size) :
    ∃ signature, k.sign? data = some signature ∧ k.Raw (paddedBlock k.size data) signature := by
  refine ⟨k.apply (paddedBlock k.size data), ?_, raw_apply (ofBytes_paddedBlock_lt h)⟩
  simp [sign?, pad?_eq h]

/-- Without that room there is none. -/
theorem PrivateKey.sign?_eq_some_iff :
    k.sign? data = some signature ↔ data.length + 11 ≤ k.size ∧ k.Raw (paddedBlock k.size data) signature := by
  by_cases hroom : data.length + 11 ≤ k.size
  · obtain ⟨made, hmade, hraw⟩ := sign?_raw hroom
    rw [hmade, Option.some.injEq]
    exact ⟨fun h => ⟨hroom, h ▸ hraw⟩, fun h => hraw.unique h.2⟩
  · have hnone : k.sign? data = none := by
      have hsmall : k.size < data.length + 11 := by omega
      simp [sign?, pad?, hsmall]
    rw [hnone]
    exact iff_of_false nofun fun h => hroom h.1

end Rsa

end RemoteSigning
