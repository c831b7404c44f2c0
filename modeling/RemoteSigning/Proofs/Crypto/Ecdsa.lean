import Mathlib.Algebra.Order.Floor.Div
import RemoteSigning.Proofs.Crypto.Rsa
import RemoteSigning.Token.Software

/-!
# Pairs of numbers as bytes

A signature with an elliptic curve is a pair of numbers below the order of the curve. It is written as two halves of
equal size, which is the size of the key in whole bytes. Numbers below the order fit in there, however small they are or
however many of the bytes are zeros, and come back when the halves are read.

- `Sha2.toBytes?` writes a number only if it fits; `toBytes?_eq_some_iff`: the bytes are those that stand for it;
- `Ecdsa.Below`: a pair below the order; `Ecdsa.sign_below`: the pairs that are made here are such pairs;
- `Ecdsa.exists_rawBytes_eq`, `Ecdsa.rawPair_rawBytes`: a pair is written in full and comes back.
-/

namespace RemoteSigning

/-- A number in a fixed number of bytes, if it fits. -/
def Sha2.toBytes? (width n : Nat) : Option Bytes := if n < 256 ^ width then some (toBytes width n) else none

/-- The bytes of a number that fits are those of this length that stand for it. -/
theorem Sha2.toBytes?_eq_some_iff {width n : Nat} {bs : Bytes} :
    toBytes? width n = some bs ↔ bs.length = width ∧ ofBytes bs = n := by
  constructor
  · intro h
    unfold toBytes? at h
    split at h
    next hfits =>
      rw [← Option.some.inj h]
      exact ⟨length_toBytes width n, ofBytes_toBytes hfits⟩
    next => cases h
  · rintro ⟨rfl, rfl⟩
    rw [toBytes?, if_pos (ofBytes_lt bs), toBytes_ofBytes]

theorem Sha2.toBytes?_of_lt {width n : Nat} (h : n < 256 ^ width) : toBytes? width n = some (toBytes width n) :=
  if_pos h

/-- Half a signature is as long as the key in whole bytes. -/
theorem Curve.halfSize_eq (c : Curve) : c.halfSize = c.bits ⌈/⌉ 8 := (Nat.ceilDiv_eq_add_pred_div c.bits 8).symm

/-- The orders of the named curves fit in half a signature. -/
theorem Curve.order_lt_of_mem_all {c : Curve} (h : c ∈ all) : c.order < 256 ^ (c.bits ⌈/⌉ 8) := by
  have hall : all.all (fun c => decide (c.order < 256 ^ c.halfSize)) = true := by decide +kernel
  rw [← c.halfSize_eq]
  exact of_decide_eq_true (List.all_eq_true.mp hall c h)

namespace Ecdsa

/-- Both numbers of a pair are below the order. -/
structure Below (c : Curve) (pair : Nat × Nat) : Prop where
  first : pair.1 < c.order
  second : pair.2 < c.order

variable {key : PrivateKey}

theorem withNonce_below (horder : 0 < key.curve.order) (z k : Nat) : Below key.curve (withNonce key z k) :=
  ⟨Nat.mod_lt _ horder, Nat.mod_lt _ horder⟩

/-- An attempt gives a pair below the order, and so does giving up. -/
theorem attempts_below (horder : 0 < key.curve.order) (h : HashName) (z fuel : Nat) (hmacKey v : Bytes) :
    Below key.curve (attempts h key z fuel hmacKey v) := by
  induction fuel generalizing hmacKey v with
  | zero => exact ⟨horder, horder⟩
  | succ fuel ih =>
    unfold attempts
    dsimp only
    -- The number that is drawn has to be in range, and then neither number of its pair may be zero.
    split
    · split
      · exact withNonce_below horder z _
      · exact ih _ _
    · exact ih _ _

/-- The pairs that are made here are below the order. -/
theorem sign_below (key : PrivateKey) (horder : 0 < key.curve.order) (h : HashName) (digest : Bytes) :
    Below key.curve (sign h key digest) := attempts_below horder h _ _ _ _

section Raw

variable {size r s : Nat}

/-- A pair is written as two halves, in each of which a number stands in full. -/
theorem exists_rawBytes_eq (hr : r < 256 ^ size) (hs : s < 256 ^ size) :
    ∃ first second, rawBytes size r s = first ++ second ∧ Sha2.toBytes? size r = some first ∧
      Sha2.toBytes? size s = some second :=
  ⟨_, _, rfl, Sha2.toBytes?_of_lt hr, Sha2.toBytes?_of_lt hs⟩

/-- A pair that fits comes back. -/
theorem rawPair_rawBytes (hr : r < 256 ^ size) (hs : s < 256 ^ size) : rawPair size (rawBytes size r s) = (r, s) := by
  obtain ⟨first, second, hraw, hfirst, hsecond⟩ := exists_rawBytes_eq hr hs
  obtain ⟨hlength, hr'⟩ := Sha2.toBytes?_eq_some_iff.mp hfirst
  obtain ⟨-, hs'⟩ := Sha2.toBytes?_eq_some_iff.mp hsecond
  rw [hraw, rawPair, List.take_left' hlength, List.drop_left' hlength, hr', hs']

end Raw

end Ecdsa

end RemoteSigning
