import RemoteSigning.Crypto.Curve
import RemoteSigning.Crypto.Hmac

/-!
# Signatures with elliptic curves

A signature is a pair of numbers below the order of the base point. The secret number of each signature is drawn from
the key and the digest, so that a signature is a function of the two.

- `Ecdsa.sign` signs a digest, `Ecdsa.verify` checks a pair;
- `Ecdsa.rawBytes` writes a pair as two halves of equal size; `length_rawBytes` is their total.
-/

namespace RemoteSigning.Ecdsa

/-- A private key: a curve and a number below its order. -/
structure PrivateKey where
  curve : Curve
  secret : Nat
  deriving DecidableEq, Repr

/-- The number that stands for a digest: its leading bits, as many as the order has. -/
def digestNumber (order : Nat) (digest : Bytes) : Nat :=
  Sha2.ofBytes digest >>> (8 * digest.length - (order.log2 + 1))

/-- The bytes of a number below the order. -/
def orderSize (order : Nat) : Nat := order.log2 / 8 + 1

/-- Keyed digests one after another, up to a size; `fuel` bounds their number. -/
def draw (h : HashName) (key : Bytes) : Nat → Bytes → Bytes → Bytes × Bytes
  | 0, v, acc => (acc, v)
  | fuel + 1, v, acc =>
    let v := Hmac.digest (.sha2 h) key v
    draw h key fuel v (acc ++ v)

/-- A signature with the secret number `k`. -/
def withNonce (key : PrivateKey) (z k : Nat) : Nat × Nat :=
  let c := key.curve
  let r := ((c.affine? (c.mul k c.base)).getD (0, 0)).1 % c.order
  (r, invMod k c.order * (z + r * key.secret) % c.order)

/-- Draws secret numbers until one gives a signature with two numbers other than zero; `fuel` bounds the attempts. -/
def attempts (h : HashName) (key : PrivateKey) (z : Nat) : Nat → Bytes → Bytes → Nat × Nat
  | 0, _, _ => (0, 0)
  | fuel + 1, hmacKey, v =>
    let order := key.curve.order
    let size := orderSize order
    let (bytes, v) := draw h hmacKey ((size + h.size - 1) / h.size) v []
    let k := digestNumber order (bytes.take size)
    let (r, s) := if 0 < k ∧ k < order then withNonce key z k else (0, 0)
    if r ≠ 0 ∧ s ≠ 0 then (r, s)
    else
      let hmacKey := Hmac.digest (.sha2 h) hmacKey (v ++ [0])
      attempts h key z fuel hmacKey (Hmac.digest (.sha2 h) hmacKey v)

/-- The signature over a digest; `h` is only used to draw the secret number. -/
def sign (h : HashName) (key : PrivateKey) (digest : Bytes) : Nat × Nat :=
  let order := key.curve.order
  let z := digestNumber order digest
  let seed := Sha2.toBytes (orderSize order) key.secret ++ Sha2.toBytes (orderSize order) (z % order)
  let v := List.replicate h.size 0x01
  let k := Hmac.digest (.sha2 h) (List.replicate h.size 0x00) (v ++ [0x00] ++ seed)
  let v := Hmac.digest (.sha2 h) k v
  let k := Hmac.digest (.sha2 h) k (v ++ [0x01] ++ seed)
  attempts h key z 64 k (Hmac.digest (.sha2 h) k v)

/-- A pair is a signature over a digest under a public key. -/
def verify (c : Curve) (key : Curve.Point) (digest : Bytes) (r s : Nat) : Bool :=
  if 0 < r ∧ r < c.order ∧ 0 < s ∧ s < c.order then
    let w := invMod s c.order
    let z := digestNumber c.order digest
    let sum := c.add (c.mul (z * w % c.order) c.base) (c.mul (r * w % c.order) key)
    match c.affine? sum with
    | some (x, _) => x % c.order = r
    | none => false
  else false

/-- A pair as two numbers of equal size, one behind the other. -/
def rawBytes (size r s : Nat) : Bytes := Sha2.toBytes size r ++ Sha2.toBytes size s

theorem length_rawBytes (size r s : Nat) : (rawBytes size r s).length = 2 * size := by
  simp [rawBytes, Sha2.length_toBytes]; omega

end RemoteSigning.Ecdsa
