import RemoteSigning.Asn1.Der
import RemoteSigning.Crypto.Modular

/-!
# Elliptic curves

The curves are given by their equation `y² = x³ + a x + b` modulo a prime, a base point and its order. Points are added
in projective coordinates, `(x, y, z)` standing for `(x / z², y / z³)`; the neutral point has `z = 0`.

- `Curve.named?` finds a curve by its identifier;
- `Curve.isPoint` tells the points of a curve from other pairs;
- `Curve.isEncodedPoint` accepts the written forms of points; `Curve.pointId?` is the same for all forms of a point.
-/

namespace RemoteSigning

/-- A curve with a base point. -/
structure Curve where
  oid : Oid
  /-- The bits of the field, which give the size of a key. -/
  bits : Nat
  /-- The prime of the field. -/
  p : Nat
  a : Nat
  b : Nat
  /-- The base point. -/
  gx : Nat
  gy : Nat
  /-- The order of the base point. -/
  order : Nat
  deriving DecidableEq, Repr

/-- A point in projective coordinates. -/
structure Curve.Point where
  x : Nat
  y : Nat
  z : Nat
  deriving DecidableEq, Repr

namespace Curve

/-- The neutral point. -/
def zero : Point := ⟨1, 1, 0⟩

/-- A pair of coordinates lies on the curve. -/
def isPoint (c : Curve) (x y : Nat) : Bool :=
  x < c.p && y < c.p && (y * y) % c.p == (x * x * x + c.a * x + c.b) % c.p

/-- Twice a point. -/
def double (c : Curve) (q : Point) : Point :=
  if q.z = 0 || q.y = 0 then zero
  else
    let p := c.p
    let yy := q.y * q.y % p
    let zz := q.z * q.z % p
    let s := 4 * q.x * yy % p
    let m := (3 * q.x * q.x + c.a * (zz * zz % p)) % p
    let x := subMod (m * m % p) (2 * s % p) p
    let y := subMod (m * subMod s x p % p) (8 * (yy * yy % p) % p) p
    ⟨x, y, 2 * q.y * q.z % p⟩

def add (c : Curve) (q r : Point) : Point :=
  if q.z = 0 then r
  else if r.z = 0 then q
  else
    let p := c.p
    let qq := q.z * q.z % p
    let rr := r.z * r.z % p
    let u₁ := q.x * rr % p
    let u₂ := r.x * qq % p
    let s₁ := q.y * (rr * r.z % p) % p
    let s₂ := r.y * (qq * q.z % p) % p
    if u₁ = u₂ then (if s₁ = s₂ then c.double q else zero)
    else
      let h := subMod u₂ u₁ p
      let d := subMod s₂ s₁ p
      let hh := h * h % p
      let hhh := hh * h % p
      let v := u₁ * hh % p
      let x := subMod (subMod (d * d % p) hhh p) (2 * v % p) p
      let y := subMod (d * subMod v x p % p) (s₁ * hhh % p) p
      ⟨x, y, h * (q.z * r.z % p) % p⟩

/-- The sum of `k` times the same point. -/
def mul (c : Curve) (k : Nat) (q : Point) : Point :=
  if k = 0 then zero
  else
    let twice := c.double (c.mul (k / 2) q)
    if k % 2 = 0 then twice else c.add twice q
termination_by k
decreasing_by omega

/-- The two coordinates of a point that is not neutral. -/
def affine? (c : Curve) (q : Point) : Option (Nat × Nat) :=
  if q.z = 0 then none
  else
    let i := invMod q.z c.p
    let ii := i * i % c.p
    some (q.x * ii % c.p, q.y * (ii * i % c.p) % c.p)

def base (c : Curve) : Point := ⟨c.gx, c.gy, 1⟩

/-- The bytes of a coordinate. -/
def fieldSize (c : Curve) : Nat := (c.bits + 7) / 8

/-- A number has a square root modulo the prime. -/
def isSquare (c : Curve) (n : Nat) : Bool := n % c.p = 0 || powMod n ((c.p - 1) / 2) c.p = 1

/-- Whether bytes are a point, other than the neutral one: both coordinates in full, or the first one and a bit. -/
def isEncodedPoint (c : Curve) (bs : Bytes) : Bool :=
  match bs with
  | [] => false
  | form :: rest =>
    let x := Sha2.ofBytes (rest.take c.fieldSize)
    if form = 4 then rest.length = 2 * c.fieldSize && c.isPoint x (Sha2.ofBytes (rest.drop c.fieldSize))
    else if form = 6 || form = 7 then
      let y := Sha2.ofBytes (rest.drop c.fieldSize)
      rest.length = 2 * c.fieldSize && c.isPoint x y && y % 2 = form.toNat % 2
    else if form = 2 || form = 3 then
      rest.length = c.fieldSize && x < c.p && c.isSquare (x * x * x + c.a * x + c.b)
    else false

/-- What tells a written point from all others: the first coordinate, and whether the second one is odd. -/
def pointId? (c : Curve) (bs : Bytes) : Option (Nat × Nat) :=
  match bs with
  | [] => none
  | form :: rest =>
    if ! c.isEncodedPoint bs then none
    else
      let bit := if form = 4 then Sha2.ofBytes (rest.drop c.fieldSize) % 2 else form.toNat % 2
      some (Sha2.ofBytes (rest.take c.fieldSize), bit)

/-- A point with both coordinates in full. -/
def writePoint? (c : Curve) (q : Point) : Option Bytes :=
  (c.affine? q).map fun (x, y) => 4 :: Sha2.toBytes c.fieldSize x ++ Sha2.toBytes c.fieldSize y

/-! ## Named curves -/

def secp192r1 : Curve where
  oid := [1, 2, 840, 10045, 3, 1, 1]
  bits := 192
  p := 0xFFFFFFFFFFFFFFFFFFFFFFFFFFFFFFFEFFFFFFFFFFFFFFFF
  a := 0xFFFFFFFFFFFFFFFFFFFFFFFFFFFFFFFEFFFFFFFFFFFFFFFC
  b := 0x64210519E59C80E70FA7E9AB72243049FEB8DEECC146B9B1
  gx := 0x188DA80EB03090F67CBF20EB43A18800F4FF0AFD82FF1012
  gy := 0x7192B95FFC8DA78631011ED6B24CDD573F977A11E794811
  order := 0xFFFFFFFFFFFFFFFFFFFFFFFF99DEF836146BC9B1B4D22831

def secp224r1 : Curve where
  oid := [1, 3, 132, 0, 33]
  bits := 224
  p := 0xFFFFFFFFFFFFFFFFFFFFFFFFFFFFFFFF000000000000000000000001
  a := 0xFFFFFFFFFFFFFFFFFFFFFFFFFFFFFFFEFFFFFFFFFFFFFFFFFFFFFFFE
  b := 0xB4050A850C04B3ABF54132565044B0B7D7BFD8BA270B39432355FFB4
  gx := 0xB70E0CBD6BB4BF7F321390B94A03C1D356C21122343280D6115C1D21
  gy := 0xBD376388B5F723FB4C22DFE6CD4375A05A07476444D5819985007E34
  order := 0xFFFFFFFFFFFFFFFFFFFFFFFFFFFF16A2E0B8F03E13DD29455C5C2A3D

def secp256r1 : Curve where
  oid := [1, 2, 840, 10045, 3, 1, 7]
  bits := 256
  p := 0xFFFFFFFF00000001000000000000000000000000FFFFFFFFFFFFFFFFFFFFFFFF
  a := 0xFFFFFFFF00000001000000000000000000000000FFFFFFFFFFFFFFFFFFFFFFFC
  b := 0x5AC635D8AA3A93E7B3EBBD55769886BC651D06B0CC53B0F63BCE3C3E27D2604B
  gx := 0x6B17D1F2E12C4247F8BCE6E563A440F277037D812DEB33A0F4A13945D898C296
  gy := 0x4FE342E2FE1A7F9B8EE7EB4A7C0F9E162BCE33576B315ECECBB6406837BF51F5
  order := 0xFFFFFFFF00000000FFFFFFFFFFFFFFFFBCE6FAADA7179E84F3B9CAC2FC632551

def secp384r1 : Curve where
  oid := [1, 3, 132, 0, 34]
  bits := 384
  p := 0xFFFFFFFFFFFFFFFFFFFFFFFFFFFFFFFFFFFFFFFFFFFFFFFFFFFFFFFFFFFFFFFEFFFFFFFF0000000000000000FFFFFFFF
  a := 0xFFFFFFFFFFFFFFFFFFFFFFFFFFFFFFFFFFFFFFFFFFFFFFFFFFFFFFFFFFFFFFFEFFFFFFFF0000000000000000FFFFFFFC
  b := 0xB3312FA7E23EE7E4988E056BE3F82D19181D9C6EFE8141120314088F5013875AC656398D8A2ED19D2A85C8EDD3EC2AEF
  gx := 0xAA87CA22BE8B05378EB1C71EF320AD746E1D3B628BA79B9859F741E082542A385502F25DBF55296C3A545E3872760AB7
  gy := 0x3617DE4A96262C6F5D9E98BF9292DC29F8F41DBD289A147CE9DA3113B5F0B8C00A60B1CE1D7E819D7A431D7C90EA0E5F
  order := 0xFFFFFFFFFFFFFFFFFFFFFFFFFFFFFFFFFFFFFFFFFFFFFFFFC7634D81F4372DDF581A0DB248B0A77AECEC196ACCC52973

def secp521r1 : Curve where
  oid := [1, 3, 132, 0, 35]
  bits := 521
  p := 0x1FFFFFFFFFFFFFFFFFFFFFFFFFFFFFFFFFFFFFFFFFFFFFFFFFFFFFFFFFFFFFFFFFFFFFFFFFFFFFFFFFFFFFFFFFFFFFFFFFFFFFFFFFFFFFFFFFFFFFFFFFFFFFFFFFF
  a := 0x1FFFFFFFFFFFFFFFFFFFFFFFFFFFFFFFFFFFFFFFFFFFFFFFFFFFFFFFFFFFFFFFFFFFFFFFFFFFFFFFFFFFFFFFFFFFFFFFFFFFFFFFFFFFFFFFFFFFFFFFFFFFFFFFFFC
  b := 0x51953EB9618E1C9A1F929A21A0B68540EEA2DA725B99B315F3B8B489918EF109E156193951EC7E937B1652C0BD3BB1BF073573DF883D2C34F1EF451FD46B503F00
  gx := 0xC6858E06B70404E9CD9E3ECB662395B4429C648139053FB521F828AF606B4D3DBAA14B5E77EFE75928FE1DC127A2FFA8DE3348B3C1856A429BF97E7E31C2E5BD66
  gy := 0x11839296A789A3BC0045C8A5FB42C7D1BD998F54449579B446817AFBD17273E662C97EE72995EF42640C550B9013FAD0761353C7086A272C24088BE94769FD16650
  order := 0x1FFFFFFFFFFFFFFFFFFFFFFFFFFFFFFFFFFFFFFFFFFFFFFFFFFFFFFFFFFFFFFFFFA51868783BF2F966B7FCC0148F709A5D03BB5C9B8899C47AEBB6FB71E91386409

def secp256k1 : Curve where
  oid := [1, 3, 132, 0, 10]
  bits := 256
  p := 0xFFFFFFFFFFFFFFFFFFFFFFFFFFFFFFFFFFFFFFFFFFFFFFFFFFFFFFFEFFFFFC2F
  a := 0x0
  b := 0x7
  gx := 0x79BE667EF9DCBBAC55A06295CE870B07029BFCDB2DCE28D959F2815B16F81798
  gy := 0x483ADA7726A3C4655DA4FBFC0E1108A8FD17B448A68554199C47D08FFB10D4B8
  order := 0xFFFFFFFFFFFFFFFFFFFFFFFFFFFFFFFEBAAEDCE6AF48A03BBFD25E8CD0364141

def brainpoolP256r1 : Curve where
  oid := [1, 3, 36, 3, 3, 2, 8, 1, 1, 7]
  bits := 256
  p := 0xA9FB57DBA1EEA9BC3E660A909D838D726E3BF623D52620282013481D1F6E5377
  a := 0x7D5A0975FC2C3057EEF67530417AFFE7FB8055C126DC5C6CE94A4B44F330B5D9
  b := 0x26DC5C6CE94A4B44F330B5D9BBD77CBF958416295CF7E1CE6BCCDC18FF8C07B6
  gx := 0x8BD2AEB9CB7E57CB2C4B482FFC81B7AFB9DE27E1E3BD23C23A4453BD9ACE3262
  gy := 0x547EF835C3DAC4FD97F8461A14611DC9C27745132DED8E545C1D54C72F046997
  order := 0xA9FB57DBA1EEA9BC3E660A909D838D718C397AA3B561A6F7901E0E82974856A7

def brainpoolP384r1 : Curve where
  oid := [1, 3, 36, 3, 3, 2, 8, 1, 1, 11]
  bits := 384
  p := 0x8CB91E82A3386D280F5D6F7E50E641DF152F7109ED5456B412B1DA197FB71123ACD3A729901D1A71874700133107EC53
  a := 0x7BC382C63D8C150C3C72080ACE05AFA0C2BEA28E4FB22787139165EFBA91F90F8AA5814A503AD4EB04A8C7DD22CE2826
  b := 0x4A8C7DD22CE28268B39B55416F0447C2FB77DE107DCD2A62E880EA53EEB62D57CB4390295DBC9943AB78696FA504C11
  gx := 0x1D1C64F068CF45FFA2A63A81B7C13F6B8847A3E77EF14FE3DB7FCAFE0CBD10E8E826E03436D646AAEF87B2E247D4AF1E
  gy := 0x8ABE1D7520F9C2A45CB1EB8E95CFD55262B70B29FEEC5864E19C054FF99129280E4646217791811142820341263C5315
  order := 0x8CB91E82A3386D280F5D6F7E50E641DF152F7109ED5456B31F166E6CAC0425A7CF3AB6AF6B7FC3103B883202E9046565

def brainpoolP512r1 : Curve where
  oid := [1, 3, 36, 3, 3, 2, 8, 1, 1, 13]
  bits := 512
  p := 0xAADD9DB8DBE9C48B3FD4E6AE33C9FC07CB308DB3B3C9D20ED6639CCA703308717D4D9B009BC66842AECDA12AE6A380E62881FF2F2D82C68528AA6056583A48F3
  a := 0x7830A3318B603B89E2327145AC234CC594CBDD8D3DF91610A83441CAEA9863BC2DED5D5AA8253AA10A2EF1C98B9AC8B57F1117A72BF2C7B9E7C1AC4D77FC94CA
  b := 0x3DF91610A83441CAEA9863BC2DED5D5AA8253AA10A2EF1C98B9AC8B57F1117A72BF2C7B9E7C1AC4D77FC94CADC083E67984050B75EBAE5DD2809BD638016F723
  gx := 0x81AEE4BDD82ED9645A21322E9C4C6A9385ED9F70B5D916C1B43B62EEF4D0098EFF3B1F78E2D0D48D50D1687B93B97D5F7C6D5047406A5E688B352209BCB9F822
  gy := 0x7DDE385D566332ECC0EABFA9CF7822FDF209F70024A57B1AA000C55B881F8111B2DCDE494A5F485E5BCA4BD88A2763AED1CA2B2FA8F0540678CD1E0F3AD80892
  order := 0xAADD9DB8DBE9C48B3FD4E6AE33C9FC07CB308DB3B3C9D20ED6639CCA70330870553E5C414CA92619418661197FAC10471DB1D381085DDADDB58796829CA90069

def all : List Curve :=
  [secp192r1, secp224r1, secp256r1, secp384r1, secp521r1, secp256k1, brainpoolP256r1, brainpoolP384r1,
   brainpoolP512r1]

def named? (oid : Oid) : Option Curve := all.find? (·.oid = oid)

/-- The base points lie on their curves. -/
example : all.all (fun c => c.isPoint c.gx c.gy) = true := by decide +kernel

end Curve

end RemoteSigning
