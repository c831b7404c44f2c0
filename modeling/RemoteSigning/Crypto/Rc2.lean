import RemoteSigning.Crypto.Cbc

/-!
# RC2, as far as key files need it

A block of RC2 has eight bytes, which are four words with their least significant byte first. The key is drawn out to
sixty-four words, of which so many bits count as the key is said to have.

- `Rc2.decrypter` is what a key with so many bits does to a block;
- `table_complete`: every byte is in the table of the key.
-/

namespace RemoteSigning.Rc2

/-- The table that mixes the bytes of a key. -/
def table : Array UInt8 := #[
  0xd9, 0x78, 0xf9, 0xc4, 0x19, 0xdd, 0xb5, 0xed, 0x28, 0xe9, 0xfd, 0x79, 0x4a, 0xa0, 0xd8, 0x9d,
  0xc6, 0x7e, 0x37, 0x83, 0x2b, 0x76, 0x53, 0x8e, 0x62, 0x4c, 0x64, 0x88, 0x44, 0x8b, 0xfb, 0xa2,
  0x17, 0x9a, 0x59, 0xf5, 0x87, 0xb3, 0x4f, 0x13, 0x61, 0x45, 0x6d, 0x8d, 0x09, 0x81, 0x7d, 0x32,
  0xbd, 0x8f, 0x40, 0xeb, 0x86, 0xb7, 0x7b, 0x0b, 0xf0, 0x95, 0x21, 0x22, 0x5c, 0x6b, 0x4e, 0x82,
  0x54, 0xd6, 0x65, 0x93, 0xce, 0x60, 0xb2, 0x1c, 0x73, 0x56, 0xc0, 0x14, 0xa7, 0x8c, 0xf1, 0xdc,
  0x12, 0x75, 0xca, 0x1f, 0x3b, 0xbe, 0xe4, 0xd1, 0x42, 0x3d, 0xd4, 0x30, 0xa3, 0x3c, 0xb6, 0x26,
  0x6f, 0xbf, 0x0e, 0xda, 0x46, 0x69, 0x07, 0x57, 0x27, 0xf2, 0x1d, 0x9b, 0xbc, 0x94, 0x43, 0x03,
  0xf8, 0x11, 0xc7, 0xf6, 0x90, 0xef, 0x3e, 0xe7, 0x06, 0xc3, 0xd5, 0x2f, 0xc8, 0x66, 0x1e, 0xd7,
  0x08, 0xe8, 0xea, 0xde, 0x80, 0x52, 0xee, 0xf7, 0x84, 0xaa, 0x72, 0xac, 0x35, 0x4d, 0x6a, 0x2a,
  0x96, 0x1a, 0xd2, 0x71, 0x5a, 0x15, 0x49, 0x74, 0x4b, 0x9f, 0xd0, 0x5e, 0x04, 0x18, 0xa4, 0xec,
  0xc2, 0xe0, 0x41, 0x6e, 0x0f, 0x51, 0xcb, 0xcc, 0x24, 0x91, 0xaf, 0x50, 0xa1, 0xf4, 0x70, 0x39,
  0x99, 0x7c, 0x3a, 0x85, 0x23, 0xb8, 0xb4, 0x7a, 0xfc, 0x02, 0x36, 0x5b, 0x25, 0x55, 0x97, 0x31,
  0x2d, 0x5d, 0xfa, 0x98, 0xe3, 0x8a, 0x92, 0xae, 0x05, 0xdf, 0x29, 0x10, 0x67, 0x6c, 0xba, 0xc9,
  0xd3, 0x00, 0xe6, 0xcf, 0xe1, 0x9e, 0xa8, 0x2c, 0x63, 0x16, 0x01, 0x3f, 0x58, 0xe2, 0x89, 0xa9,
  0x0d, 0x38, 0x34, 0x1b, 0xab, 0x33, 0xff, 0xb0, 0xbb, 0x48, 0x0c, 0x5f, 0xb9, 0xb1, 0xcd, 0x2e,
  0xc5, 0xf3, 0xdb, 0x47, 0xe5, 0xa5, 0x9c, 0x77, 0x0a, 0xa6, 0x20, 0x68, 0xfe, 0x7f, 0xc1, 0xad]

theorem table_complete : table.toList.foldl (fun seen b => seen ||| 1 <<< b.toNat) 0 = (1 <<< 256) - 1 := by
  decide +kernel

/-- The entry of the table for a byte. -/
def look (b : UInt8) : UInt8 := table.getD b.toNat 0

/-- The key as a hundred and twenty-eight bytes: drawn out behind itself first, and then, from the place where the bits
that count begin, in front. -/
def expand (key : Bytes) (bits : Nat) : Array UInt8 :=
  let size := key.length
  let counted := (bits + 7) / 8
  let drawn := Nat.fold (128 - size) (fun i _ (a : Array UInt8) =>
    a.push (look (a.getD (size + i - 1) 0 + a.getD i 0))) key.toArray
  let mask := (255 % (1 <<< (8 + bits - 8 * counted))).toUInt8
  let first := drawn.setIfInBounds (128 - counted) (look (drawn.getD (128 - counted) 0 &&& mask))
  Nat.fold (128 - counted) (fun i _ a =>
    let place := 127 - counted - i
    a.setIfInBounds place (look (a.getD (place + 1) 0 ^^^ a.getD (place + counted) 0))) first

/-- The words of a key. -/
def words (key : Bytes) (bits : Nat) : Array UInt16 :=
  let bytes := expand key bits
  ((List.range 64).map fun i => (bytes.getD (2 * i) 0).toUInt16 ||| (bytes.getD (2 * i + 1) 0).toUInt16 <<< 8).toArray

/-- The four words of a block. -/
structure Block where
  a : UInt16
  b : UInt16
  c : UInt16
  d : UInt16
  deriving DecidableEq, Repr

/-- Rotation to the right. -/
def rotate (x n : UInt16) : UInt16 := (x >>> n) ||| (x <<< (16 - n))

/-- A word before it was mixed with the three words before it and a word of the key. -/
def unmixWord (n x before second third key : UInt16) : UInt16 :=
  rotate x n - key - (before &&& second) - (~~~ before &&& third)

/-- A block before a round of mixing with four words of the key, from a place on. -/
def unmix (ks : Array UInt16) (place : Nat) (s : Block) : Block :=
  let key (i : Nat) : UInt16 := ks.getD (place + i) 0
  let d := unmixWord 5 s.d s.c s.b s.a (key 3)
  let c := unmixWord 3 s.c s.b s.a d (key 2)
  let b := unmixWord 2 s.b s.a d c (key 1)
  let a := unmixWord 1 s.a d c b (key 0)
  ⟨a, b, c, d⟩

/-- A block before words of the key were added that the block itself chose. -/
def unmash (ks : Array UInt16) (s : Block) : Block :=
  let key (x : UInt16) : UInt16 := ks.getD (x.toNat % 64) 0
  let d := s.d - key s.c
  let c := s.c - key s.b
  let b := s.b - key s.a
  let a := s.a - key d
  ⟨a, b, c, d⟩

/-- A block before all sixteen rounds of mixing, and the two steps after the fifth and the eleventh. -/
def decryptWords (ks : Array UInt16) (s : Block) : Block :=
  (List.range 16).foldl (fun s i =>
    let round := 15 - i
    let s := unmix ks (4 * round) s
    if round = 11 || round = 5 then unmash ks s else s) s

def wordOf (low high : UInt8) : UInt16 := low.toUInt16 ||| high.toUInt16 <<< 8

def bytesOf (x : UInt16) : Bytes := [x.toUInt8, (x >>> 8).toUInt8]

/-- What a key undoes, of which so many bits count. -/
def decrypter (key : Bytes) (bits : Nat) : Bytes → Bytes :=
  let ks := words key bits
  fun
  | [a, b, c, d, e, f, g, h] =>
    let s := decryptWords ks ⟨wordOf a b, wordOf c d, wordOf e f, wordOf g h⟩
    bytesOf s.a ++ bytesOf s.b ++ bytesOf s.c ++ bytesOf s.d
  | block => block

end RemoteSigning.Rc2
