import RemoteSigning.Crypto.Cbc

/-!
# AES, as far as key files need it

Key files are only ever read, so that there is decryption only. A block has sixteen bytes.

- `Aes.decrypter` is what a key does to a block.
-/

namespace RemoteSigning.Aes

/-- The product with `x` in the field of 256 elements. -/
def timesX (b : Nat) : Nat := if b < 128 then 2 * b else (2 * b) ^^^ 0x11B

/-- The product of two elements of the field; `fuel` bounds the bits of the first. -/
def times : Nat → Nat → Nat → Nat
  | 0, _, _ => 0
  | fuel + 1, a, b => (if a % 2 = 1 then b else 0) ^^^ times fuel (a / 2) (timesX b)

/-- The inverse of an element of the field, its power of 254. -/
def inverse (b : Nat) : Nat := Nat.fold 253 (fun _ _ acc => times 8 acc b) b

/-- The substitution of a byte: the inverse, mixed with its own rotations. -/
def substitute (b : Nat) : Nat :=
  let i := inverse b
  let rotate (n : Nat) : Nat := (i <<< n) % 256 ||| i >>> (8 - n)
  i ^^^ rotate 1 ^^^ rotate 2 ^^^ rotate 3 ^^^ rotate 4 ^^^ 0x63

def substitution : Array UInt8 := ((List.range 256).map fun b => (substitute b).toUInt8).toArray

/-- The bytes that are substituted by all bytes. -/
def unsubstitution : Array UInt8 :=
  (List.range 256).foldl (fun t b => t.set! (substitution.getD b 0).toNat b.toUInt8) (Array.replicate 256 0)

/-- The products of a factor with all bytes. -/
def multiples (factor : Nat) : Array UInt8 := ((List.range 256).map fun b => (times 8 factor b).toUInt8).toArray

def multiples9 : Array UInt8 := multiples 9
def multiples11 : Array UInt8 := multiples 11
def multiples13 : Array UInt8 := multiples 13
def multiples14 : Array UInt8 := multiples 14

/-- The entry of a table for a byte. -/
def look (table : Array UInt8) (b : UInt8) : UInt8 := table.getD b.toNat 0

/-- The words of the key schedule, last first; `round` counts the keys drawn, `fuel` the words that are missing. -/
def expandFrom (keyWords : Nat) (factor : Nat) : Nat → Array Bytes → Array Bytes
  | 0, ws => ws
  | fuel + 1, ws =>
    let i := ws.size
    let previous := ws.getD (i - 1) []
    let first := i % keyWords = 0
    let mixed : Bytes :=
      if first then
        match (previous.drop 1 ++ previous.take 1).map (look substitution) with
        | b :: rest => (b ^^^ factor.toUInt8) :: rest
        | [] => []
      else if keyWords > 6 ∧ i % keyWords = 4 then previous.map (look substitution)
      else previous
    expandFrom keyWords (if first then timesX factor else factor) fuel
      (ws.push (xorBytes (ws.getD (i - keyWords) []) mixed))

def roundKeys (key : Bytes) : List Bytes :=
  let words := (Cbc.groupsOf 4 key.length key).toArray
  let rounds := words.size + 6
  let all := expandFrom words.size 1 (4 * (rounds + 1) - words.size) words
  (List.range (rounds + 1)).map fun r => ((all.extract (4 * r) (4 * r + 4)).toList).flatten

/-- The rows of a block, shifted back. -/
def unshiftRows (block : Bytes) : Bytes :=
  let a := block.toArray
  (List.range 16).map fun i => a.getD ((i + 16 - 4 * (i % 4)) % 16) 0

/-- A column of a block, unmixed. -/
def unmixColumn : Bytes → Bytes
  | [a, b, c, d] =>
    [look multiples14 a ^^^ look multiples11 b ^^^ look multiples13 c ^^^ look multiples9 d,
     look multiples9 a ^^^ look multiples14 b ^^^ look multiples11 c ^^^ look multiples13 d,
     look multiples13 a ^^^ look multiples9 b ^^^ look multiples14 c ^^^ look multiples11 d,
     look multiples11 a ^^^ look multiples13 b ^^^ look multiples9 c ^^^ look multiples14 d]
  | column => column

/-- A block under the keys of all rounds, last first. -/
def decryptBlock (keys : List Bytes) (block : Bytes) : Bytes :=
  match keys with
  | [] => block
  | k :: rest => go rest (xorBytes block k)
where
  /-- The rounds after the first key. -/
  go : List Bytes → Bytes → Bytes
    | [], b => b
    | k :: rest, b =>
      let b := xorBytes ((unshiftRows b).map (look unsubstitution)) k
      match rest with
      | [] => b
      | _ => go rest ((Cbc.groupsOf 4 4 b).flatMap unmixColumn)

/-- What a key does to a block. -/
def decrypter (key : Bytes) : Bytes → Bytes :=
  let keys := (roundKeys key).reverse
  decryptBlock keys

end RemoteSigning.Aes
