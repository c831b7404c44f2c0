import RemoteSigning.Crypto.Aes
import RemoteSigning.Crypto.Des
import RemoteSigning.Crypto.Rc2
import RemoteSigning.Crypto.Rc4
import RemoteSigning.Crypto.Scrypt
import RemoteSigning.Text.Utf8
import RemoteSigning.X509.AlgorithmIdentifier

/-!
# Encryption under a password

Keys and key bundles say with an algorithm identifier how they were encrypted: how the key was drawn from the password,
and with which cipher.

- `Encryption.read?` reads the description, `Encryption.decrypt?` follows it;
- `KeyCipher` has the ciphers; `KeyCipher.decrypt?` takes off what fills up the last block;
- `Password` is a password in the two forms in which it is used.
-/

namespace RemoteSigning

open Der (Element)

/-! ## Passwords -/

structure Password where
  /-- In UTF-8. -/
  narrow : Bytes
  /-- In UTF-16, with a zero at its end. -/
  wide : Bytes
  deriving DecidableEq, Repr

namespace Password

/-- A code point in UTF-16, the greater byte first. -/
def wideBytes (c : CodePoint) : Bytes :=
  if c.val < 0x10000 then Sha2.toBytes 2 c.val
  else Sha2.toBytes 2 (0xD800 + (c.val - 0x10000) / 0x400) ++ Sha2.toBytes 2 (0xDC00 + (c.val - 0x10000) % 0x400)

def ofText (t : Text) : Password := ⟨Utf8.encodeAll t, t.flatMap wideBytes ++ [0, 0]⟩

/-- No password, which is not the same as an empty one: there is not even a zero at its end. -/
def none : Password := ⟨[], []⟩

end Password

/-! ## Ciphers -/

/-- A cipher of keys; keys are as long as the number says. -/
inductive KeyCipher where
  | aes (keySize : Nat)
  | des
  | tripleDes
  /-- A key of three parts, of which the last is the first one again. -/
  | doubleDes
  /-- All bits of the key count. -/
  | rc2 (keySize : Nat)
  | rc4 (keySize : Nat)
  deriving DecidableEq, Repr

namespace KeyCipher

def keySize : KeyCipher → Nat
  | .aes n | .rc2 n | .rc4 n => n
  | .des => 8
  | .tripleDes => 24
  | .doubleDes => 16

/-- The bytes of a block; none if the text is not cut into blocks. -/
def blockSize : KeyCipher → Nat
  | .aes _ => 16
  | .des | .tripleDes | .doubleDes | .rc2 _ => 8
  | .rc4 _ => 0

/-- The text of an input under a key and an initial block. -/
def decrypt? (c : KeyCipher) (key initial input : Bytes) : Option Bytes :=
  match c with
  | .aes _ => Cbc.decrypt? 16 (Aes.decrypter key) initial input
  | .des => Cbc.decrypt? 8 (Des.decrypter key) initial input
  | .tripleDes => Cbc.decrypt? 8 (Des.tripleDecrypter key) initial input
  | .doubleDes => Cbc.decrypt? 8 (Des.tripleDecrypter (key ++ key.take 8)) initial input
  | .rc2 n => Cbc.decrypt? 8 (Rc2.decrypter key (8 * n)) initial input
  | .rc4 _ => some (Rc4.apply key input)

end KeyCipher

/-! ## Descriptions -/

/-- How a key is drawn from a password. -/
inductive KeySource where
  /-- By a digest of a digest, and so on; the initial block is drawn with it. -/
  | digests (digest : Digest) (salting : Salting)
  /-- In the way of key bundles; the initial block is drawn too. -/
  | bundle (salting : Salting)
  /-- By keyed digests. -/
  | keyed (digest : Digest) (salting : Salting) (initial : Bytes)
  /-- With much memory. -/
  | memory (derivation : MemoryDerivation) (initial : Bytes)
  deriving DecidableEq, Repr

/-- A key source and a cipher. -/
structure Encryption where
  source : KeySource
  cipher : KeyCipher
  /-- The length of the key as it is written, if it is. -/
  keyLength : Option Nat
  deriving DecidableEq, Repr

namespace Encryption

/-- The value for an identifier. -/
def look? {α : Type} (table : List (Oid × α)) (oid : Oid) : Option α := (table.find? (·.1 = oid)).map (·.2)

def keyedDigests : List (Oid × Digest) :=
  [(AlgorithmId.hmacSha1, .sha1), (AlgorithmId.hmacSha224, .sha2 .sha224), (AlgorithmId.hmacSha256, .sha2 .sha256),
   (AlgorithmId.hmacSha384, .sha2 .sha384), (AlgorithmId.hmacSha512, .sha2 .sha512)]

def bundleCiphers : List (Oid × KeyCipher) :=
  [(AlgorithmId.bundlePbe 1, .rc4 16), (AlgorithmId.bundlePbe 2, .rc4 5), (AlgorithmId.bundlePbe 3, .tripleDes),
   (AlgorithmId.bundlePbe 4, .doubleDes), (AlgorithmId.bundlePbe 5, .rc2 16), (AlgorithmId.bundlePbe 6, .rc2 5)]

/-- The digests and ciphers of the oldest way. -/
def oldCiphers : List (Oid × Digest × KeyCipher) :=
  [(AlgorithmId.pbes1 3, .md5, .des), (AlgorithmId.pbes1 6, .md5, .rc2 8), (AlgorithmId.pbes1 10, .sha1, .des),
   (AlgorithmId.pbes1 11, .sha1, .rc2 8)]

/-- The ciphers whose initial block is written. -/
def plainCiphers : List (Oid × KeyCipher) :=
  [(AlgorithmId.aes128, .aes 16), (AlgorithmId.aes192, .aes 24), (AlgorithmId.aes256, .aes 32),
   (AlgorithmId.tripleDes, .tripleDes), (AlgorithmId.singleDes, .des)]

/-- The numbers that stand for key sizes of RC2. -/
def rc2Sizes : List (Nat × Nat) := [(160, 5), (120, 8), (58, 16)]

/-- The cipher of a derived key, and its initial block. -/
def readCipher? (a : AlgorithmIdentifier) : Option (KeyCipher × Bytes) :=
  if a.oid = AlgorithmId.rc2 then do
    let (version, initial) ← a.parameters? readRc2?
    let (_, size) ← rc2Sizes.find? fun (number, _) => some number = version
    return (.rc2 size, initial)
  else do
    let cipher ← look? plainCiphers a.oid
    let initial ← a.parameters? Element.octets?
    if initial.length = cipher.blockSize then some (cipher, initial) else none

/-- The way in which a key is derived, and the length that it is written to have. -/
def readSource? (a : AlgorithmIdentifier) (initial : Bytes) : Option (KeySource × Option Nat) :=
  if a.oid = AlgorithmId.pbkdf2 then do
    let d ← a.parameters? (AlgorithmIdentifier.readDerivation? AlgorithmIdentifier.readAny?)
    let digest ← match d.digest with
      | some k => look? keyedDigests k.oid
      | none => some .sha1
    return (.keyed digest d.salting initial, d.keyLength)
  else if a.oid = AlgorithmId.scrypt then do
    let d ← a.parameters? MemoryDerivation.read?
    return (.memory d initial, d.keyLength)
  else none

/-- Reads a description. -/
def read? (a : AlgorithmIdentifier) : Option Encryption :=
  if a.oid = AlgorithmId.pbes2 then do
    let (derivation, cipher) ← a.parameters? (AlgorithmIdentifier.readPair? AlgorithmIdentifier.readAny?)
    let (cipher, initial) ← readCipher? cipher
    let (source, keyLength) ← readSource? derivation initial
    return ⟨source, cipher, keyLength⟩
  else
    match look? bundleCiphers a.oid, look? oldCiphers a.oid with
    | some cipher, _ => do return ⟨.bundle (← a.parameters? Salting.read?), cipher, none⟩
    | none, some (digest, cipher) => do return ⟨.digests digest (← a.parameters? Salting.read?), cipher, none⟩
    | none, none => none

/-- The key and the initial block. -/
def keys? (e : Encryption) (password : Password) : Option (Bytes × Bytes) :=
  let size := e.cipher.keySize
  match e.source with
  | .digests digest s =>
    let drawn := pbkdf1 digest password.narrow s.salt s.rounds
    if s.rounds = 0 then none else some (drawn.take size, (drawn.take 16).drop (16 - e.cipher.blockSize))
  | .bundle s =>
    let draw (purpose : KeyPurpose) (size : Nat) : Bytes :=
      bundleKey .sha1 purpose password.wide s.salt s.rounds size
    some (draw .encryption size, draw .initialBlock e.cipher.blockSize)
  | .keyed digest s initial =>
    if s.rounds = 0 then none else some (pbkdf2 digest password.narrow s.salt s.rounds size, initial)
  | .memory d initial => (scrypt? password.narrow d.salt d.cost d.blockSize d.lanes size).map (·, initial)

/-- Opens what was encrypted. -/
def decrypt? (e : Encryption) (password : Password) (input : Bytes) : Option Bytes := do
  let (key, initial) ← e.keys? password
  e.cipher.decrypt? key initial input

/-- The encryptions that a key file may have: of the older ways only the usual ciphers, and of the derived ones none
whose key is short. -/
def isForKeyFiles (e : Encryption) : Bool :=
  match e.source with
  | .digests digest _ => digest = .md5 && e.cipher = .des
  | .bundle _ => [KeyCipher.rc4 16, .tripleDes, .rc2 5].contains e.cipher
  | .keyed .. | .memory .. => ! [KeyCipher.des, .rc2 5, .rc2 8].contains e.cipher

/-- The encryptions that a bundle may have: keys are drawn in at least one round, and have the length that is written. -/
def isForBundles (e : Encryption) : Bool :=
  let rounds := match e.source with
    | .digests _ s | .bundle s | .keyed _ s _ => s.rounds
    | .memory .. => 1
  1 ≤ rounds && e.keyLength.all (· = e.cipher.keySize)

end Encryption

end RemoteSigning
