import RemoteSigning.Encoding.Hex
import RemoteSigning.Keys.Encryption
import RemoteSigning.Keys.Pem
import RemoteSigning.Keys.PrivateKey

/-!
# Key files

A key file holds a private key in a labelled block. Its content is encrypted under a password in one of two ways: in the
general form, which describes the encryption itself, or as the headers of the block say.

- `loadPrivateKey` reads the first private key of a file;
- `Pem.Block.plain` opens the content of a block;
- `KeyEncryption.openKey` opens a key in the general form.

A password that nothing was encrypted under is refused, so that it is not given to no purpose.
-/

namespace RemoteSigning

open Der (Element Fields)

/-! ## Encryption by headers -/

/-- The ciphers that headers may name. -/
def headerCiphers : List (Text × KeyCipher) :=
  [("AES-128-CBC", .aes 16), ("AES-256-CBC", .aes 32), ("DES-EDE3-CBC", .tripleDes)]

/-- The bytes of hexadecimal digits without anything between them. -/
def digitBytes? (t : Text) : Option Bytes :=
  if t.all fun c => c.hexValue?.isSome then (Hex.decode t).toOption else none

namespace Pem.Block

variable (b : Block)

/-- The value of a header; of several the last one counts. -/
def header? (name : Text) : Option Text := (b.headers.reverse.find? (·.1 = name)).map (·.2)

/-- Opens the content under a password. The header names a cipher and the initial block, of which the first eight bytes
are the salt. -/
def decrypt? (cipher initial : Text) (password : Bytes) : Option Bytes := do
  let c ← (headerCiphers.find? (·.1 = cipher)).map (·.2)
  let initial ← digitBytes? initial
  if initial.length < 8 then none
  c.decrypt? (headerKey password (initial.take 8) c.keySize c.keySize []) initial b.content

/-- The content of a block, and whether the password was needed. -/
def plain (password : Option Bytes) : Except KeyFault (Bytes × Bool) :=
  match b.header? "Proc-Type" with
  | none => .ok (b.content, false)
  | some kind =>
    if kind ≠ Text.ofString "4,ENCRYPTED" then .error .malformed
    else match (b.header? "DEK-Info").bind (Text.cutAt? ",") with
      | none => .error .malformed
      | some (cipher, initial) =>
        match password with
        | none => .error .noPassword
        | some p => (KeyFault.orMalformed (b.decrypt? cipher initial p)).map (·, true)

end Pem.Block

/-! ## Encryption that describes itself -/

namespace KeyEncryption

/-- Reads the description of an encryption, and what was encrypted. -/
def read? : Element → Option (AlgorithmIdentifier × Bytes) :=
  Der.sequence? do
    let algorithm ← Fields.item AlgorithmIdentifier.read?
    let content ← Fields.item Element.octets?
    return (algorithm, content)

/-- Opens a key in the general form that was encrypted. -/
def openKey (bs : Bytes) (password : Option Bytes) : Except KeyFault Bytes :=
  match Der.whole? read? bs with
  | none => .error .malformed
  | some (algorithm, content) =>
    match password with
    | none => .error .noPassword
    | some p =>
      let opened : Option Bytes := do
        let e ← (Encryption.read? algorithm).filter Encryption.isForKeyFiles
        let text ← (Utf8.decode p).toOption
        e.decrypt? (Password.ofText text) content
      KeyFault.orMalformed opened

end KeyEncryption

/-! ## Private keys -/

/-- The label of a key that was encrypted in the general form. -/
def encryptedLabel : Text := "ENCRYPTED PRIVATE KEY"

/-- The forms of private keys, by their labels. -/
def labelledForms : List (Text × (Bytes → Except KeyFault ReadKey)) :=
  [("PRIVATE KEY", PrivateKey.ofGeneral), ("RSA PRIVATE KEY", PrivateKey.ofRsa),
   ("EC PRIVATE KEY", PrivateKey.ofCurve none), ("DSA PRIVATE KEY", PrivateKey.ofDsa)]

/-- The key of a block, and whether the password was needed. -/
def Pem.Block.key (b : Pem.Block) (password : Option Bytes) : Except KeyFault (ReadKey × Bool) := do
  let (content, used) ← b.plain password
  if b.label = encryptedLabel then
    let opened ← KeyEncryption.openKey content password
    return (← PrivateKey.ofGeneral opened, true)
  else
    match labelledForms.find? (·.1 = b.label) with
    | some (_, read) => return (← read content, used)
    | none => throw .malformed

/-- The block holds a private key. -/
def Pem.Block.isKey (b : Pem.Block) : Bool := b.label = encryptedLabel || labelledForms.any (·.1 = b.label)

def loadPrivateKey (bs : Bytes) (password : Option Bytes) : Except KeyFault PrivateKey :=
  match (Pem.blocks? bs).bind (·.find? Pem.Block.isKey) with
  | none => .error .malformed
  | some b =>
    match b.key password with
    | .error e => .error e
    | .ok (key, used) => if password.isSome && !used then .error .needlessPassword else key.key

end RemoteSigning
