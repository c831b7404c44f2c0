import RemoteSigning.Token.Record
import RemoteSigning.X509.Fault

/-!
# Smart cards behind a card module

A card module lists slots; the token in a slot has a label, certificate objects and private keys. A card session is
opened on a token for each task and closed at its end, whatever comes in between. A module is given by its answers, so
that a task is a function: it yields the list of what it did at the module, and its result.

- `CardModule.readCertificate` opens the token without logging in and picks a certificate;
- `CardModule.signHash` logs in and applies one key once;
- `Fault.toDecline` gives the faults of a module their meaning.
-/

namespace RemoteSigning

/-- How a card applies a key. -/
inductive Mechanism where
  /-- RSA over data that the card pads. -/
  | rsaPkcs
  /-- ECDSA over a digest. -/
  | ecdsa
  deriving DecidableEq, Repr

def Mechanism.word : Mechanism → String
  | .rsaPkcs => "RSA_PKCS"
  | .ecdsa => "ECDSA"

/-- The kind of a key on a card: one of two, or a number for another one. -/
inductive CardKeyType where
  | known (type : KeyType)
  | other (number : Nat)
  deriving DecidableEq, Repr

structure CardKey where
  id : Bytes
  type : CardKeyType
  /-- What the key does to data. -/
  sign : Mechanism → Bytes → Except Fault Bytes

structure CardObject where
  value : Bytes
  id : Bytes
  deriving DecidableEq, Repr

/-- A slot with a token in it, and the calls at it that fail. -/
structure Slot where
  slotId : Int
  label : Text
  objects : List CardObject
  keys : List CardKey
  tokenFault : Option Fault := none
  openFault : Option Fault := none
  objectsFault : Option Fault := none
  keyFault : Option Fault := none

/-- A card module. -/
structure CardModule where
  loadFault : Option Fault := none
  slotsFault : Option Fault := none
  slots : List Slot

def CardModule.absent : CardModule := ⟨some (.runtime "cannot load module"), none, []⟩

/-- What is given to a token to log in. -/
inductive Login where
  /-- Nothing: the card session is for reading. -/
  | none
  /-- A PIN. -/
  | pin (pin : Text)
  /-- The reader asks for the PIN itself. -/
  | protectedPath
  deriving DecidableEq, Repr

/-- What is done at a module. -/
inductive CardEvent where
  | load (library : Text)
  | getToken (slot : Int)
  /-- A card session is opened; `granted` says whether it is open now. -/
  | open (slot : Int) (login : Login) (granted : Bool)
  | close (slot : Int)
  | getKey (slot : Int) (id : Option Bytes)
  | keySign (data : Bytes) (mechanism : Mechanism)
  deriving DecidableEq, Repr

/-- A task at a module: what was done, and the result. -/
abbrev CardTask (α : Type) := List CardEvent × Except Fault α

namespace CardTask

/-- A task that does nothing at the module. -/
def pure {α : Type} (a : α) : CardTask α := ([], .ok a)

def fail {α : Type} (f : Fault) : CardTask α := ([], .error f)

/-- One task after another. -/
def bind {α β : Type} (t : CardTask α) (next : α → CardTask β) : CardTask β :=
  match t.2 with
  | .error f => (t.1, .error f)
  | .ok a => (t.1 ++ (next a).1, (next a).2)

/-- Something that is done at the module, and fails if there is a fault. -/
def event (e : CardEvent) (fault : Option Fault) : CardTask Unit :=
  ([e], match fault with
    | none => .ok ()
    | some f => .error f)

end CardTask

/-- Which token of a module is used, and how the PIN is asked for. -/
structure CardConfig where
  /-- The path of the module. -/
  library : Option Text
  /-- A part of the token's label. -/
  label : Option Text := none
  /-- The slot. -/
  slot : Option Int := none
  /-- Somebody asks the user for the PIN; else the reader does. -/
  prompts : Bool
  deriving DecidableEq, Repr

namespace CardConfig

/-- The label is acceptable; an empty part is in every label. -/
def admitsLabel (c : CardConfig) (label : Text) : Bool :=
  match c.label with
  | none => true
  | some part => part.isEmpty || label.contains part

/-- The slot is acceptable. -/
def admitsSlot (c : CardConfig) (slot : Int) : Bool :=
  match c.slot with
  | none => true
  | some n => slot = n

end CardConfig

namespace CardModule

variable (m : CardModule)

/-- Loads the module, unless it is loaded already. -/
def load (c : CardConfig) (loaded : Bool) : CardTask Unit :=
  if loaded then .pure ()
  else match c.library with
    | none | some [] => .fail (.runtime "PKCS11_LIB is not set")
    | some library => .event (.load library) m.loadFault

/-- Looks at the tokens in the slots, in order, up to the first acceptable one. -/
def findIn (c : CardConfig) : List Slot → CardTask Slot
  | [] => .fail (.decline .noCard "No matching token present")
  | s :: rest =>
    if ! c.admitsSlot s.slotId then findIn c rest
    else (CardTask.event (.getToken s.slotId) s.tokenFault).bind fun _ =>
      if c.admitsLabel s.label then .pure s else findIn c rest

def findToken (c : CardConfig) (loaded : Bool) : CardTask Slot :=
  (m.load c loaded).bind fun _ =>
    match m.slotsFault with
    | some f => .fail f
    | none => findIn c m.slots

/-- Opens a card session for a task, and closes it whatever the task ends with. -/
def withSession {α : Type} (s : Slot) (login : Login) (task : CardTask α) : CardTask α :=
  match s.openFault with
  | some f => ([.open s.slotId login false], .error f)
  | none => ([.open s.slotId login true] ++ task.1 ++ [.close s.slotId], task.2)

/-- The first certificate for qualified signatures, else the first one. Certificates that cannot be judged are a fault if
no suitable one comes before them. -/
def choose (first : Certificate) : List Certificate → Except Fault Certificate
  | [] => .ok first
  | c :: rest =>
    match c.hasNonRepudiation with
    | .error e => .error e.toFault
    | .ok true => .ok c
    | .ok false => choose first rest

def Slot.certificates (s : Slot) : List Certificate := s.objects.map fun o => ⟨o.value, some o.id⟩

def readCertificate (c : CardConfig) (loaded : Bool) : CardTask Certificate :=
  (m.findToken c loaded).bind fun s =>
    let listing : CardTask (List Certificate) :=
      match s.objectsFault with
      | some f => .fail f
      | none => .pure (Slot.certificates s)
    (withSession s .none listing).bind fun
      | [] => .fail (.decline .noCertificate ("No certificate on token " ++ s.label.quoted))
      | first :: rest => ([], choose first (first :: rest))

/-- Looks a private key up. -/
def findKey (s : Slot) (id : Option Bytes) : CardTask CardKey :=
  (CardTask.event (.getKey s.slotId id) s.keyFault).bind fun _ =>
    match s.keys.filter fun k => some k.id = id with
    | [k] => .pure k
    | [] => .fail (.card .noSuchKey none)
    | _ => .fail (.card (.other "MultipleObjectsReturned") none)

/-- The data that a key of a kind is applied to, and how. -/
def preparation (h : HashToSign) : KeyType → Bytes × Mechanism
  | .rsa => (h.hashName.digestInfo h.digest, .rsaPkcs)
  | .ec => (h.digest, .ecdsa)

/-- Applies a key to a hash, if it is suitable. -/
def applyKey (k : CardKey) (h : HashToSign) : CardTask Bytes :=
  match k.type with
  | .other n => .fail (.decline .tokenError ("Unsupported key type " ++ Text.ofNat n))
  | .known type =>
    if h.algorithm.admits (some type) then
      let (data, mechanism) := preparation h type
      ([.keySign data mechanism], k.sign mechanism data)
    else
      .fail (.decline .tokenError
        (Text.ofString h.algorithm.identifier ++ " cannot be used with a " ++ Text.ofString type.name ++ " key"))

/-- Logs in and signs a hash with the key that belongs to a certificate. -/
def signHash (c : CardConfig) (loaded : Bool) (certificate : Certificate) (h : HashToSign) (login : Login) :
    CardTask Bytes :=
  (m.findToken c loaded).bind fun s =>
    withSession s login ((findKey s certificate.keyRef).bind fun k => applyKey k h)

/-- The module is loaded after a task. -/
def loadedAfter (loaded : Bool) (events : List CardEvent) : Bool :=
  loaded || (m.loadFault.isNone && events.any fun
    | .load _ => true
    | _ => false)

end CardModule

namespace Fault

/-- The message of a fault, or another one if it is empty. -/
def messageOr (f : Fault) (other : Text) : Text := if f.message.isEmpty then other else f.message

/-- What a fault at a card module means. -/
def toDecline (f : Fault) : Fault :=
  match f with
  | .declined .. => f
  | .card .pinIncorrect _ | .card .pinLenRange _ => .decline .wrongPin (f.messageOr "PIN incorrect")
  | .card .pinLocked _ => .decline .pinLocked (f.messageOr "PIN locked")
  | .card .tokenNotPresent _ | .card .noSuchToken _ => .decline .noCard (f.messageOr "Token removed")
  | .card .noSuchKey _ => .decline .noCertificate "No private key for certificate"
  | _ => .decline .tokenError (f.kind ++ ": " ++ f.message)

/-- The reason of a fault by which the token declines. -/
def reason? : Fault → Option DeclineReason
  | .declined r _ => some r
  | _ => none

theorem reason?_toDecline (f : Fault) : f.toDecline.reason?.isSome = true := by
  unfold toDecline
  split <;> rfl

end Fault

end RemoteSigning
