import RemoteSigning.HashToSign
import RemoteSigning.Text.Coding

/-!
# Faults: what a call ends with instead of a value

Every call that leaves a session, to the token or to the service, may end with a fault. A fault has a kind, which is a
word, and a message. Some faults are told apart by what is done about them: the token declines, the service does not
answer as it should, the call was cancelled.

- `Fault.decline` fills in the reason where there is no message;
- `Fault.shown` is the form in which unexpected faults stand in the log, as far as it is kept here.
-/

namespace RemoteSigning

/-- Why the token did not do what it was asked for. -/
inductive DeclineReason where
  | cancelled
  | noCard
  | noCertificate
  | wrongPin
  | pinLocked
  | tokenError
  deriving DecidableEq, Repr, Inhabited

def DeclineReason.word : DeclineReason → String
  | .cancelled => "cancelled"
  | .noCard => "no_card"
  | .noCertificate => "no_certificate"
  | .wrongPin => "wrong_pin"
  | .pinLocked => "pin_locked"
  | .tokenError => "token_error"

def DeclineReason.all : List DeclineReason := [.cancelled, .noCard, .noCertificate, .wrongPin, .pinLocked, .tokenError]

def DeclineReason.ofWord? (t : Text) : Option DeclineReason := all.find? fun r => Text.ofString r.word = t

/-- What is wrong with the value of a field. -/
inductive FieldProblem where
  | missing
  | stringType
  | stringTooShort
  /-- A text with surrogates. -/
  | stringUnicode
  | greaterThan
  | floatParsing
  | floatType
  | intParsing
  | intType
  | intFromFloat
  /-- An integer that is too long to be read. -/
  | intParsingSize
  /-- An infinity, or no number at all. -/
  | finiteNumber
  | boolParsing
  | boolType
  deriving DecidableEq, Repr

def FieldProblem.word : FieldProblem → String
  | .missing => "missing"
  | .stringType => "string_type"
  | .stringTooShort => "string_too_short"
  | .stringUnicode => "string_unicode"
  | .greaterThan => "greater_than"
  | .floatParsing => "float_parsing"
  | .floatType => "float_type"
  | .intParsing => "int_parsing"
  | .intType => "int_type"
  | .intFromFloat => "int_from_float"
  | .intParsingSize => "int_parsing_size"
  | .finiteNumber => "finite_number"
  | .boolParsing => "bool_parsing"
  | .boolType => "bool_type"

/-- A field whose value is refused. -/
structure FieldFault where
  problem : FieldProblem
  field : String
  deriving DecidableEq, Repr

/-- The exchanges with the service. -/
inductive Endpoint where
  /-- The document goes out, the hash comes back. -/
  | phase1
  /-- The signature goes out, the outcome comes back. -/
  | phase2
  /-- The document and the person go out, the outcome comes back. -/
  | mobileId
  deriving DecidableEq, Repr, Inhabited

/-- The path below the address of the service. -/
def Endpoint.path : Endpoint → String
  | .phase1 => "/p1"
  | .phase2 => "/p2"
  | .mobileId => "/mid"

/-- An exchange with the service that did not succeed. -/
inductive ServiceFault where
  /-- The request did not get through. -/
  | noAnswer (exchange : Endpoint) (message : Text)
  /-- The answer is one of refusal. -/
  | refused (exchange : Endpoint) (status : Nat)
  /-- The body is no JSON. -/
  | notJson (exchange : Endpoint) (message : Text)
  /-- The body is JSON, but no object. -/
  | notObject (exchange : Endpoint) (kind : String)
  /-- Members are missing or of the wrong kind. -/
  | malformed (exchange : Endpoint) (fields : List FieldFault)
  /-- The hash or the algorithm is refused. -/
  | refusedHash (exchange : Endpoint) (fault : HashFault)
  /-- The algorithm requires another key than that of the certificate. -/
  | otherKey (exchange : Endpoint) (algorithm : Algorithm) (found : KeyType)
  deriving DecidableEq, Repr

namespace ServiceFault

/-- The answer was understood, but is not what the exchange asks for. -/
def isProtocol : ServiceFault → Bool
  | .noAnswer .. | .refused .. | .notJson .. => false
  | .notObject .. | .malformed .. | .refusedHash .. | .otherKey .. => true

def endpoint : ServiceFault → Endpoint
  | .noAnswer e _ | .refused e _ | .notJson e _ | .notObject e _ | .malformed e _ | .refusedHash e _
  | .otherKey e _ _ => e

/-- The status of the answer, if that is what is wrong with it. -/
def status? : ServiceFault → Option Nat
  | .refused _ n => some n
  | _ => none

/-- The wording without the path. For a malformed answer it ends before the list of what is wrong with its fields, which
says more of each than `FieldFault` does. -/
def cause : ServiceFault → Text
  | .noAnswer _ m => "request failed: " ++ m
  | .refused _ n => "HTTP " ++ Text.ofNat n
  | .notJson _ m => "response is not JSON: " ++ m
  | .notObject _ kind => "expected a JSON object, got " ++ Text.ofString kind
  | .malformed _ _ => "malformed response"
  | .refusedHash _ e => e.message
  | .otherKey _ a k =>
    "algorithm " ++ Text.ofString a.identifier ++ " does not match " ++ Text.ofString k.name ++ " certificate"

def message (e : ServiceFault) : Text := Text.ofString e.endpoint.path ++ ": " ++ e.cause

end ServiceFault

/-- What a card module may end with. -/
inductive CardFault where
  | pinIncorrect
  | pinLenRange
  | pinLocked
  | tokenNotPresent
  | noSuchToken
  | noSuchKey
  | other (kind : Text)
  deriving DecidableEq, Repr

namespace CardFault

/-- The word for a fault of a card. -/
def kind : CardFault → Text
  | .pinIncorrect => "PinIncorrect"
  | .pinLenRange => "PinLenRange"
  | .pinLocked => "PinLocked"
  | .tokenNotPresent => "TokenNotPresent"
  | .noSuchToken => "NoSuchToken"
  | .noSuchKey => "NoSuchKey"
  | .other k => k

/-- The faults with a meaning of their own. -/
def known : List CardFault := [.pinIncorrect, .pinLenRange, .pinLocked, .tokenNotPresent, .noSuchToken, .noSuchKey]

def ofKind (t : Text) : CardFault := (known.find? fun c => c.kind = t).getD (.other t)

end CardFault

/-- What a call ends with instead of a value. -/
inductive Fault where
  /-- The call was cancelled. -/
  | cancelled
  /-- The token declines. -/
  | declined (reason : DeclineReason) (message : Text)
  /-- No backend, or a foreign one. -/
  | unavailable (message : Option Text)
  /-- The service did not answer as it should. -/
  | service (fault : ServiceFault)
  /-- A request has values that cannot be sent. -/
  | unwritable (fields : List FieldFault)
  /-- A request has no encoded form. -/
  | unencodable (fault : EncodeFault)
  /-- The service could not be reached. -/
  | network (kind : Text) (message : Option Text)
  /-- The card module fails. -/
  | card (fault : CardFault) (message : Option Text)
  /-- Anything else. -/
  | other (kind : Text) (message : Option Text)
  deriving DecidableEq, Repr

namespace Fault

/-- The token declines; without a message the word for the reason is the message. -/
def decline (reason : DeclineReason) (message : Text) : Fault :=
  .declined reason (if message.isEmpty then Text.ofString reason.word else message)

/-- A value that is refused. -/
def value (message : Text) : Fault := .other "ValueError" (some message)

/-- A condition that does not hold. -/
def runtime (message : Text) : Fault := .other "RuntimeError" (some message)

def kind : Fault → Text
  | .cancelled => "CancelledError"
  | .declined .. => "TokenDeclinedError"
  | .unavailable _ => "BackendUnavailableError"
  | .service e => if e.isProtocol then "ServiceProtocolError" else "ServiceTransportError"
  | .unwritable _ => "ValidationError"
  | .unencodable _ => "UnicodeEncodeError"
  | .network k _ => k
  | .card c _ => c.kind
  | .other k _ => k

def message? : Fault → Option Text
  | .cancelled => none
  | .declined _ m => some m
  | .unavailable m => m
  | .service e => some e.message
  | .unwritable _ => none
  | .unencodable e => some e.message
  | .network _ m => m
  | .card _ m => m
  | .other _ m => m

/-- The message, empty if there is none. -/
def message (e : Fault) : Text := e.message?.getD []

/-- The kind and, in brackets, the message between quotes. This stands for the form in which a fault shows itself, and
is that form for faults made from one text; others show what else they were made from. -/
def shown (e : Fault) : Text :=
  e.kind ++ "(" ++ (match e.message? with
    | some m => m.quoted
    | none => []) ++ ")"

end Fault

end RemoteSigning
