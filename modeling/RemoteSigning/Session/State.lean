import RemoteSigning.Certificate
import RemoteSigning.HashToSign

/-!
# States of a signing session

A session goes through its states in a fixed order and ends in success or in one of eight failures. A state carries the
data that is valid in it.

- `State.isTerminal` tells the two ends;
- `State.shown` is a state with its data, as it stands in messages.
-/

namespace RemoteSigning

/-- The categories of failure. -/
inductive FailureReason where
  | backendUnavailable
  | certificateUnavailable
  | phase1Transport
  | phase1Protocol
  | signatureDeclined
  | phase2Transport
  | serverRejected
  | userCancelled
  deriving DecidableEq, Repr, Inhabited

namespace FailureReason

def word : FailureReason → String
  | .backendUnavailable => "backend_unavailable"
  | .certificateUnavailable => "certificate_unavailable"
  | .phase1Transport => "phase1_transport_error"
  | .phase1Protocol => "phase1_protocol_error"
  | .signatureDeclined => "signature_declined"
  | .phase2Transport => "phase2_transport_error"
  | .serverRejected => "server_rejected"
  | .userCancelled => "user_cancelled"

def all : List FailureReason :=
  [.backendUnavailable, .certificateUnavailable, .phase1Transport, .phase1Protocol, .signatureDeclined,
   .phase2Transport, .serverRejected, .userCancelled]

def ofWord? (t : Text) : Option FailureReason := all.find? fun r => Text.ofString r.word = t

end FailureReason

/-- The states of a session. -/
inductive State where
  | idle
  | backendSelecting
  | certificateFetching
  | phase1Submitting (certificate : Certificate)
  | signing (certificate : Certificate) (hash : HashToSign)
  | phase2Submitting (signature : Signature)
  | mobileIdSubmitting
  /-- The document is signed. -/
  | succeeded (mobileId : Bool) (signedFile : Option Text)
  /-- The attempt failed; the detail is a message of the service. -/
  | failed (reason : FailureReason) (detail : Option Text)
  deriving DecidableEq, Repr, Inhabited

namespace State

def name : State → String
  | .idle => "Idle"
  | .backendSelecting => "BackendSelecting"
  | .certificateFetching => "CertificateFetching"
  | .phase1Submitting _ => "Phase1Submitting"
  | .signing .. => "Signing"
  | .phase2Submitting _ => "Phase2Submitting"
  | .mobileIdSubmitting => "MobileIDSubmitting"
  | .succeeded .. => "Succeeded"
  | .failed .. => "Failed"

def isTerminal : State → Bool
  | .succeeded .. | .failed .. => true
  | _ => false

/-- The session ended in success. -/
def isSuccess : State → Bool
  | .succeeded .. => true
  | _ => false

end State

/-! ## States with their data -/

/-- A value between quotes, or a word for its absence. -/
def shownOption (shown : α → Text) : Option α → Text
  | none => "None"
  | some a => shown a

def Certificate.shown (c : Certificate) : Text :=
  "Certificate(der=" ++ Bytes.quoted c.der ++ ", key_ref=" ++ shownOption Bytes.quoted c.keyRef ++ ")"

def Algorithm.shown (a : Algorithm) : Text :=
  "SignatureAlgorithm(identifier=" ++ Text.quoted a.identifier ++ ", hash_name=" ++ Text.quoted a.hash.name ++
    ", key_type=" ++ shownOption (fun k : KeyType => Text.quoted k.name) a.key ++ ")"

def HashToSign.shown (h : HashToSign) : Text :=
  "HashToSign(digest=" ++ Bytes.quoted h.digest ++ ", algorithm=" ++ h.algorithm.shown ++ ")"

def Signature.shown (s : Signature) : Text :=
  "Signature(value=" ++ Bytes.quoted s.value ++ ", signed_hash=" ++ s.hash.shown ++ ")"

def State.data : State → Text
  | .phase1Submitting c => "certificate=" ++ c.shown
  | .signing c h => "certificate=" ++ c.shown ++ ", hash_to_sign=" ++ h.shown
  | .phase2Submitting s => "signature=" ++ s.shown
  | .succeeded m f =>
    "mobile_id=" ++ (if m then "True" else "False") ++ ", signed_file=" ++ shownOption Text.quoted f
  | .failed r d => "reason=" ++ Text.quoted r.word ++ ", detail=" ++ shownOption Text.quoted d
  | .idle | .backendSelecting | .certificateFetching | .mobileIdSubmitting => []

def State.shown (s : State) : Text := Text.ofString s.name ++ "(" ++ s.data ++ ")"

end RemoteSigning
