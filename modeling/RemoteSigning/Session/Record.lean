import RemoteSigning.Fault
import RemoteSigning.Log
import RemoteSigning.Session.State

/-!
# The log of a session

Every change of state is recorded, before it the reason if the new state is an end, and the first request to cancel.
The records hold what happened; `SessionRecord.line` is their wording.

- `SessionRecord.isEnding` tells the records that announce an end.
-/

namespace RemoteSigning

/-- Why a session failed, as far as the log is concerned. -/
inductive Cause where
  /-- The category says it all. -/
  | none
  /-- A message of the service. -/
  | detail (text : Text)
  /-- A fault that is part of the protocol. -/
  | expected (fault : Fault)
  /-- Any other fault. -/
  | unexpected (fault : Fault)
  deriving DecidableEq, Repr

/-- What a session records. -/
inductive SessionRecord where
  /-- The state changes. -/
  | transition (before after : State)
  /-- The session is about to fail. -/
  | failing (reason : FailureReason) (cause : Cause)
  /-- The session is about to succeed. -/
  | succeeding (mobileId : Bool)
  /-- Cancellation was requested for the first time. -/
  | cancelRequested (state : State)
  /-- A certificate was fetched. -/
  | usingCertificate (certificate : Certificate)
  /-- The signature was made over another hash. -/
  | foreignHash
  deriving DecidableEq, Repr

namespace SessionRecord

def level : SessionRecord → LogLevel
  | .transition .. => .debug
  | .failing _ (.unexpected _) => .error
  | .failing .. => .warning
  | .succeeding _ => .info
  | .cancelRequested _ => .info
  | .usingCertificate _ => .info
  | .foreignHash => .error

/-- What follows the category in the record of a failure. -/
def causeText : Cause → Text
  | .none => []
  | .detail t => if t.isEmpty then [] else ": " ++ t
  | .expected f => ": " ++ f.kind ++ ": " ++ f.message
  | .unexpected f => " on unexpected error: " ++ f.shown

/-- The wording of a record of the session with a name. -/
def message (id : Text) : SessionRecord → Text
  | .transition a b =>
    "Session " ++ id ++ ": " ++ Text.ofString a.name ++ " -> " ++ Text.ofString b.name
  | .failing reason cause => "Session " ++ id ++ " failed (" ++ Text.ofString reason.word ++ ")" ++ causeText cause
  | .succeeding mobileId => "Session " ++ id ++ " succeeded" ++ (if mobileId then Text.ofString " via Mobile-ID" else [])
  | .cancelRequested s => "Session " ++ id ++ ": cancellation requested in " ++ Text.ofString s.name
  | .usingCertificate c => "Session " ++ id ++ ": using certificate " ++ c.shortFingerprint
  | .foreignHash => "Session " ++ id ++ ": signature was not produced over this session's hash"

def line (id : Text) (r : SessionRecord) : LogLine := ⟨r.level, r.message id⟩

def isEnding : SessionRecord → Bool
  | .failing .. | .succeeding _ => true
  | _ => false

end SessionRecord

end RemoteSigning
