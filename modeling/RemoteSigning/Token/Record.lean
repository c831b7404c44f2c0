import RemoteSigning.Fault
import RemoteSigning.Certificate
import RemoteSigning.Log
import RemoteSigning.Token.Mode

/-!
# What the token and the service put into the log

- `TokenRecord.line` is the wording of a record.
-/

namespace RemoteSigning

/-- What is recorded outside the sessions. -/
inductive TokenRecord where
  /-- A mode was asked for that there is not. -/
  | unknownMode (choice : ModeChoice)
  /-- A mode was asked for that stands for no backend. -/
  | noBackend (choice : ModeChoice)
  /-- A backend was asked for that is not configured. -/
  | notConfigured (mode : BackendMode)
  /-- A backend could not be made. -/
  | notMade (mode : BackendMode) (fault : Fault)
  /-- A backend is not ready. -/
  | unhealthy (backend : Text)
  /-- A backend was selected. -/
  | selected (backend : Text)
  /-- The card module cannot be loaded. -/
  | moduleUnavailable (fault : Fault)
  /-- The card module did not read a certificate. -/
  | readDeclined (reason : DeclineReason) (message : Text)
  /-- A certificate was read from a card. -/
  | certificateRead (certificate : Certificate)
  /-- The card module did not sign. -/
  | signDeclined (reason : DeclineReason) (message : Text)
  /-- A key in memory did not sign. -/
  | softwareFailed (message : Text)
  /-- The service sent a hash. -/
  | hashReceived (hash : HashToSign)
  deriving DecidableEq, Repr

namespace TokenRecord

def line : TokenRecord → LogLine
  | .unknownMode c => ⟨.error, "Unknown token backend mode: " ++ c.shown⟩
  | .noBackend c => ⟨.warning, "No token backend available for mode " ++ c.shown⟩
  | .notConfigured .software => ⟨.warning, "Software backend requested but SOFTWARE_TOKEN_KEY is not set"⟩
  | .notConfigured _ => ⟨.warning, "PKCS#11 backend requested but PKCS11_LIB is not set"⟩
  | .notMade m f =>
    ⟨.error, "Failed to initialize " ++ Text.ofString m.word ++ " token backend: " ++ f.message⟩
  | .unhealthy b => ⟨.warning, b ++ " failed health check"⟩
  | .selected b => ⟨.info, "Selected token backend " ++ b⟩
  | .moduleUnavailable f => ⟨.warning, "PKCS#11 module unavailable: " ++ f.message⟩
  | .readDeclined r m =>
    ⟨.warning, "PKCS#11 certificate read declined: " ++ Text.ofString r.word ++ ": " ++ m⟩
  | .certificateRead c => ⟨.info, "Read certificate " ++ c.shortFingerprint ++ " from token"⟩
  | .signDeclined r m => ⟨.warning, "PKCS#11 signing declined: " ++ Text.ofString r.word ++ ": " ++ m⟩
  | .softwareFailed m => ⟨.error, "Software signing failed: " ++ m⟩
  | .hashReceived h =>
    ⟨.debug, "Phase 1 returned " ++ Text.ofNat h.digest.length ++ "-byte digest, algorithm " ++
      Text.ofString h.algorithm.identifier⟩

end TokenRecord

end RemoteSigning
