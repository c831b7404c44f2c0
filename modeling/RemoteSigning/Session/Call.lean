import RemoteSigning.Service.Client
import RemoteSigning.Token.Mode

/-!
# What sessions ask of others

A session asks the token for a backend, a certificate and a signature, and the service for its three exchanges. Each
call ends with a value or with a fault.

- `Call` is what is asked, `Value` what comes back.
-/

namespace RemoteSigning

/-- A backend that was selected, as its session knows it. -/
abbrev Handle := Nat

/-- A call that leaves the session. -/
inductive Call where
  /-- Select a backend. -/
  | select (mode : ModeChoice)
  /-- Fetch the certificate from a backend. -/
  | fetch (backend : Handle) (language : Text)
  /-- Send a request to the service. -/
  | submit (request : Outgoing)
  /-- Sign a hash with the key of a certificate. -/
  | sign (backend : Handle) (certificate : Certificate) (hash : HashToSign) (language : Text)
  deriving DecidableEq, Repr

/-- What a call ends with if it succeeds. -/
inductive Value where
  | backend (handle : Option Handle)
  | certificate (certificate : Certificate)
  | reply (reply : Reply)
  | signature (signature : Signature)
  deriving DecidableEq, Repr

end RemoteSigning
