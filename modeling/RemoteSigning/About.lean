/-!
# What the program says about itself

- `version` is its version;
- `offered` are the names of what it offers, in alphabetical order.
-/

namespace RemoteSigning.About

def version : String := "0.1.0"

def offered : List String :=
  ["BackendMode", "Certificate", "ConsolePresenter", "Failed", "FailureReason", "HashToSign", "LocalToken", "MobileID",
   "Presenter", "Signature", "SigningCoordinator", "SigningRequest", "SigningServiceClient", "SigningSession",
   "Succeeded", "TokenAdapter", "TokenCapability", "TokenDeclinedError", "TokenOptions"]

end RemoteSigning.About
