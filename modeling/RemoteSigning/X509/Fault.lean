import RemoteSigning.Fault
import RemoteSigning.X509.Usage

/-!
# Faults of certificates among other faults

Whoever looks at the key or the usage of a certificate may meet a fault of the certificate; here it becomes a fault like
those of calls.

- `CertificateFault.toFault` gives it a kind and a wording.
-/

namespace RemoteSigning

/-- An identifier with points between its arcs. -/
def Oid.text (oid : Oid) : Text := List.intercalate (Text.ofString ".") (oid.map Text.ofNat)

def KeyRefusal.toFault : KeyRefusal → Fault
  | .unknown => .other "UnsupportedAlgorithm" none
  | .invalid => Fault.value "Invalid key"

/-- An extension that cannot be used as a fault. -/
def X509.Misfit.toFault : X509.Misfit → Fault
  | .value => Fault.value "Invalid extension"
  | .kind => .other "TypeError" none
  | .unknown => .other "KeyError" none
  | .unsupported => .other "UnsupportedGeneralNameType" none

/-- The fault of a certificate as the fault of whoever looks at it. -/
def CertificateFault.toFault : CertificateFault → Fault
  | .version n => .other "InvalidVersion" (some (Text.ofNat n ++ " is not a valid X509 version"))
  | .key r => r.toFault
  | .duplicateExtension oid => .other "DuplicateExtension" (some ("Duplicate " ++ oid.text ++ " extension found"))
  | .extension m => m.toFault

/-- A certificate is never at fault by being cancelled. -/
theorem CertificateFault.toFault_ne_cancelled (e : CertificateFault) : e.toFault ≠ .cancelled := by
  cases e with
  | version n => simp [toFault]
  | key r => cases r <;> simp [toFault, KeyRefusal.toFault, Fault.value]
  | duplicateExtension oid => simp [toFault]
  | extension m => cases m <;> simp [toFault, X509.Misfit.toFault, Fault.value]

end RemoteSigning
