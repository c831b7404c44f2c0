import RemoteSigning.Certificate
import RemoteSigning.Fault
import RemoteSigning.Json.Printer
import RemoteSigning.Text.Utf8

/-!
# What is sent to the service, and what it answers

Each of the three exchanges is one JSON object there and one back. The names of the members are those of the service.

- `Outgoing.body` is the text of a request; it is refused if a text has surrogates or is empty where it may not be;
- `Phase1Answer.read`, `Completion.read` take the members of an answer, or name every member that is wrong;
- `Completion.succeeded`: the empty error is success.
-/

namespace RemoteSigning

/-- A request to the service. -/
inductive Outgoing where
  /-- A document, and the signer's certificate if it is known. -/
  | phase1 (document : Text) (certificate : Option Certificate)
  /-- A signature. -/
  | phase2 (signature : Signature)
  /-- The person who signs, and the document. -/
  | mobileId (personalCode phoneNumber document : Text)
  deriving DecidableEq, Repr

namespace Outgoing

/-- The exchange that a request opens. -/
def endpoint : Outgoing → Endpoint
  | .phase1 .. => .phase1
  | .phase2 _ => .phase2
  | .mobileId .. => .mobileId

/-- What is wrong with a text that must have a UTF-8 form and must not be empty. -/
def problem? (t : Text) : Option FieldProblem :=
  if ! t.isScalar then some .stringUnicode else if t.isEmpty then some .stringTooShort else none

/-- The members that cannot be sent. -/
def faults : Outgoing → List FieldFault
  | .phase1 document _ => (problem? document).toList.map (⟨·, "tekst"⟩)
  | .phase2 s => (problem? s.encoded).toList.map (⟨·, "allkiri"⟩)
  | .mobileId _ _ document => (problem? document).toList.map (⟨·, "tekst"⟩)

/-- The members in order; without a certificate its member is left out. -/
def members : Outgoing → List (Text × Json)
  | .phase1 document certificate =>
    ("tekst", .text document) :: (certificate.toList.map fun c => ("sert", .text c.toArmor))
  | .phase2 s => [("allkiri", .text s.encoded)]
  | .mobileId personalCode phoneNumber document =>
    [("isikukood", .text personalCode), ("nr", .text phoneNumber), ("tekst", .text document)]

def text (o : Outgoing) : Text := Json.render .request (.object o.members)

/-- All members can be sent. -/
def checkMembers (o : Outgoing) : Except Fault Unit :=
  match o.faults with
  | [] => .ok ()
  | fs => .error (.unwritable fs)

/-- The text of the request, if it can be sent. -/
def body (o : Outgoing) : Except Fault Text := do
  o.checkMembers
  match Utf8.encode o.text with
  | .ok _ => return o.text
  | .error e => throw (.unencodable e)

end Outgoing

/-- What is wrong with a member that has to be a text; `constrained` texts may be neither empty nor have surrogates. -/
def textProblem? (constrained : Bool) : Option Json → Option FieldProblem
  | none => some .missing
  | some (.text t) => if constrained then Outgoing.problem? t else none
  | some _ => some .stringType

/-- The text of a member, empty if there is none. -/
def textOf : Option Json → Text
  | some (.text t) => t
  | _ => []

/-- A member with which nothing is wrong is its text. -/
theorem eq_text_of_textProblem? {constrained : Bool} {o : Option Json} (h : textProblem? constrained o = none) :
    o = some (.text (textOf o)) := by
  unfold textProblem? at h
  split at h
  · cases h
  · rfl
  · cases h

/-- The answer to the first exchange, as it is written. -/
structure Phase1Answer where
  hash : Text
  algorithm : Text
  deriving DecidableEq, Repr

def Phase1Answer.read (members : List (Text × Json)) : Except (List FieldFault) Phase1Answer :=
  let hash := Json.get? members "hash"
  let algo := Json.get? members "algo"
  match (textProblem? true hash).toList.map (⟨·, "hash"⟩) ++ (textProblem? true algo).toList.map (⟨·, "algo"⟩) with
  | [] => .ok ⟨textOf hash, textOf algo⟩
  | fs => .error fs

/-- The outcome of a signing attempt on the side of the service. -/
structure Completion where
  /-- A message for the user, empty on success. -/
  error : Text
  /-- The name of the signed container, if the service tells it. -/
  signedFile : Option Text
  deriving DecidableEq, Repr

namespace Completion

/-- Nothing went wrong. -/
def succeeded (c : Completion) : Bool := c.error.isEmpty

/-- What is wrong with a member that may be absent or null. -/
def fileProblem? : Option Json → Option FieldProblem
  | none | some .null | some (.text _) => none
  | some _ => some .stringType

/-- Takes the two members of a completion. -/
def read (members : List (Text × Json)) : Except (List FieldFault) Completion :=
  let error := Json.get? members "error"
  let file := Json.get? members "signedfile"
  match (textProblem? false error).toList.map (⟨·, "error"⟩) ++
      (fileProblem? file).toList.map (⟨·, "signedfile"⟩) with
  | [] => .ok ⟨textOf error, match file with
    | some (.text t) => some t
    | _ => none⟩
  | fs => .error fs

/-- What is read is what the members say. -/
theorem of_read {members : List (Text × Json)} {c : Completion} (h : read members = .ok c) :
    Json.get? members "error" = some (.text c.error) ∧
      ((Json.get? members "signedfile" = none ∨ Json.get? members "signedfile" = some .null) ∧ c.signedFile = none ∨
        ∃ t, Json.get? members "signedfile" = some (.text t) ∧ c.signedFile = some t) := by
  unfold read at h
  dsimp only at h
  split at h
  next hn =>
    obtain ⟨he, hf⟩ : textProblem? false (Json.get? members "error") = none ∧
        fileProblem? (Json.get? members "signedfile") = none := by simpa using hn
    obtain rfl := Except.ok.inj h
    refine ⟨eq_text_of_textProblem? he, ?_⟩
    unfold fileProblem? at hf
    split at hf
    next hfile => exact .inl ⟨.inl hfile, by rw [hfile]⟩
    next hfile => exact .inl ⟨.inr hfile, by rw [hfile]⟩
    next t hfile => exact .inr ⟨t, hfile, by rw [hfile]⟩
    · cases hf
  · cases h

end Completion

end RemoteSigning
