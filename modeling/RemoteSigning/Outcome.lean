import RemoteSigning.Session.State

/-!
# What the user is told

At the end of a session the user sees one sentence. It depends on the category of the outcome and on the language only;
but what the service itself has to say is passed on as it is.

- `outcomeMessage` is the sentence;
- `report` is the sentence with the news whether it is a good one.
-/

namespace RemoteSigning

/-- The languages with texts of their own. -/
inductive Language where
  | estonian
  | english
  deriving DecidableEq, Repr, Inhabited

/-- The language of a code of two letters; unknown codes stand for Estonian. -/
def Language.ofCode (t : Text) : Language := if t = Text.ofString "en" then .english else .estonian

inductive Sentence where
  | signed
  | signedMobileId
  | backendUnavailable
  | certificateUnavailable
  | requestFailed
  | signatureDeclined
  | userCancelled
  deriving DecidableEq, Repr

def Sentence.text : Language → Sentence → String
  | .estonian, .signed => "Allkiri edukalt antud"
  | .estonian, .signedMobileId => "Allkirjastamine edukas"
  | .estonian, .backendUnavailable => "ID-kaardi tarkvara ei ole kättesaadav"
  | .estonian, .certificateUnavailable => "Serdi lugemine ebaõnnestus. Kontrolli, kas ID-kaart on lugejas."
  | .estonian, .requestFailed => "Päring ebaõnnestus"
  | .estonian, .signatureDeclined => "Allkirjastamine ebaõnnestus"
  | .estonian, .userCancelled => "Allkirjastamine katkestati"
  | .english, .signed => "Document signed successfully"
  | .english, .signedMobileId => "Signing successful"
  | .english, .backendUnavailable => "ID card software is not available"
  | .english, .certificateUnavailable =>
    "Reading the certificate failed. Check that the ID card is in the reader."
  | .english, .requestFailed => "Request failed"
  | .english, .signatureDeclined => "Signing failed"
  | .english, .userCancelled => "Signing was cancelled"

def FailureReason.sentence : FailureReason → Sentence
  | .backendUnavailable => .backendUnavailable
  | .certificateUnavailable => .certificateUnavailable
  | .phase1Transport | .phase1Protocol | .phase2Transport | .serverRejected => .requestFailed
  | .signatureDeclined => .signatureDeclined
  | .userCancelled => .userCancelled

/-- A session that is not over has no outcome. -/
structure NotTerminal where
  state : State
  deriving DecidableEq, Repr

/-- The wording of the fault. -/
def NotTerminal.message (e : NotTerminal) : Text := "Not a terminal state: " ++ e.state.shown

/-- The sentence for the end of a session, in the language of a code. What the service says about a rejection is passed
on, if it says anything. -/
def outcomeMessage (code : Text) (s : State) : Except NotTerminal Text :=
  let say (m : Sentence) : Text := m.text (Language.ofCode code)
  match s with
  | .succeeded mobileId _ => .ok (say (if mobileId then .signedMobileId else .signed))
  | .failed .serverRejected (some (c :: t)) => .ok (c :: t)
  | .failed reason _ => .ok (say reason.sentence)
  | s => .error ⟨s⟩

theorem outcomeMessage_isOk_iff (code : Text) (s : State) :
    (∃ t, outcomeMessage code s = .ok t) ↔ s.isTerminal = true := by
  unfold outcomeMessage
  cases s with
  | failed reason detail =>
    cases reason <;> rcases detail with _ | _ | ⟨c, t⟩ <;> simp [State.isTerminal]
  | _ => simp [State.isTerminal]

/-- What the presenter is told. -/
structure Report where
  success : Bool
  message : Text
  deriving DecidableEq, Repr

/-- The report of an outcome, nothing if the session is not over. -/
def report? (code : Text) (s : State) : Option Report :=
  match outcomeMessage code s with
  | .ok t => some ⟨s.isSuccess, t⟩
  | .error _ => none

end RemoteSigning
