import RemoteSigning.Text.Digits

/-!
# Signing requests

A request is a document, which is not empty, and a signer. The signer is whoever holds the local token, or a person
with a personal code and a phone number who signs with Mobile-ID.

- `MobileId.make` and `Request.make` check what they are given; the types hold the outcome;
- `isNumeral_of_ascii`: digits of ASCII in the right number are a numeral.
-/

namespace RemoteSigning

/-- A text without one line feed at its end, if there is one. -/
def Text.dropLineFeed (t : Text) : Text :=
  match t.reverse with
  | c :: rest => if c = '\n' then rest.reverse else t
  | [] => t

/-- A text of decimal digits, their number within bounds. -/
def Text.isNumeral (least greatest : Nat) (t : Text) : Bool :=
  t.all CodePoint.isDecimal && least ≤ t.length && t.length ≤ greatest

theorem Text.isNumeral_of_ascii {t : Text} {least greatest : Nat} (h : t.all CodePoint.isAsciiDigit)
    (h₁ : least ≤ t.length) (h₂ : t.length ≤ greatest) : t.isNumeral least greatest = true := by
  simp only [isNumeral, Bool.and_eq_true, decide_eq_true_eq, List.all_eq_true] at h ⊢
  exact ⟨⟨fun c hc => CodePoint.isDecimal_of_isAsciiDigit (h c hc), h₁⟩, h₂⟩

/-- A personal code: eleven digits, and perhaps a line feed. -/
def isPersonalCode (t : Text) : Bool := t.dropLineFeed.isNumeral 11 11

/-- A phone number: seven to fifteen digits, perhaps after a plus sign, and perhaps a line feed. -/
def isPhoneNumber (t : Text) : Bool :=
  match t.dropLineFeed with
  | c :: rest => if c = '+' then Text.isNumeral 7 15 rest else Text.isNumeral 7 15 (c :: rest)
  | [] => false

inductive RequestFault where
  | personalCode
  | phoneNumber
  | emptyDocument
  deriving DecidableEq, Repr

/-- The wording of a refusal. -/
def RequestFault.message : RequestFault → String
  | .personalCode => "Personal code must be 11 digits"
  | .phoneNumber => "Phone number must be digits with an optional leading +"
  | .emptyDocument => "Cannot sign an empty document"

/-- A person who signs with Mobile-ID. -/
structure MobileId where
  personalCode : Text
  phoneNumber : Text
  isPersonalCode_personalCode : isPersonalCode personalCode = true
  isPhoneNumber_phoneNumber : isPhoneNumber phoneNumber = true
  deriving DecidableEq, Repr

/-- Checks the personal code, then the phone number. -/
def MobileId.make (personalCode phoneNumber : Text) : Except RequestFault MobileId :=
  if h : isPersonalCode personalCode = true then
    if h' : isPhoneNumber phoneNumber = true then .ok ⟨personalCode, phoneNumber, h, h'⟩
    else .error .phoneNumber
  else .error .personalCode

inductive Signer where
  /-- Whoever holds the local token. -/
  | localToken
  /-- A person with Mobile-ID. -/
  | mobileId (person : MobileId)
  deriving DecidableEq, Repr

/-- A document to sign, and the signer. -/
structure Request where
  document : Text
  signer : Signer
  document_ne_nil : document ≠ []
  deriving DecidableEq, Repr

namespace Request

/-- Checks that there is something to sign. -/
def make (document : Text) (signer : Signer) : Except RequestFault Request :=
  if h : document ≠ [] then .ok ⟨document, signer, h⟩ else .error .emptyDocument

/-- Checks the person, if there is one, and then the document. Without a person the local token signs. -/
def ofPerson (document : Text) (person : Option (Text × Text)) : Except RequestFault Request :=
  match person with
  | none => make document .localToken
  | some (personalCode, phoneNumber) =>
    match MobileId.make personalCode phoneNumber with
    | .ok p => make document (.mobileId p)
    | .error e => .error e

/-- The request goes to Mobile-ID and not to the local token. -/
def usesMobileId (r : Request) : Bool :=
  match r.signer with
  | .localToken => false
  | .mobileId _ => true

theorem usesMobileId_of_localToken {r : Request} (h : r.signer = .localToken) : r.usesMobileId = false := by
  rw [usesMobileId, h]

theorem usesMobileId_of_mobileId {r : Request} {p : MobileId} (h : r.signer = .mobileId p) : r.usesMobileId = true := by
  rw [usesMobileId, h]

end Request

end RemoteSigning
