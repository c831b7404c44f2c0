import RemoteSigning.Proofs.Secrecy.Sessions
import RemoteSigning.Proofs.Service.Transcript
import RemoteSigning.Token.Adapter

/-!
# Requests and answers that differ in a signature

A signature passes through an adapter on its way in, and leaves in a request on its way out. Neither looks at it: the
adapter becomes the same whatever the signature is, and the request goes out to the same place or is refused for the
same reason.

- `Adapter.step_alike`: adapters that are given answers which differ in a signature only;
- `Outgoing.prepare_alike`: requests that differ in a signature only.
-/

namespace RemoteSigning

variable {L : Likeness}

/-! ## Adapters -/

/-- Two answers that differ in the value of a signature only. -/
inductive BackendAnswer.Alike (L : Likeness) : BackendAnswer → BackendAnswer → Prop
  | same (a : BackendAnswer) : Alike L a a
  | signature {v w : Bytes} : L.alike v w → Alike L (.signature v) (.signature w)

inductive AdapterHappening.Alike (L : Likeness) : AdapterHappening → AdapterHappening → Prop
  | same (e : AdapterHappening) : Alike L e e
  | answer {r r' : Except Fault BackendAnswer} :
      EndAlike (BackendAnswer.Alike L) r r' → Alike L (.answer r) (.answer r')

inductive AdapterOutput.Alike (L : Likeness) : AdapterOutput → AdapterOutput → Prop
  | same (o : AdapterOutput) : Alike L o o
  | ended {r r' : Except Fault Value} : EndAlike (Value.Alike L) r r' → Alike L (.ended r) (.ended r')

namespace Adapter

theorem conclude_alike (shown : Handle → Text) (w : Waiting) {r r' : Except Fault BackendAnswer}
    (hr : EndAlike (BackendAnswer.Alike L) r r') :
    List.Forall₂ (AdapterOutput.Alike L) (conclude shown w r) (conclude shown w r') := by
  cases hr with
  | error f => exact forall₂_of_eq .same _
  | ok ha =>
    cases ha with
    | same => exact forall₂_of_eq .same _
    | signature hv =>
      cases w with
      | check => exact .nil
      | fetch => exact .nil
      | sign b hash => exact .cons (.ended (.ok (.signature ⟨hv, rfl⟩))) .nil

/-- An adapter becomes the same, whatever the signature is that it is given. -/
theorem step_alike (a : Adapter) (shown : Handle → Text) (who : Caller) {e e' : AdapterHappening} (he : e.Alike L e') :
    (a.step shown who e).1 = (a.step shown who e').1 ∧
      List.Forall₂ (AdapterOutput.Alike L) (a.step shown who e).2 (a.step shown who e').2 := by
  cases he with
  | same => exact ⟨rfl, forall₂_of_eq .same _⟩
  | answer hr =>
    unfold step
    dsimp only
    split
    · exact ⟨rfl, .nil⟩
    · exact ⟨rfl, conclude_alike shown _ hr⟩

end Adapter

/-! ## Requests -/

namespace Outgoing

/-- A request without surrogates goes out, unless a member is refused or there is no place to send it to. -/
theorem prepare_eq {o : Outgoing} (h : ∀ m ∈ o.told, m.2.isScalar = true) (address : Text) :
    o.prepare address = (o.checkMembers).bind fun _ =>
      ((requestUrl address o.endpoint).mapError UrlFault.toFault).bind fun url =>
        (url.checkPlace.mapError UrlFault.toFault).bind fun _ => .ok (url, o.text) := by
  unfold prepare
  cases hf : o.faults with
  | cons f fs =>
    have hcheck : o.checkMembers = .error (.unwritable (f :: fs)) := by rw [checkMembers, hf]
    rw [hcheck]
    rfl
  | nil =>
    rw [body_eq h hf]
    rfl

/-- Whether a signature is sent does not depend on its value, as long as there is one. -/
theorem faults_alike {s s' : Signature} (h : s.Alike L s') : (phase2 s).faults = (phase2 s').faults := by
  have hproblem (s : Signature) : problem? s.encoded = if s.value = [] then some .stringTooShort else none := by
    have hscalar : (Base64.encode s.value).isScalar = true := Text.isScalar_of_isAscii (isAscii_encode s.value)
    by_cases hv : s.value = []
    · simp [problem?, Signature.encoded, hv, Base64.encode, Text.isScalar]
    · simp [problem?, Signature.encoded, hscalar, hv, Base64.encode_ne_nil hv]
  simp only [faults, hproblem, L.nil_iff h.value]

/-- Two requests go out to the same place, or are refused for the same reason. -/
inductive SentAlike (o o' : Outgoing) : Except Fault (Url × Text) → Except Fault (Url × Text) → Prop
  | sent (url : Url) : SentAlike o o' (.ok (url, o.text)) (.ok (url, o'.text))
  | refused (f : Fault) : SentAlike o o' (.error f) (.error f)

/-- **Requests that differ in a signature** go out to the same place, or are refused for the same reason. -/
theorem prepare_alike {o o' : Outgoing} (h : o.Alike L o') (address : Text) :
    SentAlike o o' (o.prepare address) (o'.prepare address) := by
  cases h with
  | same =>
    cases hp : o.prepare address with
    | error f => exact .refused f
    | ok sent =>
      obtain ⟨url, body⟩ := sent
      obtain rfl := eq_text_of_prepare hp
      exact .sent url
  | @phase2 s s' hs =>
    have hcheck : (phase2 s).checkMembers = (phase2 s').checkMembers := by
      rw [checkMembers, checkMembers, faults_alike hs]
    have hendpoint : (phase2 s).endpoint = (phase2 s').endpoint := rfl
    -- base64 has no surrogates, so that the texts of both requests can be written
    rw [prepare_eq (isScalar_told_phase2 s), prepare_eq (isScalar_told_phase2 s'), hcheck, hendpoint]
    cases (phase2 s').checkMembers with
    | error f => exact .refused f
    | ok =>
      cases (requestUrl address (phase2 s').endpoint).mapError UrlFault.toFault with
      | error f => exact .refused f
      | ok url =>
        cases hplace : url.checkPlace.mapError UrlFault.toFault with
        | error f =>
          simp only [Except.bind, hplace]
          exact .refused f
        | ok =>
          simp only [Except.bind, hplace]
          exact .sent url

end Outgoing

end RemoteSigning
