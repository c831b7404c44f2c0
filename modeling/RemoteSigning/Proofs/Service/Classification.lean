import RemoteSigning.Proofs.Algorithm.Identifiers
import RemoteSigning.Proofs.Json.Nesting
import RemoteSigning.Proofs.Service.Transcript

/-!
# What the end of a request calls for

An answer of the service is a reply, or the service is at fault: it did not answer, it refused, what it said is no JSON,
or it is JSON that is no reply. What is said here of JSON leaves the nesting open; the reader does not, and gives up on
an answer that is nested too deeply for it. That is the only way in which a call can end with neither a reply nor a
fault of the service.

- `Reply.IsIn`: the members of an answer hold a reply;
- `readMembers_eq_ok_iff`: the reply that is read is the one that they hold;
- `Accounted`: how a call ends, given how its request ends;
- `accounted_iff`: calls end in this way, unless the answer is nested too deeply;
- `not_accounted_deepAnswer`: an answer that is.
-/

namespace RemoteSigning

/-! ## Replies -/

/-- The name of a file may be left out, or be null. -/
inductive Completion.FileIs : Option Json → Option Text → Prop
  | absent : FileIs none none
  | null : FileIs (some .null) none
  | text (t : Text) : FileIs (some (.text t)) (some t)

/-- The members of an answer hold a reply to an exchange. -/
inductive Reply.IsIn : Endpoint → List (Text × Json) → Reply → Prop
  | hash {members : List (Text × Json)} {hash algorithm : Text} {h : HashToSign} :
      Json.get? members "hash" = some (.text hash) → hash ≠ [] →
      Json.get? members "algo" = some (.text algorithm) → algorithm ≠ [] →
      HashToSign.read hash algorithm = .ok h → IsIn .phase1 members (.hash h)
  | completion {e : Endpoint} {members : List (Text × Json)} {error : Text} {file : Option Text} : e ≠ .phase1 →
      Json.get? members "error" = some (.text error) → Completion.FileIs (Json.get? members "signedfile") file →
      IsIn e members (.completion ⟨error, file⟩)

/-! ## Names of algorithms have no surrogates -/

theorem CodePoint.isBlank_of_isSurrogate {c : CodePoint} (h : c.isSurrogate = true) : c.isBlank = false := by
  simp only [isSurrogate, Bool.and_eq_true, decide_eq_true_eq] at h
  simp only [isBlank, isWhiteSpace, Bool.or_eq_false_iff, Bool.and_eq_false_iff, decide_eq_false_iff_not,
    beq_eq_false_iff_ne]
  omega

theorem CodePoint.shortenS_of_isSurrogate {c : CodePoint} (h : c.isSurrogate = true) : c.shortenS = c := by
  refine shortenS_of_ne ?_
  rintro rfl
  exact absurd h (by decide)

theorem Algorithm.isScalar_of_parse? {t : Text} {a : Algorithm} (h : parse? t = some a) : t.isScalar = true := by
  have hascii : (Text.ofString a.identifier).isAscii = true := List.all_eq_true.mpr a.isPlainWord_identifier.ascii
  refine Text.isScalar_iff.mpr fun c hc => Bool.eq_false_iff.mpr fun hsurrogate => ?_
  have hself := CodePoint.shortenS_of_isSurrogate hsurrogate
  have hc' : c ∈ t.map CodePoint.shortenS := List.mem_map.mpr ⟨c, hc, hself⟩
  rcases (parse?_eq_some_iff.mp h).blank_or_ascii hascii c hc' with hblank | hc
  · exact Bool.false_ne_true ((CodePoint.isBlank_of_isSurrogate hsurrogate).symm.trans hblank)
  · exact Bool.false_ne_true ((CodePoint.isSurrogate_of_isAscii hc).symm.trans hsurrogate)

/-- A hash that is accepted came in texts without surrogates. -/
theorem HashToSign.isScalar_of_read {hash algorithm : Text} {h : HashToSign} (hr : read hash algorithm = .ok h) :
    hash.isScalar = true ∧ algorithm.isScalar = true := by
  unfold read at hr
  split at hr
  · cases hr
  next hascii =>
    split at hr
    · cases hr
    · cases hr
    · split at hr
      · cases hr
      next halgorithm =>
        exact ⟨Text.isScalar_of_isAscii (by simpa using hascii), Algorithm.isScalar_of_parse? halgorithm⟩

/-! ## Members of answers -/

theorem textProblem?_true_eq_none {o : Option Json} :
    textProblem? true o = none ↔ ∃ t, o = some (.text t) ∧ t ≠ [] ∧ t.isScalar = true := by
  constructor
  · intro h
    obtain ⟨t, rfl⟩ : ∃ t, o = some (.text t) := ⟨_, eq_text_of_textProblem? h⟩
    simp only [textProblem?, Outgoing.problem?, if_true] at h
    split at h
    · cases h
    next hscalar =>
      split at h
      · cases h
      next hne => exact ⟨t, rfl, by simpa using hne, by simpa using hscalar⟩
  · rintro ⟨t, rfl, hne, hscalar⟩
    simp [textProblem?, Outgoing.problem?, hne, hscalar]

/-- The two members of a first answer are read if both are texts that are not empty and have no surrogates. -/
theorem Phase1Answer.read_eq_ok_iff {members : List (Text × Json)} {a : Phase1Answer} :
    read members = .ok a ↔
      Json.get? members "hash" = some (.text a.hash) ∧ a.hash ≠ [] ∧ a.hash.isScalar = true ∧
        Json.get? members "algo" = some (.text a.algorithm) ∧ a.algorithm ≠ [] ∧ a.algorithm.isScalar = true := by
  constructor
  · intro h
    unfold read at h
    dsimp only at h
    split at h
    next hn =>
      obtain ⟨hhash, halgo⟩ : textProblem? true (Json.get? members "hash") = none ∧
          textProblem? true (Json.get? members "algo") = none := by simpa using hn
      obtain ⟨hash, hhash, hhash'⟩ := textProblem?_true_eq_none.mp hhash
      obtain ⟨algorithm, halgo, halgo'⟩ := textProblem?_true_eq_none.mp halgo
      obtain rfl := Except.ok.inj h
      rw [hhash, halgo]
      exact ⟨rfl, hhash'.1, hhash'.2, rfl, halgo'⟩
    · cases h
  · rintro ⟨hhash, hhash', hhash'', halgo, halgo', halgo''⟩
    have hh := textProblem?_true_eq_none.mpr ⟨a.hash, hhash, hhash', hhash''⟩
    have ha := textProblem?_true_eq_none.mpr ⟨a.algorithm, halgo, halgo', halgo''⟩
    unfold read
    dsimp only
    rw [hh, ha, hhash, halgo]
    rfl

/-- The two members of a completion are read if the one is a text, and the other names a file or is left out. -/
theorem Completion.read_eq_ok_iff {members : List (Text × Json)} {c : Completion} :
    read members = .ok c ↔
      Json.get? members "error" = some (.text c.error) ∧ FileIs (Json.get? members "signedfile") c.signedFile := by
  constructor
  · intro h
    obtain ⟨herror, ⟨hfile | hfile, hc⟩ | ⟨t, hfile, hc⟩⟩ := of_read h
    · exact ⟨herror, by rw [hfile, hc]; exact .absent⟩
    · exact ⟨herror, by rw [hfile, hc]; exact .null⟩
    · exact ⟨herror, by rw [hfile, hc]; exact .text t⟩
  · obtain ⟨error, file⟩ := c
    rintro ⟨herror, hfile⟩
    dsimp only at herror hfile
    unfold read
    dsimp only
    generalize Json.get? members "signedfile" = found at hfile ⊢
    rw [herror]
    cases hfile <;> rfl

/-- The members of an answer to the first request are read as a hash. -/
theorem readMembers_phase1 {members : List (Text × Json)} {r : Except Fault Reply}
    (h : readMembers .phase1 members = r) :
    (∃ fs, Phase1Answer.read members = .error fs ∧ r = .error (.service (.malformed .phase1 fs))) ∨
    ∃ a, Phase1Answer.read members = .ok a ∧
      ((∃ x, HashToSign.read a.hash a.algorithm = .error x ∧ r = .error (.service (.refusedHash .phase1 x))) ∨
        ∃ x, HashToSign.read a.hash a.algorithm = .ok x ∧ r = .ok (.hash x)) := by
  subst h
  unfold readMembers
  dsimp only
  cases Phase1Answer.read members with
  | error fs => exact .inl ⟨fs, rfl, rfl⟩
  | ok a =>
    refine .inr ⟨a, rfl, ?_⟩
    dsimp only
    cases HashToSign.read a.hash a.algorithm with
    | error x => exact .inl ⟨x, rfl, rfl⟩
    | ok x => exact .inr ⟨x, rfl, rfl⟩

/-- The members of the other answers are read as a completion. -/
theorem readMembers_completion {e : Endpoint} (he : e ≠ .phase1) {members : List (Text × Json)}
    {r : Except Fault Reply} (h : readMembers e members = r) :
    (∃ fs, Completion.read members = .error fs ∧ r = .error (.service (.malformed e fs))) ∨
    ∃ c, Completion.read members = .ok c ∧ r = .ok (.completion c) := by
  subst h
  unfold readMembers
  cases e with
  | phase1 => exact absurd rfl he
  | phase2 | mobileId =>
    dsimp only
    cases Completion.read members with
    | error fs => exact .inl ⟨fs, rfl, rfl⟩
    | ok c => exact .inr ⟨c, rfl, rfl⟩

/-- **What is read of the members of an answer** is the reply that they hold. -/
theorem readMembers_eq_ok_iff {e : Endpoint} {members : List (Text × Json)} {r : Reply} :
    readMembers e members = .ok r ↔ r.IsIn e members := by
  constructor
  · intro h
    by_cases he : e = .phase1
    · subst he
      obtain ⟨_, -, hr⟩ | ⟨a, ha, ⟨_, -, hr⟩ | ⟨x, hx, hr⟩⟩ := readMembers_phase1 h
      · cases hr
      · cases hr
      · obtain rfl := Except.ok.inj hr
        obtain ⟨hhash, hhash', -, halgo, halgo', -⟩ := Phase1Answer.read_eq_ok_iff.mp ha
        exact .hash hhash hhash' halgo halgo' hx
    · obtain ⟨_, -, hr⟩ | ⟨c, hc, hr⟩ := readMembers_completion he h
      · cases hr
      · obtain rfl := Except.ok.inj hr
        obtain ⟨herror, hfile⟩ := Completion.read_eq_ok_iff.mp hc
        exact .completion he herror hfile
  · intro h
    cases h with
    | @hash _ hash algorithm x hhash hhash' halgo halgo' hx =>
      obtain ⟨hhash'', halgo''⟩ := HashToSign.isScalar_of_read hx
      have ha : Phase1Answer.read members = .ok ⟨hash, algorithm⟩ :=
        Phase1Answer.read_eq_ok_iff.mpr ⟨hhash, hhash', hhash'', halgo, halgo', halgo''⟩
      simp only [readMembers, ha, hx]
    | @completion _ _ error file he herror hfile =>
      have hc : Completion.read members = .ok ⟨error, file⟩ := Completion.read_eq_ok_iff.mpr ⟨herror, hfile⟩
      cases e with
      | phase1 => exact absurd rfl he
      | phase2 => simp only [readMembers, hc]
      | mobileId => simp only [readMembers, hc]

/-- Members that hold no reply are a fault of the service. -/
theorem readMembers_eq_error {e : Endpoint} {members : List (Text × Json)} {f : Fault}
    (h : readMembers e members = .error f) :
    ∃ s : ServiceFault, f = .service s ∧ s.endpoint = e ∧ s.isProtocol = true := by
  by_cases he : e = .phase1
  · subst he
    obtain ⟨fs, -, hr⟩ | ⟨_, -, ⟨x, -, hr⟩ | ⟨_, -, hr⟩⟩ := readMembers_phase1 h
    · exact ⟨.malformed .phase1 fs, Except.error.inj hr, rfl, rfl⟩
    · exact ⟨.refusedHash .phase1 x, Except.error.inj hr, rfl, rfl⟩
    · cases hr
  · obtain ⟨fs, -, hr⟩ | ⟨_, -, hr⟩ := readMembers_completion he h
    · exact ⟨.malformed e fs, Except.error.inj hr, rfl, rfl⟩
    · cases hr

/-! ## Answers -/

/-- A body is JSON for a value, however deeply that is nested. -/
def IsJsonFor (body : Bytes) (v : Json) : Prop :=
  ∃ t depth, decodeDetected body = .ok t ∧ Json.read ⟨Json.Limits.default.digits, depth⟩ t = .ok v

/-- A body is nested more deeply than is read. -/
def IsTooDeepBody (body : Bytes) : Prop := ∃ t, decodeDetected body = .ok t ∧ Json.NestedTooDeeply .default t

/-- How a call ends, given how its request ends: with the reply that the answer holds, or with a fault of the service
that says what is wrong. -/
inductive Accounted (e : Endpoint) : Except Fault HttpAnswer → Except Fault Reply → Prop
  | noAnswer (kind : Text) (message : Option Text) {f : ServiceFault} :
      f.endpoint = e → f.isProtocol = false → f.status? = none →
      Accounted e (.error (.network kind message)) (.error (.service f))
  | refused {a : HttpAnswer} {f : ServiceFault} : a.isSuccess = false →
      f.endpoint = e → f.isProtocol = false → f.status? = some a.status →
      Accounted e (.ok a) (.error (.service f))
  | notJson {a : HttpAnswer} {f : ServiceFault} : a.isSuccess = true → (∀ v, ¬ IsJsonFor a.body v) →
      f.endpoint = e → f.isProtocol = false → f.status? = none →
      Accounted e (.ok a) (.error (.service f))
  | notObject {a : HttpAnswer} {v : Json} {f : ServiceFault} : a.isSuccess = true → IsJsonFor a.body v →
      (∀ members, v ≠ .object members) → f.endpoint = e → f.isProtocol = true →
      Accounted e (.ok a) (.error (.service f))
  | noReply {a : HttpAnswer} {members : List (Text × Json)} {f : ServiceFault} : a.isSuccess = true →
      IsJsonFor a.body (.object members) → (∀ r : Reply, ¬ r.IsIn e members) → f.endpoint = e → f.isProtocol = true →
      Accounted e (.ok a) (.error (.service f))
  | reply {a : HttpAnswer} {members : List (Text × Json)} {r : Reply} : a.isSuccess = true →
      IsJsonFor a.body (.object members) → r.IsIn e members → Accounted e (.ok a) (.ok r)

/-- A body is JSON, or no JSON, or nested too deeply. -/
theorem readBody_cases (e : Endpoint) (body : Bytes) :
    (∃ v, IsJsonFor body v ∧ readBody e body = .ok v) ∨
    ((∀ v, ¬ IsJsonFor body v) ∧ ∃ m, readBody e body = .error (.service (.notJson e m))) ∨
    (IsTooDeepBody body ∧ ∃ m, readBody e body = .error (.other "RecursionError" m)) := by
  unfold readBody
  cases hd : decodeDetected body with
  | error f =>
    refine .inr (.inl ⟨?_, f.message, rfl⟩)
    rintro v ⟨t, depth, ht, -⟩
    cases hd.symm.trans ht
  | ok t =>
    dsimp only
    cases hr : Json.read .default t with
    | ok v => exact .inl ⟨v, ⟨t, _, hd, hr⟩, rfl⟩
    | error f =>
      by_cases hdeep : ∃ container, f = .tooDeep container
      · obtain ⟨container, rfl⟩ := hdeep
        exact .inr (.inr ⟨⟨t, hd, container, hr⟩, _, rfl⟩)
      · have hshallow : ¬ Json.NestedTooDeeply .default t := by
          rintro ⟨container, hc⟩
          exact hdeep ⟨container, Except.error.inj (hr.symm.trans hc)⟩
        refine .inr (.inl ⟨?_, f.message, ?_⟩)
        · rintro v ⟨t', depth, ht, hv⟩
          obtain rfl := Except.ok.inj (hd.symm.trans ht)
          cases hr.symm.trans (Json.read_of_read hv hshallow)
        · cases f with
          | tooDeep container => exact absurd ⟨container, rfl⟩ hdeep
          | malformed => rfl
          | tooManyDigits => rfl

theorem readBody_of_isTooDeepBody {body : Bytes} (h : IsTooDeepBody body) (e : Endpoint) :
    ∃ m, readBody e body = .error (.other "RecursionError" m) := by
  obtain ⟨t, ht, container, hc⟩ := h
  refine ⟨some (Json.Fault.tooDeep container).message, ?_⟩
  rw [readBody, ht]
  dsimp only
  rw [hc]
  rfl

/-- An answer that is not nested too deeply ends the call as it calls for. -/
theorem accounted_readHttpAnswer {e : Endpoint} {a : HttpAnswer}
    (h : ¬ (a.isSuccess = true ∧ IsTooDeepBody a.body)) : Accounted e (.ok a) (readHttpAnswer e a) := by
  by_cases hs : a.isSuccess = true
  · rw [readHttpAnswer, hs]
    simp only [Bool.not_true, Bool.false_eq_true, if_false]
    rcases readBody_cases e a.body with ⟨v, hv, hb⟩ | ⟨hnone, m, hb⟩ | ⟨hdeep, -⟩
    · rw [hb]
      split
      next f heq => cases heq
      next members heq =>
        obtain rfl := Except.ok.inj heq
        cases hm : readMembers e members with
        | ok r => exact .reply hs hv (readMembers_eq_ok_iff.mp hm)
        | error f =>
          obtain ⟨f, rfl, he, hf⟩ := readMembers_eq_error hm
          refine .noReply hs hv (fun r hr => ?_) he hf
          cases hm.symm.trans (readMembers_eq_ok_iff.mpr hr)
      next w hw heq =>
        obtain rfl := Except.ok.inj heq
        exact .notObject hs hv (fun members hm => hw members hm) rfl rfl
    · rw [hb]
      exact .notJson hs hnone rfl rfl rfl
    · exact absurd ⟨hs, hdeep⟩ h
  · rw [readHttpAnswer_of_not_success (by simpa using hs)]
    exact .refused (by simpa using hs) rfl rfl rfl

/-- No call is to end with a fault that is none of the service. -/
theorem Accounted.ne_other {e : Endpoint} {outcome : Except Fault HttpAnswer} {kind : Text} {m : Option Text} :
    ¬ Accounted e outcome (.error (.other kind m)) := fun h => nomatch h

/-- **Calls end as the ends of their requests call for**, unless the answer is nested too deeply, or it is not looked
into because the kind of the URL cannot be told. Too deep is what lies beyond the depth that `Json.Limits.default`
assumes. -/
theorem Outgoing.accounted_iff {o : Outgoing} {address : Text} {url : Url} {body : Text}
    (hp : o.prepare address = .ok (url, body)) {outcome : Except Fault HttpAnswer}
    (hout : ∀ f, outcome = .error f → ∃ kind message, f = .network kind message) :
    Accounted o.endpoint outcome (o.conclude address outcome) ↔
      ∀ a, outcome = .ok a → url.hasKind = true ∧ ¬ (a.isSuccess = true ∧ IsTooDeepBody a.body) := by
  have hconclude : o.conclude address outcome = readOutcome o.endpoint (outcome.bind url.accept) := by
    rw [conclude, hp]
    rfl
  rw [hconclude]
  cases outcome with
  | error f =>
    obtain ⟨kind, message, rfl⟩ := hout f rfl
    exact ⟨fun _ a ha => absurd ha (by simp), fun _ => .noAnswer kind message rfl rfl rfl⟩
  | ok a =>
    have haccept : Except.bind (.ok a) url.accept = url.accept a := rfl
    rw [haccept, Url.accept]
    by_cases hk : url.hasKind = true
    · rw [if_pos hk, readOutcome]
      refine ⟨fun h b hb => ?_, fun h => accounted_readHttpAnswer (h a rfl).2⟩
      obtain rfl := Except.ok.inj hb
      refine ⟨hk, ?_⟩
      rintro ⟨hs, hdeep⟩
      obtain ⟨m, hm⟩ := readBody_of_isTooDeepBody hdeep o.endpoint
      have hread : readHttpAnswer o.endpoint a = .error (.other "RecursionError" m) := by
        simp only [readHttpAnswer, hs, Bool.not_true, Bool.false_eq_true, if_false, hm]
      exact Accounted.ne_other (hread ▸ h)
    · rw [if_neg hk]
      exact ⟨fun h => absurd h Accounted.ne_other, fun h => absurd (h a rfl).1 hk⟩

/-- A request to sign with Mobile-ID. -/
def sampleExchange : Outgoing := .mobileId "60001019906" "+37200000766" "tekst"

theorem exists_prepare_sampleExchange :
    ∃ url body, sampleExchange.prepare "https://signing.test" = .ok (url, body) ∧ url.hasKind = true := by
  have h : (sampleExchange.prepare "https://signing.test").toOption.any (·.1.hasKind) = true := by decide +kernel
  cases hp : sampleExchange.prepare "https://signing.test" with
  | error f => rw [hp] at h; cases h
  | ok sent => exact ⟨sent.1, sent.2, rfl, by rw [hp] at h; exact h⟩

/-- An answer of success with an empty error. -/
def succeededAnswer : HttpAnswer :=
  ⟨200, Utf8.encodeAll (Json.render .request (.object (Json.texts [("error", [])])))⟩

theorem decodeDetected_succeededAnswer :
    decodeDetected succeededAnswer.body = .ok (Json.render .request (.object (Json.texts [("error", [])]))) :=
  Json.decodeDetected_render_texts (by decide) (by decide) (by decide)

/-- The empty error ends the call as it calls for. -/
theorem accounted_iff_succeededAnswer :
    Accounted .mobileId (.ok succeededAnswer)
      (sampleExchange.conclude "https://signing.test" (.ok succeededAnswer)) := by
  obtain ⟨url, body, hp, hk⟩ := exists_prepare_sampleExchange
  have hread : Json.read .default (Json.render .request (.object (Json.texts [("error", [])]))) =
      .ok (.object (Json.texts [("error", [])])) := Json.read_render_texts (by decide) (by simp)
  refine (Outgoing.accounted_iff hp (fun f hf => absurd hf (by simp))).mpr fun a ha => ?_
  obtain rfl := Except.ok.inj ha
  refine ⟨hk, ?_⟩
  rintro ⟨-, t, ht, container, hc⟩
  obtain rfl := Except.ok.inj (decodeDetected_succeededAnswer.symm.trans ht)
  cases hread.symm.trans hc

/-! ## Answers that are nested too deeply -/

/-- The text of a nested array comes back from its bytes. -/
theorem decodeDetected_nestedText (n : Nat) :
    decodeDetected (Utf8.encodeAll (Json.nestedText (n + 3))) = .ok (Json.nestedText (n + 3)) := by
  have hbracket : ∀ c ∈ Json.nestedText (n + 3), c = CodePoint.ofChar '[' ∨ c = CodePoint.ofChar ']' := fun c hc =>
    (List.mem_append.mp hc).imp List.eq_of_mem_replicate List.eq_of_mem_replicate
  have hscalar : (Json.nestedText (n + 3)).isScalar = true :=
    Text.isScalar_iff.mpr fun c hc => by rcases hbracket c hc with rfl | rfl <;> decide
  have hshape : Json.nestedText (n + 3) = CodePoint.ofChar '[' :: CodePoint.ofChar '[' :: CodePoint.ofChar '[' ::
      CodePoint.ofChar '[' :: (List.replicate n (CodePoint.ofChar '[') ++
        List.replicate (n + 4) (CodePoint.ofChar ']')) := by
    simp only [Json.nestedText, List.replicate_succ, List.cons_append]
  rw [hshape] at hscalar ⊢
  exact decodeDetected_encodeAll hscalar (by decide) (by decide) (by decide)

/-- An answer of success whose body is an array in an array, and so on, twenty thousand of them. -/
def deepAnswer : HttpAnswer := ⟨200, Utf8.encodeAll (Json.nestedText (19996 + 3))⟩

theorem isJsonFor_deepAnswer : IsJsonFor deepAnswer.body (Json.nested (19996 + 3)) :=
  ⟨_, _, decodeDetected_nestedText 19996, Json.read_nestedText _ 0 (19996 + 3)⟩

theorem isTooDeepBody_deepAnswer : IsTooDeepBody deepAnswer.body :=
  ⟨_, decodeDetected_nestedText 19996, Json.nestedTooDeeply_nestedText _ (by decide)⟩

/-- **An answer that is nested too deeply** is JSON, though no object; but the call ends with a fault that is none of
the service. -/
theorem not_accounted_deepAnswer :
    deepAnswer.isSuccess = true ∧ IsJsonFor deepAnswer.body (Json.nested (19996 + 3)) ∧
    (∃ m, sampleExchange.conclude "https://signing.test" (.ok deepAnswer) = .error (.other "RecursionError" m)) ∧
    ¬ Accounted .mobileId (.ok deepAnswer) (sampleExchange.conclude "https://signing.test" (.ok deepAnswer)) := by
  obtain ⟨url, body, hp, hk⟩ := exists_prepare_sampleExchange
  obtain ⟨m, hm⟩ := readBody_of_isTooDeepBody isTooDeepBody_deepAnswer .mobileId
  have hread : readHttpAnswer .mobileId deepAnswer = .error (.other "RecursionError" m) := by
    have hs : deepAnswer.isSuccess = true := rfl
    simp only [readHttpAnswer, hs, Bool.not_true, Bool.false_eq_true, if_false, hm]
  have hend : sampleExchange.conclude "https://signing.test" (.ok deepAnswer) = .error (.other "RecursionError" m) := by
    rw [Outgoing.conclude, hp, ← hread]
    simp only [Except.bind, Endpoint.conclude, Url.accept, if_pos hk]
    rfl
  exact ⟨rfl, isJsonFor_deepAnswer, ⟨m, hend⟩, by rw [hend]; exact Accounted.ne_other⟩

end RemoteSigning
