import RemoteSigning.Proofs.CommandLine.Asked
import RemoteSigning.Proofs.Rehearsal.Ending

/-!
# What the status of a run means

Where everybody answers, a command that signs ends with a status, and the status is true. It is 2 for a command that asks
for nothing, as it says, and then nothing has been done; and 0 or 1 for the outcome of a session, which the user is told
in one line. The exceptions are the cases that are not provided for: there a fault leaves the program.

- `Performance.Concludes` and `Performance.Complains`: the two ways in which a run ends with a status;
- `Surroundings.Truthful`: the status is true;
- `Surroundings.truthful_iff`: when it is.
-/

namespace RemoteSigning

open Rehearsal

/-- Where every behaviour of a script answers, every call meets one that does. -/
theorem Rehearsal.Script.turn_answers {l : Script} (h : ∀ b ∈ l, b.Answers) (n : Nat) : (l.turn n).Answers := by
  unfold turn
  split
  next b hb =>
    cases hn : l[n]? with
    | some a =>
      rw [hn] at hb
      obtain rfl : a = b := Option.some.inj hb
      exact h a (List.mem_of_getElem? hn)
    | none =>
      rw [hn] at hb
      exact h b (List.mem_of_getLast? hb)
  · exact ⟨by rintro ⟨⟩, by rintro ⟨⟩, uncancelled_error (by rintro ⟨⟩)⟩

namespace CommandLine

/-! ## Ends and lines -/

/-- The outcome of a run is the first end that was noted. -/
theorem outcome?_eq_head? (notes : List Note) : outcome? notes = (notes.filterMap (·.event.outcome?)).head? := by
  rw [List.head?_filterMap, outcome?]
  congr 1

/-- The user saw what the presenter was told. -/
theorem consoleOf_eq (notes : List Note) :
    consoleOf notes = (notes.filterMap (·.event.told?)).foldl Console.report {} := by
  rw [List.foldl_filterMap, consoleOf]
  congr 1
  funext c n
  cases n.event <;> rfl

/-- The program ends with the outcome of a session, and the user is told of it in one line. -/
inductive Performance.Concludes (p : Performance) (language : Text) : State → Prop
  | succeeded {mobileId : Bool} {file : Option Text} {message : Text} :
      outcomeMessage language (.succeeded mobileId file) = .ok message → p.ending = .status 0 →
        p.console.out = asLine message → p.console.err = [] → Concludes p language (.succeeded mobileId file)
  | failed {reason : FailureReason} {detail : Option Text} {message : Text} :
      outcomeMessage language (.failed reason detail) = .ok message → p.ending = .status 1 →
        p.console.out = [] → p.console.err = asLine message → Concludes p language (.failed reason detail)

/-- The program ends with a complaint, before anything is done. -/
structure Performance.Complains (p : Performance) : Prop where
  ending : p.ending = .status 2
  out : p.console.out = []
  err : p.console.err ≠ []
  notes : p.notes = []

theorem complains_complaint (t : Text) : (complaint t).Complains where
  ending := rfl
  out := rfl
  err := by simp [complaint, Console.complain, asLine]
  notes := rfl

namespace Surroundings

variable {w : Surroundings} {args : List Text} {c : Command} {s : Settings} {file : Text} {r : Request}

/-! ## Sessions -/

/-- The service and the user answer, and nothing is cancelled at the card module. -/
structure Responds (w : Surroundings) : Prop where
  service : ∀ entry ∈ w.service, ∀ b ∈ entry.2, b.Answers
  elsewhere : ∀ b ∈ w.elsewhere, b.Answers
  user : ∀ b ∈ w.user, b.Answers
  cardModule : w.cardModule.Steady

/-- The stage after a session has been run for a request. -/
def stage (w : Surroundings) (s : Settings) (r : Request) : Stage :=
  (Stage.init (w.cast s r.document) w.files).openAndRun sessionName r

/-- The keys of all certificates that a session has fetched can be read. -/
def ReadsKeys (w : Surroundings) (s : Settings) (r : Request) : Prop :=
  ∀ x, (w.stage s r).system.session? sessionName = some x →
    ∀ d, .phase1Submitting d ∈ x.history → ∃ found, Certificate.keyType d = .ok found

theorem ready_underWay (hw : w.Responds) (s : Settings) (r : Request) :
    (Stage.underWay (w.cast s r.document) w.files sessionName r).Ready (w.cast s r.document).coordinator where
  answers role n := by
    have hnothing (n : Nat) : (Script.turn [] n).Answers := Script.turn_answers (List.forall_mem_nil _) n
    cases role with
    | service path =>
      refine Script.turn_answers ?_ n
      show ∀ b ∈ ((w.service.find? (·.1 = path)).map (·.2)).getD w.elsewhere, b.Answers
      cases hfound : w.service.find? (·.1 = path) with
      | some entry => exact hw.service entry (List.mem_of_find?_eq_some hfound)
      | none => exact hw.elsewhere
    | user => exact Script.turn_answers hw.user n
    | select | fetch | sign | health | backendFetch | backendSign => exact hnothing n
  steady := hw.cardModule
  coordinator := rfl
  presents := rfl
  told := rfl
  outcomes := rfl

/-- **The program ends with the outcome of its session.** -/
theorem session_concludes (hw : w.Responds) (hk : w.ReadsKeys s r) :
    ∃ x, (w.stage s r).system.session? sessionName = some x ∧ (w.session s r).Concludes s.language x.state := by
  have hfinished : (w.stage s r).Finished _ sessionName := Stage.openAndRun_finished (ready_underWay hw s r)
  cases hfinished with
  | stumbled hm hd hfault =>
    obtain ⟨found, hfound⟩ := hk _ (congrArg (Option.map Member.session) hm) _ hd
    cases hfound.symm.trans hfault
  | @reported x hm hterminal htold houtcomes =>
    obtain ⟨message, hmessage⟩ := (outcomeMessage_isOk_iff s.language x.state).mpr hterminal
    have hreport : report? s.language x.state = some ⟨x.state.isSuccess, message⟩ := by rw [report?, hmessage]
    have hending : (w.session s r).ending = .status (statusOf x.state) := by
      have houtcome := (outcome?_eq_head? (w.stage s r).notes).trans (congrArg List.head? houtcomes)
      show endingOf (w.stage s r).notes = _
      rw [endingOf, houtcome]
      rfl
    have hconsole : (w.session s r).console = Console.report {} ⟨x.state.isSuccess, message⟩ := by
      have hreports := htold.trans (congrArg Option.toList hreport)
      exact (consoleOf_eq (w.stage s r).notes).trans (congrArg (List.foldl Console.report {}) hreports)
    refine ⟨x, congrArg (Option.map Member.session) hm, ?_⟩
    generalize x.state = final at *
    cases final with
    | succeeded => exact .succeeded hmessage hending (by rw [hconsole]; rfl) (by rw [hconsole]; rfl)
    | failed => exact .failed hmessage hending (by rw [hconsole]; rfl) (by rw [hconsole]; rfl)
    | _ => cases hterminal

/-- A session with Mobile-ID fetches no certificate. -/
theorem readsKeys_of_mobileId {p : MobileId} (hr : r.signer = .mobileId p) : w.ReadsKeys s r := by
  intro x hx d hd
  obtain ⟨y, hy, hrequest, hordered⟩ := (Stage.openAndRun_sends (w.cast s r.document) w.files sessionName r).signs
  obtain rfl := Option.some.inj (hy.symm.trans hx)
  cases hordered.not_isOfToken (hrequest ▸ hr) _ hd

/-! ## What the status says -/

/-- The status of a run is true: it tells of the outcome of the session for what was asked, or that nothing was. -/
structure Truthful (w : Surroundings) (s : Settings) (c : Command) (p : Performance) : Prop where
  asked : ∀ r, w.Asks c r → ∃ x, (w.stage (override s c) r).system.session? sessionName = some x ∧
    p.Concludes (override s c).language x.state
  notAsked : (∀ r, ¬ w.Asks c r) → p.Complains

/-- What is not provided for makes a fault leave the program. -/
theorem not_truthful_of_unprovided (hc : Command.parse args = .ok c) (hf : c.file? = some file)
    (hs : Settings.load w.sources = .ok s) (hu : w.Unprovided c) : ¬ w.Truthful s c (w.run args) := by
  have hbegins := begins_run hc hs hf
  intro h
  generalize w.run args = p at hbegins h
  cases hbegins with
  | session hr => exact hr.not_unprovided hu
  | complains _ _ hprovided => exact hprovided hu
  | escapes f hnone => cases (h.notAsked hnone).ending

/-- **The status of a run is true** but for the cases that are not provided for. -/
theorem truthful_iff (hc : Command.parse args = .ok c) (hf : c.file? = some file)
    (hs : Settings.load w.sources = .ok s) (hw : w.Responds) (hk : ∀ r, w.Asks c r → w.ReadsKeys (override s c) r) :
    w.Truthful s c (w.run args) ↔ ¬ w.Unprovided c := by
  refine ⟨fun h hu => not_truthful_of_unprovided hc hf hs hu h, fun hprovided => ?_⟩
  have hbegins := begins_run hc hs hf
  generalize w.run args = p at hbegins
  cases hbegins with
  | @session r hr =>
    refine ⟨fun r' hr' => ?_, fun hnone => absurd hr (hnone r)⟩
    obtain rfl := hr'.unique hr
    exact session_concludes hw (hk r' hr')
  | complains t hnone => exact ⟨fun r hr => absurd hr (hnone r), fun _ => complains_complaint t⟩
  | escapes f hnone hunprovided => exact absurd hunprovided hprovided

theorem responds_withFile (bytes : Bytes) : (withFile bytes).Responds where
  service := List.forall_mem_nil _
  elsewhere b hb := by
    obtain rfl := List.mem_singleton.mp hb
    exact ⟨by rintro ⟨⟩, by rintro ⟨⟩, uncancelled_ok _⟩
  user := List.forall_mem_nil _
  cardModule := CardModule.steady_absent

/-- A person signs a letter. -/
def letterRequest : Request := ⟨"A", .mobileId samplePerson, by decide⟩

theorem truthful_iff_letter :
    ∃ c, Command.parse personSigns = .ok c ∧ (withFile [65]).Asks c letterRequest ∧
      (withFile [65]).Truthful .default c ((withFile [65]).run personSigns) := by
  have ht : Utf8.decode [65] = .ok "A" := by decide
  have hr := asks_personSigns (r := letterRequest) ht (by decide) rfl
  refine ⟨_, parse_personSigns, hr,
    (truthful_iff parse_personSigns rfl rfl (responds_withFile [65]) fun r hr' => ?_).mpr hr.not_unprovided⟩
  obtain rfl := hr'.unique hr
  exact readsKeys_of_mobileId rfl

/-- A file that is no UTF-8 is neither signed nor complained about. -/
theorem not_truthful_notUtf8 :
    Command.parse ["sign", "b.txt"] = .ok (.sign "b.txt" none none) ∧
      (∃ message, ((withFile [0xFF, 0x41]).run ["sign", "b.txt"]).ending =
        .escaped (.other "UnicodeDecodeError" message)) ∧
      ¬ (withFile [0xFF, 0x41]).Truthful .default (.sign "b.txt" none none)
        ((withFile [0xFF, 0x41]).run ["sign", "b.txt"]) := by
  have hc : Command.parse ["sign", "b.txt"] = .ok (.sign "b.txt" none none) := by decide +kernel
  have hr : (withFile [0xFF, 0x41]).files.read "b.txt" = .ok [0xFF, 0x41] := rfl
  obtain ⟨f, hd⟩ : ∃ f, Utf8.decode [0xFF, 0x41] = .error f := ⟨_, rfl⟩
  have hs : Settings.load (withFile [0xFF, 0x41]).sources = .ok .default := rfl
  refine ⟨hc, ⟨some f.message, ?_⟩, not_truthful_of_unprovided hc rfl hs (.notUtf8 rfl hr hd)⟩
  rw [run, hc]
  dsimp only
  rw [hs]
  dsimp only [carryOut]
  rw [signFile, documentOf_of_not_utf8 hr hd]
  rfl

end Surroundings

end CommandLine

end RemoteSigning
