import RemoteSigning.Proofs.Session.Chronicle

/-!
# The log of a session

The records of all sessions end up in one log. Whoever reads it finds the lines of one session by its name, and in them
what the records say: the states that the session has been in, why it ended, and when it was given up.

- `linesOf` is the log, `LogLine.Says` what a line says;
- `SessionRecord.message_eq`: a line begins with the name of its session; `filter_linesOf`: so it is found by it;
- `SessionRecord.failing_says_iff`: the record of a failure names its own reason and no other;
- `System.log_reconstructs`: what the lines of a session say.
-/

namespace RemoteSigning

/-! ## The log as it is written -/

/-- The log of all sessions: the wording of what they record. -/
def linesOf (l : List (Text × Output)) : List LogLine := l.filterMap fun o => o.2.record?.map (·.line o.1)

namespace LogLine

/-- The session that a line of the log is about: the second word, up to a colon. -/
def session (w : LogLine) : Text :=
  (w.message.drop (Text.ofString "Session ").length).takeWhile fun c =>
    c ≠ CodePoint.ofChar ' ' ∧ c ≠ CodePoint.ofChar ':'

/-- The line says this of a session, at one of these levels. -/
def Says (w : LogLine) (id : Text) (levels : List LogLevel) (what : Text) : Prop :=
  w.level ∈ levels ∧ ("Session " ++ id ++ what : Text) <+: w.message

instance (w : LogLine) (id : Text) (levels : List LogLevel) (what : Text) : Decidable (w.Says id levels what) :=
  inferInstanceAs (Decidable (_ ∧ _))

end LogLine

namespace FailureReason

theorem mem_all (reason : FailureReason) : reason ∈ all := by cases reason <;> decide

/-- No word, with the bracket behind it, begins another. -/
theorem eq_of_prefix {reason reason' : FailureReason}
    (h : (Text.ofString reason.word ++ ")" : Text) <+: Text.ofString reason'.word ++ ")") : reason = reason' := by
  have hall : ∀ reason ∈ all, ∀ reason' ∈ all,
      (Text.ofString reason.word ++ ")" : Text) <+: Text.ofString reason'.word ++ ")" → reason = reason' := by
    decide +kernel
  exact hall reason reason.mem_all reason' reason'.mem_all h

end FailureReason

namespace SessionRecord

/-- What stands behind the name of the session. -/
def wording : SessionRecord → Text
  | .transition a b => ": " ++ Text.ofString a.name ++ " -> " ++ Text.ofString b.name
  | .failing reason cause => " failed (" ++ Text.ofString reason.word ++ ")" ++ causeText cause
  | .succeeding mobileId => " succeeded" ++ (if mobileId then Text.ofString " via Mobile-ID" else [])
  | .cancelRequested s => ": cancellation requested in " ++ Text.ofString s.name
  | .usingCertificate c => ": using certificate " ++ c.shortFingerprint
  | .foreignHash => ": signature was not produced over this session's hash"

theorem message_eq (r : SessionRecord) (id : Text) : r.message id = "Session " ++ id ++ r.wording := by
  cases r <;> simp [message, wording]

theorem line_says_iff {r : SessionRecord} {id : Text} {levels : List LogLevel} {what : Text} :
    (r.line id).Says id levels what ↔ r.level ∈ levels ∧ what <+: r.wording := by
  rw [LogLine.Says, line, message_eq, List.prefix_append_right_inj]

/-- Behind the name stands a blank if an end is announced, and otherwise a colon. -/
theorem head?_wording (r : SessionRecord) :
    r.wording.head? = some (if r.isEnding then CodePoint.ofChar ' ' else CodePoint.ofChar ':') := by
  cases r <;> rfl

/-- What a line says begins as its wording does. -/
theorem isEnding_of_says {r : SessionRecord} {id : Text} {levels : List LogLevel} {what : Text} {ending : Bool}
    (h : (r.line id).Says id levels what)
    (hwhat : what.head? = some (if ending then CodePoint.ofChar ' ' else CodePoint.ofChar ':')) :
    r.isEnding = ending := by
  obtain ⟨-, rest, hwording⟩ := line_says_iff.mp h
  have hhead := r.head?_wording
  rw [← hwording, List.head?_append, hwhat] at hhead
  cases hr : r.isEnding <;> cases ending <;> first | rfl | exact absurd (hr ▸ Option.some.inj hhead) (by decide)

/-- What does not belong to an end announces none. -/
theorem not_says_of_isClosing {r : SessionRecord} {id : Text} {levels : List LogLevel} {what : Text}
    (h : r.isClosing = false) (hwhat : what.head? = some (CodePoint.ofChar ' ')) : ¬ (r.line id).Says id levels what := by
  intro hsays
  have hending : r.isEnding = true := isEnding_of_says hsays hwhat
  exact nomatch h.symm.trans (isClosing_of_isEnding hending)

/-- The name of a session is read back from its lines. -/
theorem session_line (r : SessionRecord) {id : Text} (hblank : CodePoint.ofChar ' ' ∉ id)
    (hcolon : CodePoint.ofChar ':' ∉ id) : (r.line id).session = id := by
  obtain ⟨rest, hr⟩ := List.head?_eq_some_iff.mp r.head?_wording
  have hname : ∀ d ∈ id, (d ≠ CodePoint.ofChar ' ' ∧ d ≠ CodePoint.ofChar ':' : Bool) = true := by
    intro d hd
    simpa using ⟨fun h => hblank (h ▸ hd), fun h => hcolon (h ▸ hd)⟩
  rw [LogLine.session, line, message_eq, hr, List.append_assoc, List.drop_left, List.takeWhile_append_of_pos hname,
    List.takeWhile_cons_of_neg (by cases r.isEnding <;> decide), List.append_nil]

/-- The record of a failure says its own reason and no other. -/
theorem failing_says_iff {reason reason' : FailureReason} {cause : Cause} {id : Text} :
    ((failing reason cause).line id).Says id [.warning, .error] (" failed (" ++ Text.ofString reason'.word ++ ")") ↔
      reason' = reason := by
  have hown : (" failed (" ++ Text.ofString reason.word ++ ")" : Text) <+: (failing reason cause).wording :=
    List.prefix_append ..
  constructor
  · intro h
    obtain ⟨-, hother⟩ := line_says_iff.mp h
    rcases List.prefix_or_prefix_of_prefix hother hown with h | h <;>
      rw [List.append_assoc, List.append_assoc, List.prefix_append_right_inj] at h
    · exact FailureReason.eq_of_prefix h
    · exact (FailureReason.eq_of_prefix h).symm
  · rintro rfl
    exact line_says_iff.mpr ⟨by cases cause <;> simp [level], hown⟩

/-- The announcement of an end tells of it. -/
theorem Announces.tells {r : SessionRecord} {final : State} (h : r.Announces final) (id : Text) :
    (∀ reason detail, final = .failed reason detail → ∀ reason',
      (r.line id).Says id [.warning, .error] (" failed (" ++ Text.ofString reason'.word ++ ")") ↔
        reason' = reason) ∧
    ∀ mobileId file, final = .succeeded mobileId file → (r.line id).Says id [.info] " succeeded" := by
  cases h with
  | fails =>
    refine ⟨fun reason detail hfinal reason' => ?_, nofun⟩
    obtain ⟨rfl, -⟩ := State.failed.inj hfinal
    exact failing_says_iff
  | succeeds => exact ⟨nofun, fun _ _ _ => line_says_iff.mpr ⟨by simp [level], List.prefix_append ..⟩⟩

/-- Lines that are told by what is recorded in them. -/
theorem filter_line {α : Type} {rs : List SessionRecord} {id : Text} {p : LogLine → Bool}
    {f : SessionRecord → Option α} {w : α → LogLine} (hsome : ∀ r a, f r = some a → p (r.line id) ∧ r.line id = w a)
    (hnone : ∀ r, f r = none → p (r.line id) = false) :
    (rs.map (·.line id)).filter p = (rs.filterMap f).map w := by
  induction rs with
  | nil => rfl
  | cons r rs ih =>
    cases hr : f r with
    | none =>
      rw [List.map_cons, List.filter_cons_of_neg (by simp [hnone r hr]), List.filterMap_cons_none hr, ih]
    | some a =>
      obtain ⟨hp, hline⟩ := hsome r a hr
      rw [List.map_cons, List.filter_cons_of_pos hp, List.filterMap_cons_some hr, List.map_cons, ih, hline]

/-- The lines for developers are the changes of state. -/
theorem filter_debug (rs : List SessionRecord) (id : Text) :
    (rs.map (·.line id)).filter (·.level = .debug) = (rs.filterMap change?).map fun c =>
      ⟨.debug, "Session " ++ id ++ ": " ++ Text.ofString c.1.name ++ " -> " ++ Text.ofString c.2.name⟩ := by
  refine filter_line (fun r a hr => ?_) fun r hr => ?_
  · cases r with
    | transition a b =>
      obtain rfl := Option.some.inj hr
      exact ⟨rfl, rfl⟩
    | _ => cases hr
  · cases r with
    | transition => cases hr
    | failing _ cause => cases cause <;> rfl
    | _ => rfl

/-- The lines that tell of a request to cancel. -/
theorem filter_requests (rs : List SessionRecord) (id : Text) :
    (rs.map (·.line id)).filter (·.Says id [.info] ": cancellation requested in ") =
      (rs.filterMap request?).map fun state =>
        ⟨.info, "Session " ++ id ++ ": cancellation requested in " ++ Text.ofString state.name⟩ := by
  refine filter_line (fun r a hr => ?_) fun r hr => ?_
  · cases r with
    | cancelRequested state =>
      obtain rfl := Option.some.inj hr
      exact ⟨decide_eq_true (line_says_iff.mpr ⟨by simp [level], List.prefix_append ..⟩), rfl⟩
    | _ => cases hr
  · refine decide_eq_false fun h => ?_
    obtain ⟨hlevel, _, hwording⟩ := line_says_iff.mp h
    have hending : r.isEnding = false := isEnding_of_says h rfl
    cases r with
    | cancelRequested => cases hr
    | failing | succeeding => cases hending
    | usingCertificate =>
      -- Both are said for the user, behind a colon.
      have hthird : CodePoint.ofChar 'c' = CodePoint.ofChar 'u' := Option.some.inj (congrArg (·[2]?) hwording)
      exact absurd hthird (by decide)
    | transition | foreignHash => simp [level] at hlevel

end SessionRecord

/-- The lines of one session, in the log of sessions with names that can be read back. -/
theorem filter_linesOf {l : List (Text × Output)}
    (hnames : ∀ o ∈ l, CodePoint.ofChar ' ' ∉ o.1 ∧ CodePoint.ofChar ':' ∉ o.1) (id : Text) :
    (linesOf l).filter (·.session = id) = (recordsOf id l).map (·.line id) := by
  induction l with
  | nil => rfl
  | cons o l ih =>
    obtain ⟨name, o⟩ := o
    have hrest := ih fun o ho => hnames o (List.mem_cons_of_mem _ ho)
    obtain ⟨hblank, hcolon⟩ := hnames _ List.mem_cons_self
    rw [linesOf, List.filterMap_cons, ← linesOf]
    cases hr : o.record? with
    | none =>
      have hrecords : recordsOf id ((name, o) :: l) = recordsOf id l := by
        by_cases hn : name = id <;> simp [recordsOf, seenAt, hn, hr]
      rw [hrecords]
      exact hrest
    | some r =>
      have hsession : (r.line name).session = name := r.session_line hblank hcolon
      by_cases hn : name = id
      · subst hn
        have hrecords : recordsOf name ((name, o) :: l) = r :: recordsOf name l := by
          simp [recordsOf, seenAt, hr]
        rw [hrecords, List.map_cons, ← hrest]
        exact List.filter_cons_of_pos (by simpa using hsession)
      · have hrecords : recordsOf id ((name, o) :: l) = recordsOf id l := by simp [recordsOf, seenAt, hn]
        rw [hrecords, ← hrest]
        exact List.filter_cons_of_neg (by simpa [hsession] using hn)

namespace System

variable {s : System} {c : Coordinator} {id : Text} {x : Session} {l : List (Text × Happening)}

/-- Whatever is put out is put out by a session to which something has happened. -/
theorem exists_of_mem_run {o : Text × Output} (h : o ∈ (s.run l).2) : ∃ e ∈ l, e.1 = o.1 := by
  induction l generalizing s with
  | nil => cases h
  | cons e l ih =>
    obtain ⟨name, e⟩ := e
    rcases List.mem_append.mp h with h | h
    · obtain ⟨_, -, rfl⟩ := List.mem_map.mp h
      exact ⟨_, List.mem_cons_self, rfl⟩
    · obtain ⟨e', he', hname⟩ := ih h
      exact ⟨e', List.mem_cons_of_mem _ he', hname⟩

/-- **The log tells what every session has been through.** Of the lines of one session, those for developers are the
changes of state in its history, in order, none left out and none repeated. Right before a change to a failure stands a
line, a warning or an error, that names the reason of the failure and no other reason, and no other line of the session
names any; right before a change to a success stands the line that tells of it, and no other does. At most one line
tells of a request to cancel: there is none if no request was granted, and otherwise it names the state in which the
first one was granted. And if no name has a blank or a colon in it, then these lines can be told by their text from
those of the other sessions. -/
theorem log_reconstructs (hx : ((init c).run l).1.session? id = some x) :
    let out := ((init c).run l).2
    let rs := recordsOf id out
    let lines := rs.map (·.line id)
    let requests := lines.filter (·.Says id [.info] ": cancellation requested in ")
    let failure (reason : FailureReason) : Text := " failed (" ++ Text.ofString reason.word ++ ")"
    lines.filter (·.level = .debug) = (x.history.zip x.history.tail).map (fun step =>
      ⟨.debug, "Session " ++ id ++ ": " ++ Text.ofString step.1.name ++ " -> " ++ Text.ofString step.2.name⟩) ∧
    (∀ before a b after, rs = before ++ .transition a b :: after →
      (∀ reason detail, b = .failed reason detail → ∃ earlier w, before = earlier ++ [w] ∧
        (∀ reason', (w.line id).Says id [.warning, .error] (failure reason') ↔ reason' = reason) ∧
        ∀ r ∈ earlier ++ after, ∀ reason', ¬ (r.line id).Says id [.warning, .error] (failure reason')) ∧
      ∀ mobileId file, b = .succeeded mobileId file → ∃ earlier w, before = earlier ++ [w] ∧
        (w.line id).Says id [.info] " succeeded" ∧
        ∀ r ∈ earlier ++ after, ¬ (r.line id).Says id [.info] " succeeded") ∧
    (requests = [] ∧ (id, .answered true) ∉ out ∨ ∃ state, FirstGranted c l id state ∧
      requests = [⟨.info, "Session " ++ id ++ ": cancellation requested in " ++ Text.ofString state.name⟩]) ∧
    ((∀ e ∈ l, CodePoint.ofChar ' ' ∉ e.1 ∧ CodePoint.ofChar ':' ∉ e.1) →
      (linesOf out).filter (·.session = id) = lines) := by
  intro out rs lines requests failure
  have hchronicle : x.Chronicle rs := chronicle_of_session? hx
  refine ⟨?_, fun before a b after hsplit => ⟨?_, ?_⟩, ?_, fun hnames => ?_⟩
  · rw [← hchronicle.changes]
    exact SessionRecord.filter_debug rs id
  · rintro reason detail rfl
    obtain ⟨earlier, w, hbefore, hw, hothers⟩ := hchronicle.announced hsplit rfl
    refine ⟨earlier, w, hbefore, (hw.tells id).1 reason detail rfl, fun r hr reason' => ?_⟩
    exact SessionRecord.not_says_of_isClosing (hothers r hr) rfl
  · rintro mobileId file rfl
    obtain ⟨earlier, w, hbefore, hw, hothers⟩ := hchronicle.announced hsplit rfl
    refine ⟨earlier, w, hbefore, (hw.tells id).2 mobileId file rfl, fun r hr => ?_⟩
    exact SessionRecord.not_says_of_isClosing (hothers r hr) rfl
  · have hrequests : requests = _ := SessionRecord.filter_requests rs id
    obtain ⟨hnone, hnot, -⟩ | ⟨state, hstate, hfirst, -⟩ := unasked_or_asked c l id
    · have hnone : rs.filterMap SessionRecord.request? = [] := hnone
      exact .inl ⟨by rw [hrequests, hnone]; rfl, hnot⟩
    · have hstate : rs.filterMap SessionRecord.request? = [state] := hstate
      exact .inr ⟨state, hfirst, by rw [hrequests, hstate]; rfl⟩
  · refine filter_linesOf (fun o ho => ?_) id
    obtain ⟨e, he, hname⟩ := exists_of_mem_run ho
    exact hname ▸ hnames e he

/-- Of two sessions side by side, one is given up: its lines tell its four steps, in which state it was then, and right
before the last step a warning that names the reason. -/
theorem log_reconstructs_abandonedRun :
    let out := ((init ⟨.mode .auto, "en", false⟩).run abandonedRun).2
    let lines := (linesOf out).filter (·.session = Text.ofString "a")
    let warning : LogLine := ⟨.warning, "Session a failed (user_cancelled)"⟩
    (lines.filter (·.level = .debug)).map LogLine.message =
      ["Session a: Idle -> BackendSelecting", "Session a: BackendSelecting -> CertificateFetching",
        "Session a: CertificateFetching -> Phase1Submitting",
        "Session a: Phase1Submitting -> Failed"].map Text.ofString ∧
    (∃ earlier : List LogLine, lines = earlier ++ [warning, ⟨.debug, "Session a: Phase1Submitting -> Failed"⟩] ∧
      ∀ reason : FailureReason,
        (warning.Says "a" [.warning, .error] (" failed (" ++ Text.ofString reason.word ++ ")") ↔
          reason = .userCancelled) ∧
        ∀ w ∈ earlier, ¬ w.Says "a" [.warning, .error] (" failed (" ++ Text.ofString reason.word ++ ")")) ∧
    ∃ state, FirstGranted ⟨.mode .auto, "en", false⟩ abandonedRun "a" state ∧
      lines.filter (·.Says "a" [.info] ": cancellation requested in ") =
        [⟨.info, "Session " ++ Text.ofString "a" ++ ": cancellation requested in " ++ Text.ofString state.name⟩] := by
  intro out lines warning
  obtain ⟨x, hx⟩ : ∃ x, ((init ⟨.mode .auto, "en", false⟩).run abandonedRun).1.session? "a" = some x := ⟨_, rfl⟩
  have hhistory : (((init ⟨.mode .auto, "en", false⟩).run abandonedRun).1.session? "a").map Session.history =
      some [.idle, .backendSelecting, .certificateFetching, .phase1Submitting ⟨[48], none⟩,
        .failed .userCancelled none] := rfl
  rw [hx, Option.map_some] at hhistory
  obtain ⟨before, hrecords, hlast⟩ : ∃ before, recordsOf "a" out =
      before ++ [.transition (.phase1Submitting ⟨[48], none⟩) (.failed .userCancelled none)] ∧
      before.getLast? = some (.failing .userCancelled .none) := ⟨(recordsOf "a" out).dropLast, rfl, rfl⟩
  obtain ⟨hdebug, hends, hrequests, hlines⟩ := log_reconstructs (l := abandonedRun) hx
  obtain ⟨earlier, w, rfl, hreason, hothers⟩ := (hends before _ _ [] hrecords).1 .userCancelled none rfl
  have hw : w.line "a" = warning := by
    rw [List.getLast?_concat] at hlast
    rw [Option.some.inj hlast]
    rfl
  rw [hw] at hreason
  have hlines : lines = (recordsOf "a" out).map (·.line "a") := hlines (by decide)
  rw [hlines]
  refine ⟨?_, ⟨earlier.map (·.line "a"), ?_, fun reason => ⟨hreason reason, fun v hv => ?_⟩⟩, ?_⟩
  · rw [hdebug, Option.some.inj hhistory]
    decide
  · rw [hrecords, List.map_append, List.map_append, List.append_assoc]
    exact congrArg (fun v => _ ++ [v, _]) hw
  · obtain ⟨r, hr, rfl⟩ := List.mem_map.mp hv
    exact hothers r (List.mem_append_left _ hr) reason
  · obtain ⟨-, hnot⟩ | hfirst := hrequests
    · exact absurd (List.mem_of_getElem? (i := 16) rfl) hnot
    · exact hfirst

end System

end RemoteSigning
