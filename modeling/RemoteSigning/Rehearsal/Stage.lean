import RemoteSigning.Rehearsal.Script
import RemoteSigning.Session.System
import RemoteSigning.Token.Adapter

/-!
# The stage: sessions among scripted collaborators

On the stage sessions run against a cast. Every call is made the moment the session wants it, and ends at once or is kept
pending, as the script says. Whatever leaves a session is noted, in order: calls, what is done at the card module, reports,
the ends of runs, and the log.

- `Stage.perform` begins a call: it ends at once, or it has to be played by somebody with a script;
- `Stage.play` plays it: it ends, or it is kept pending;
- `Stage.proceed` carries on with whatever a session wants to do, until its run ends or a call is kept pending;
- `Stage.happen` is what one happening leads to;
- `Stage.close` ends all runs that have not come to their end.
-/

namespace RemoteSigning.Rehearsal

/-- A call to somebody with a script. -/
inductive Cue where
  /-- A backend is selected; it gets a handle with this number. -/
  | select (choice : ModeChoice) (number : Handle)
  | fetch (backend : Handle) (language : Text)
  | sign (backend : Handle) (certificate : Certificate) (hash : HashToSign) (language : Text)
  | http (exchange : Endpoint) (url : Url) (body : Text)
  /-- The user is asked for the PIN, in order to sign with a card. -/
  | pin (backend : Handle) (certificate : Certificate) (hash : HashToSign) (language : Text)
  | health (backend : Handle) (mode : BackendMode)
  | backendFetch (backend : Handle) (mode : BackendMode) (language : Text)
  | backendSign (backend : Handle) (mode : BackendMode) (certificate : Certificate) (hash : HashToSign) (language : Text)
  deriving DecidableEq, Repr

/-- Whose script is followed. -/
def Cue.role : Cue → Role
  | .select .. => .select
  | .fetch .. => .fetch
  | .sign .. => .sign
  | .http _ url _ => .service url.plainPath
  | .pin .. => .user
  | .health b _ => .health b
  | .backendFetch b _ _ => .backendFetch b
  | .backendSign b _ _ _ _ => .backendSign b

inductive Event where
  /-- A scripted call. -/
  | cue (cue : Cue)
  /-- Something that is done at the card module. -/
  | card (event : CardEvent)
  /-- A session was cancelled from within a call. -/
  | cancelled (abandoned : Bool)
  /-- A pending call was asked to stop. -/
  | interrupted (cue : Cue)
  | report (report : Report)
  /-- A run has ended. -/
  | finished (outcome : Except Fault State)
  deriving Repr

/-- An event with the session whose run it belongs to, as far as that is known. -/
structure Note where
  session : Option Text
  event : Event
  deriving Repr

/-- A call of a session that is kept pending. -/
structure Held where
  session : Text
  cue : Cue
  behaviour : Behaviour
  deriving Repr

/-- The name of the adapter that sessions use. -/
def mainAdapter : Text := "main"

/-- Everything that changes in a rehearsal. -/
structure Stage where
  cast : Cast
  files : FileTree
  system : System
  adapters : List (Text × Adapter) := []
  backends : List (Handle × Backend) := []
  /-- The plans of foreign backends. -/
  plans : List (Handle × BackendPlan) := []
  /-- How many calls each role has met. -/
  turns : List (Role × Nat) := []
  held : List Held := []
  /-- The sessions that were run, in the order of their first runs. -/
  started : List Text := []
  notes : List Note := []
  log : List LogLine := []

namespace Stage

/-- The stage before anything has happened. -/
def init (c : Cast) (files : FileTree) : Stage := { cast := c, files := files, system := .init c.coordinator }

/-! ## Keeping record -/

def note (st : Stage) (session : Option Text) (e : Event) : Stage := { st with notes := st.notes ++ [⟨session, e⟩] }

/-- Notes what was done at the card module. -/
def noteCard (st : Stage) (session : Option Text) (es : List CardEvent) : Stage :=
  { st with notes := st.notes ++ es.map fun e => ⟨session, .card e⟩ }

def write (st : Stage) (lines : List LogLine) : Stage := { st with log := st.log ++ lines }

def record (st : Stage) (rs : List TokenRecord) : Stage := st.write (rs.map TokenRecord.line)

/-! ## Backends and adapters -/

def backend? (st : Stage) (h : Handle) : Option Backend := (st.backends.find? (·.1 = h)).map (·.2)

def shown (st : Stage) (h : Handle) : Text := ((st.backend? h).map Backend.shown).getD []

def freeHandle (st : Stage) : Handle := st.backends.length

/-- Adds a backend under the next free handle. -/
def addBackend (st : Stage) (b : Backend) : Stage := { st with backends := st.backends ++ [(st.freeHandle, b)] }

/-- What was done at the card module for a backend may have loaded it. -/
def afterCard (st : Stage) (h : Handle) (es : List CardEvent) : Stage :=
  { st with backends := st.backends.map fun (k, b) => (k, if k = h then b.after st.cast.cardModule es else b) }

def adapter (st : Stage) (name : Text) : Adapter :=
  ((st.adapters.find? (·.1 = name)).map (·.2)).getD (.init st.cast.settings.configured)

def setAdapter (st : Stage) (name : Text) (a : Adapter) : Stage :=
  { st with adapters := (name, a) :: st.adapters.filter (·.1 ≠ name) }

/-- The backend that the settings describe for a mode. -/
def make (st : Stage) : BackendMode → Except Fault Backend
  | .software =>
    let s := st.cast.settings
    (SoftwareToken.load st.files (s.tokenKey.getD []) s.tokenCertificate s.tokenPassword).map (.software · .software)
  | _ =>
    let s := st.cast.settings
    .ok (.card ⟨s.cardLibrary, s.cardLabel, s.cardSlot, st.cast.user.isSome⟩ false)

/-- Who calls, and through which adapter. -/
structure Route where
  who : Caller
  through : Text
  deriving DecidableEq, Repr

/-- The way by which a session calls. -/
def Route.ofSession (id : Text) : Route := ⟨some id, mainAdapter⟩

/-- Something happens to an adapter. -/
def tell (st : Stage) (way : Route) (h : AdapterHappening) : Stage × List AdapterOutput :=
  let (a, out) := (st.adapter way.through).step st.shown way.who h
  (st.setAdapter way.through a, out)

/-- Writes what an adapter records, and yields the rest of what it does. -/
def recorded (st : Stage) : List AdapterOutput → Stage × List AdapterOutput
  | [] => (st, [])
  | .record r :: rest => (st.record [r]).recorded rest
  | o :: rest =>
    let (st, rest) := st.recorded rest
    (st, o :: rest)

/-- The end of a call, if an adapter has brought it about. -/
def endOf : List AdapterOutput → Except Fault Value
  | .ended r :: _ => r
  | _ :: rest => endOf rest
  | [] => .error (.runtime "the call has no end")

/-- The backend that a caller waits for has answered, which ends the call. -/
def answer (st : Stage) (way : Route) (r : Except Fault BackendAnswer) : Stage × Except Fault Value :=
  let (st, out) := st.tell way (.answer r)
  let (st, out) := st.recorded out
  (st, endOf out)

/-! ## Calls -/

/-- What came of the beginning of a call. -/
inductive Progress where
  | ended (result : Except Fault Value)
  /-- Somebody with a script has to play. -/
  | cue (cue : Cue)
  deriving Repr

/-- A call that has ended. -/
def ended (r : Stage × Except Fault Value) : Stage × Progress := (r.1, .ended r.2)

/-- Something was done at the card module for a backend; `session` is the one that it is noted with. -/
def performed (st : Stage) (session : Option Text) (h : Handle) (p : Performed α) : Stage × Except Fault α :=
  (((st.noteCard session p.events).record p.records).afterCard h p.events, p.result)

/-- Asks a backend whether it can be used. -/
def askHealth (st : Stage) (way : Route) (h : Handle) : Stage × Progress :=
  match st.backend? h with
  | some (.card config loaded) =>
    let (st, r) := st.performed way.who h (st.cast.cardModule.check config loaded)
    ended (st.answer way (r.map .ready))
  | some (.foreign _ _ mode) =>
    if (((st.plans.find? (·.1 = h)).bind (·.2.health))).isSome then (st, .cue (.health h mode))
    else ended (st.answer way (.ok (.ready true)))
  | _ => ended (st.answer way (.ok (.ready true)))

def askCertificate (st : Stage) (way : Route) (h : Handle) (language : Text) : Stage × Progress :=
  match st.backend? h with
  | some (.card config loaded) =>
    let (st, r) := st.performed none h (st.cast.cardModule.fetch config loaded)
    ended (st.answer way (r.map .certificate))
  | some (.software token _) => ended (st.answer way (.ok (.certificate token.certificate)))
  | some (.foreign _ _ mode) => (st, .cue (.backendFetch h mode language))
  | none => ended (st.answer way (.error (.runtime "no backend")))

def askSignature (st : Stage) (way : Route) (h : Handle) (certificate : Certificate) (hash : HashToSign) (language : Text) :
    Stage × Progress :=
  match st.backend? h with
  | some (.card config loaded) =>
    match config.beginSign certificate with
    | .refused f => ended (st.answer way (.error f))
    | .ask => (st, .cue (.pin h certificate hash language))
    | .protectedPath =>
      let (st, r) := st.performed none h (st.cast.cardModule.sign config loaded certificate hash .protectedPath)
      ended (st.answer way (r.map .signature))
  | some (.software token _) =>
    let (r, problem?) := token.sign certificate hash
    ended ((st.record (problem?.toList.map .softwareFailed)).answer way (r.map .signature))
  | some (.foreign _ _ mode) => (st, .cue (.backendSign h mode certificate hash language))
  | none => ended (st.answer way (.error (.runtime "no backend")))

/-- Selects a backend through an adapter. -/
def performSelect (st : Stage) (way : Route) (choice : ModeChoice) : Stage × Progress :=
  let fresh := st.freeHandle
  let (st, out) := st.tell way (.select choice fun m => (st.make m).map fun _ => fresh)
  -- the adapter holds the new handle only if a backend was made for it
  let st := match (st.adapter way.through).held.find? (·.2 = fresh) with
    | some (m, _) =>
      match st.make m with
      | .ok b => st.addBackend b
      | .error _ => st
    | none => st
  let (st, out) := st.recorded out
  match out with
  | .check h :: _ => st.askHealth way h
  | out => (st, .ended (endOf out))

/-- Fetches a certificate through an adapter. -/
def performFetch (st : Stage) (way : Route) (backend : Option Handle) (language : Text) : Stage × Progress :=
  let (st, out) := st.tell way (.fetch backend)
  match out with
  | .fetch h :: _ => st.askCertificate way h language
  | out => (st, .ended (endOf out))

/-- Signs through an adapter. -/
def performSign (st : Stage) (way : Route) (backend : Option Handle) (certificate : Certificate) (hash : HashToSign)
    (language : Text) : Stage × Progress :=
  let (st, out) := st.tell way (.sign backend hash)
  match out with
  | .sign h :: _ => st.askSignature way h certificate hash language
  | out => (st, .ended (endOf out))

/-- How many calls a role has met. -/
def turnsOf (st : Stage) (r : Role) : Nat := ((st.turns.find? (·.1 = r)).map (·.2)).getD 0

/-- Begins a call of a session. -/
def perform (st : Stage) (way : Route) : Call → Stage × Progress
  | .submit request =>
    match request.prepare st.cast.address with
    | .error f => (st, .ended (.error f))
    | .ok (url, body) => (st, .cue (.http request.endpoint url body))
  | .select choice => if st.cast.token.isSome then (st, .cue (.select choice (st.turnsOf .select + 1))) else st.performSelect way choice
  | .fetch h language =>
    if st.cast.token.isSome then (st, .cue (.fetch h language)) else st.performFetch way (some h) language
  | .sign h certificate hash language =>
    if st.cast.token.isSome then (st, .cue (.sign h certificate hash language))
    else st.performSign way (some h) certificate hash language

/-! ## Scripts -/

/-- The script of a role, as far as there is one. -/
def script (st : Stage) : Role → Script
  | .select => ((st.cast.token).map (·.select)).getD []
  | .fetch => ((st.cast.token).map (·.fetch)).getD []
  | .sign => ((st.cast.token).map (·.sign)).getD []
  | .service path => ((st.cast.service.find? (·.1 = path)).map (·.2)).getD st.cast.elsewhere
  | .user => st.cast.user.getD []
  | .health h => ((st.plans.find? (·.1 = h)).bind (·.2.health)).getD []
  | .backendFetch h => ((st.plans.find? (·.1 = h)).map (·.2.fetch)).getD []
  | .backendSign h => ((st.plans.find? (·.1 = h)).map (·.2.sign)).getD []

def take (st : Stage) (r : Role) : Stage × Behaviour :=
  let n := st.turnsOf r
  ({ st with turns := (r, n + 1) :: st.turns.filter (·.1 ≠ r) }, (st.script r).turn n)

/-- Signs with a card, now that the user has answered. -/
def signWithPin (st : Stage) (way : Route) (h : Handle) (certificate : Certificate) (hash : HashToSign)
    (entered : Except Fault (Option Text)) : Stage × Except Fault Value :=
  match st.backend? h with
  | some (.card config loaded) =>
    let (st, r) := st.performed none h (st.cast.cardModule.signAnswered config loaded certificate hash entered)
    st.answer way (r.map .signature)
  | _ => st.answer way (.error (.runtime "no backend"))

/-- A line that does not belong to the call. -/
def misplaced : Fault := .runtime "this is not scripted for the call"

/-- The end of a scripted call: what was played becomes a value for the caller. -/
def conclude (st : Stage) (way : Route) (c : Cue) (r : Except Fault Line) : Stage × Except Fault Value :=
  match c, r with
  | .select _ number, .ok (.backend available) => (st, .ok (.backend (if available then some number else none)))
  | .fetch .., .ok (.certificate c) => (st, .ok (.certificate c))
  | .sign _ _ hash _, .ok (.signature value other) => (st, .ok (.signature ⟨value, other.getD hash⟩))
  | .http e url _, .ok (.http a) =>
    let r := e.conclude url (.ok a)
    let st := match r with
      | .ok (.hash h) => st.record [.hashReceived h]
      | _ => st
    (st, r.map .reply)
  | .http e url _, .error f => (st, (e.conclude url (.error f)).map .reply)
  | .pin h certificate hash _, .ok (.pin entered) => st.signWithPin way h certificate hash (.ok entered)
  | .pin h certificate hash _, .error f => st.signWithPin way h certificate hash (.error f)
  | .health .., .ok (.usable yes) => st.answer way (.ok (.ready yes))
  | .backendFetch .., .ok (.certificate c) => st.answer way (.ok (.certificate c))
  | .backendSign .., .ok (.signature value _) => st.answer way (.ok (.signature value))
  | .health .., .error f | .backendFetch .., .error f | .backendSign .., .error f => st.answer way (.error f)
  | _, .error f => (st, .error f)
  | _, .ok _ => (st, .error misplaced)

/-- Takes note of what a session does when it is cancelled. -/
def noteCancel (st : Stage) (id : Text) : List Output → Stage
  | [] => st
  | .record r :: rest => (st.write [r.line id]).noteCancel id rest
  | .answered abandoned :: rest => (st.note (some id) (.cancelled abandoned)).noteCancel id rest
  | _ :: rest => st.noteCancel id rest

/-- The session that calls is cancelled from within the call. -/
def cancelWithin (st : Stage) (who : Caller) : Stage :=
  match who with
  | none => st
  | some id =>
    let (system, out) := st.system.step id (.cancel true)
    { st with system := system }.noteCancel id out

/-- Plays a scripted call: it ends, or it is kept pending. Only a session can wait. -/
def play (st : Stage) (way : Route) (c : Cue) : Stage × Option (Except Fault Value) :=
  let (st, b) := st.take c.role
  let st := st.note way.who (.cue c)
  let st := if b.cancels then st.cancelWithin way.who else st
  match way.who with
  | some id =>
    if b.holds || b.sigint then ({ st with held := st.held ++ [⟨id, c, b⟩] }, none)
    else
      let (st, r) := st.conclude way c b.result
      (st, some r)
  | none =>
    let (st, r) := st.conclude way c b.result
    (st, some r)

/-- Begins a call and plays it. -/
def call (st : Stage) (way : Route) (c : Call) : Stage × Option (Except Fault Value) :=
  match st.perform way c with
  | (st, .ended r) => (st, some r)
  | (st, .cue cue) => st.play way cue

/-- The call of a session that is kept pending. -/
def heldOf? (st : Stage) (id : Text) : Option Held := st.held.find? (·.session = id)

/-- A session waits no more. -/
def unhold (st : Stage) (id : Text) : Stage := { st with held := st.held.filter (·.session ≠ id) }

/-- What a pending call ends with when it is asked to stop. -/
def Behaviour.interrupted (b : Behaviour) : Except Fault Line :=
  match b.onCancel with
  | .passes => .error .cancelled
  | .ignores => b.result
  | .declines => .error (.decline .cancelled [])
  | .fails => .error (.other "OSError" (some "interrupted"))

/-- The pending call of a session is asked to stop. -/
def stop (st : Stage) (h : Held) : Stage × Except Fault Value :=
  (st.unhold h.session).note (some h.session) (.interrupted h.cue)
    |>.conclude (.ofSession h.session) h.cue (Behaviour.interrupted h.behaviour)

/-! ## Runs -/

/-- How many calls a run can make. -/
def mostCalls : Nat := 5

/-- Carries on with what a session does: records, reports and ends are noted, and calls are made. Where a call ends at
once, the run continues with its value. `fuel` bounds the calls that end at once. -/
def proceed (fuel : Nat) (st : Stage) (id : Text) (outputs : List Output) : Stage :=
  match outputs with
  | [] => st
  | o :: rest =>
    match o with
    | .record r => proceed fuel (st.write [r.line id]) id rest
    | .report r => proceed fuel (st.note (some id) (.report r)) id rest
    | .ended outcome _ => proceed fuel (st.note (some id) (.finished outcome)) id rest
    | .opened mobileId length =>
      let who := Text.ofString (if mobileId then "Mobile-ID" else "ID card")
      proceed fuel (st.write [⟨.info, "Opened session <id> (" ++ who ++ ", " ++ Text.ofNat length ++ " chars)"⟩]) id rest
    | .answered _ => proceed fuel st id rest
    | .call c =>
      match st.call (.ofSession id) c with
      | (st, none) => proceed fuel st id rest
      | (st, some r) =>
        match fuel with
        | 0 => st
        | fuel + 1 =>
          let (system, out) := st.system.step id (.finish r)
          proceed fuel { st with system := system } id (out ++ rest)
    | .interrupt =>
      match st.heldOf? id with
      | none => proceed fuel st id rest
      | some h =>
        let (st, r) := st.stop h
        match fuel with
        | 0 => st
        | fuel + 1 =>
          let (system, out) := st.system.step id (.finish r)
          proceed fuel { st with system := system } id (out ++ rest)
termination_by (fuel, outputs.length)

/-- The user has interrupted the program while a call is kept pending: the session is cancelled. -/
def deliverInterrupts (st : Stage) (id : Text) : Nat → Stage
  | 0 => st
  | fuel + 1 =>
    match st.heldOf? id with
    | some h =>
      if h.behaviour.sigint then
        let (system, out) := st.system.step id (.cancel false)
        (proceed (mostCalls + 1) { st with system := system } id out).deliverInterrupts id fuel
      else st
    | none => st

/-- Keeps in mind that a session is run. -/
def noteStart (st : Stage) (id : Text) : Happening → Stage
  | .start .. => if st.started.contains id then st else { st with started := st.started ++ [id] }
  | _ => st

/-- Something happens to a session, with all that it leads to. -/
def happen (st : Stage) (id : Text) (h : Happening) : Stage :=
  let st := st.noteStart id h
  let (system, out) := st.system.step id h
  (proceed (mostCalls + 1) { st with system := system } id out).deliverInterrupts id mostCalls

/-- The pending call of a session is continued. -/
def release (st : Stage) (id : Text) : Stage :=
  match st.heldOf? id with
  | none => st
  | some h =>
    let (st, r) := (st.unhold id).conclude (.ofSession id) h.cue h.behaviour.result
    st.happen id (.finish r)

/-- Every run with a pending call is cancelled from outside, in the order in which the runs were started. -/
def interruptAll (st : Stage) : Stage :=
  st.started.foldl (fun st id => if (st.heldOf? id).isSome then st.happen id .interrupt else st) st

/-- Ends all runs. A run may carry on when it is cancelled, but every round ends a call of each, so that there are no more
rounds than a run makes calls. -/
def close (st : Stage) : Stage := Nat.repeat interruptAll mostCalls st

end Stage

end RemoteSigning.Rehearsal
