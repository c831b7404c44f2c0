import RemoteSigning.Rehearsal.Stage

/-!
# Plays: the steps of a rehearsal

A play is a list of steps on the stage. Sessions are opened, run, cancelled and released, files come and go, and adapters
are used directly. Handles and certificates are kept under names, so that later steps can refer to them.

- `Play.step` is what one step does and yields;
- `Play.run` is a whole play, with what was noted in each step.
-/

namespace RemoteSigning.Rehearsal

/-- A certificate that a step refers to. -/
inductive CertificateChoice where
  | given (certificate : Certificate)
  /-- The one that was kept under a name. -/
  | named (name : Text)
  deriving DecidableEq, Repr

inductive Step where
  /-- Opens a session, by the coordinator or directly in a mode and a language. -/
  | open (session document : Text) (person : Option (Text × Text)) (direct : Option (ModeChoice × Text))
  /-- Runs a session, by the coordinator or directly. -/
  | start (session : Text) (direct : Bool)
  /-- The coordinator opens a session and runs it. -/
  | sign (session document : Text) (person : Option (Text × Text))
  /-- The coordinator has the presenter's document signed with the token. -/
  | signDocument (session : Text)
  /-- The coordinator has the presenter's document signed with Mobile-ID. -/
  | signWithMobileId (session personalCode phoneNumber : Text)
  | cancel (session : Text)
  | done (session : Text)
  /-- The runs of a session are cancelled from outside. -/
  | taskCancel (session : Text)
  | release (session : Text)
  | write (files : FileTree)
  | delete (name : Text)
  /-- Makes a backend after its plan and puts it into an adapter. -/
  | register (backend adapter : Text)
  | select (choice : ModeChoice) (keep adapter : Text)
  | fetch (backend : Option Text) (language keep adapter : Text)
  | tokenSign (hash algorithm : Text) (backend : Option Text) (certificate : CertificateChoice) (language adapter : Text)
  deriving Repr

inductive StepResult where
  | nothing
  | truth (b : Bool)
  | count (n : Nat)
  | wording (t : Text)
  | opened (mobileId : Bool) (language : Text)
  /-- So many runs were cancelled. -/
  | interrupted (runs : Nat)
  /-- A backend with its wording and a name of its handle, or none. -/
  | selected (backend : Option (Text × Option Text))
  | fetched (certificate : Certificate)
  /-- A signature; `same` says that it is over the given hash, `recognised` that a signature which depends on a secret
  number is one under the key. -/
  | signed (value : Bytes) (same : Bool) (recognised : Option Bool)
  | fault (fault : Fault)
  deriving Repr

structure StepReport where
  result : StepResult
  notes : List Note
  states : List (Text × State)
  deriving Repr

/-- The stage with what is kept under names. -/
structure Play where
  stage : Stage
  handles : List (Text × Option Handle) := []
  certificates : List (Text × Certificate) := []

/-- The fault of a request as a fault of whoever makes it. -/
def RequestFault.toFault (e : RequestFault) : Fault := .value e.message

/-- The entries with one more: a name that is there gets the new value in its old place. -/
def keepUnder (name : Text) (a : α) : List (Text × α) → List (Text × α)
  | [] => [(name, a)]
  | (n, b) :: rest => if n = name then (n, a) :: rest else (n, b) :: keepUnder name a rest

def keptUnder? (name : Text) (entries : List (Text × α)) : Option α := (entries.find? (·.1 = name)).map (·.2)

namespace Stage

/-- Tells a session to stop; the answer is whether there was something to abandon. -/
def cancel (st : Stage) (id : Text) : Stage × Bool :=
  let abandoned := (st.system.step id (.cancel false)).2.any fun
    | .answered b => b
    | _ => false
  (st.happen id (.cancel false), abandoned)

/-- The coordinator opens a session and runs it. -/
def openAndRun (st : Stage) (id : Text) (r : Request) : Stage := (st.happen id (.open r)).happen id (.start true 0)

/-- A run that ended before there was a session. -/
def failBefore (st : Stage) (id : Text) (f : Fault) : Stage := st.note (some id) (.finished (.error f))

/-- The coordinator signs the presenter's document. The person is checked before the presenter is asked. -/
def signPresented (st : Stage) (id : Text) (person : Option (Text × Text)) : Stage :=
  let signer : Except RequestFault Signer := match person with
    | none => .ok .localToken
    | some (personalCode, phoneNumber) => (MobileId.make personalCode phoneNumber).map .mobileId
  match signer with
  | .error e => st.failBefore id (RequestFault.toFault e)
  | .ok signer =>
    match st.cast.presenter with
    | none => st.failBefore id (.runtime "No presenter to read the document from")
    | some document =>
      match Request.make document signer with
      | .error e => st.failBefore id (RequestFault.toFault e)
      | .ok r => st.openAndRun id r

/-- Finishes a call that does not belong to a session. -/
def finishCall (st : Stage) (way : Route) : Progress → Stage × Except Fault Value
  | .ended r => (st, r)
  | .cue c =>
    match st.play way c with
    | (st, some r) => (st, r)
    | (st, none) => (st, .error misplaced)

def states (st : Stage) : List (Text × State) := st.system.members.map fun m => (m.session.id, m.session.state)

def histories (st : Stage) : List (Text × List State) :=
  st.system.members.map fun m => (m.session.id, m.session.history)

end Stage

namespace Play

def handle? (p : Play) (name : Text) : Option Handle := (keptUnder? name p.handles).join

def nameOf? (p : Play) (h : Handle) : Option Text := (p.handles.find? (·.2 = some h)).map (·.1)

/-- A way from outside any session through an adapter. -/
def outside (adapter : Text) : Stage.Route := ⟨none, adapter⟩

/-- Makes a backend after its plan and puts it into an adapter. -/
def register (p : Play) (name adapter : Text) : Play × StepResult :=
  match p.stage.cast.plan? name with
  | none => (p, .fault (.runtime "no such backend"))
  | some plan =>
    match plan.build with
    | .error f => (p, .fault f)
    | .ok b =>
      let h := p.stage.freeHandle
      let st := { p.stage.addBackend b with plans := p.stage.plans ++ [(h, plan)] }
      let (st, _) := st.tell (outside adapter) (.register b.mode h)
      ({ p with stage := st, handles := keepUnder name (some h) p.handles }, .wording b.shown)

/-- Selects a backend and keeps its handle. -/
def select (p : Play) (choice : ModeChoice) (keep adapter : Text) : Play × StepResult :=
  let way := outside adapter
  let (st, progress) := p.stage.performSelect way choice
  let (st, r) := st.finishCall way progress
  match r with
  | .ok (.backend h) =>
    let p := { p with stage := st, handles := keepUnder keep h p.handles }
    (p, .selected (h.map fun h => (st.shown h, p.nameOf? h)))
  | .ok _ => ({ p with stage := st }, .nothing)
  | .error f => ({ p with stage := st }, .fault f)

def fetch (p : Play) (backend : Option Text) (language keep adapter : Text) : Play × StepResult :=
  let way := outside adapter
  let (st, progress) := p.stage.performFetch way (backend.bind p.handle?) language
  let (st, r) := st.finishCall way progress
  match r with
  | .ok (.certificate c) =>
    ({ p with stage := st, certificates := keepUnder keep c p.certificates }, .fetched c)
  | .ok _ => ({ p with stage := st }, .nothing)
  | .error f => ({ p with stage := st }, .fault f)

/-- Whether a signature by a key that draws secret numbers is one; nothing for other keys. -/
def recognised? (st : Stage) (h : Option Handle) (digest signature : Bytes) : Option Bool :=
  match h.bind st.backend? with
  | some (.software token _) =>
    match token.key with
    | .ec key => some (key.recognises digest signature)
    | .rsa _ => none
  | _ => none

/-- Signs a hash. Without a certificate the hash is not looked at. -/
def tokenSign (p : Play) (hash algorithm : Text) (backend : Option Text) (choice : CertificateChoice)
    (language adapter : Text) : Play × StepResult :=
  let certificate? := match choice with
    | .given c => some c
    | .named name => keptUnder? name p.certificates
  match certificate? with
  | none => (p, .wording "no certificate fetched")
  | some c =>
    match HashToSign.read hash algorithm with
    | .error e => (p, .fault (.value e.message))
    | .ok h =>
      let way := outside adapter
      let handle := backend.bind p.handle?
      let (st, progress) := p.stage.performSign way handle c h language
      let (st, r) := st.finishCall way progress
      match r with
      | .ok (.signature s) =>
        ({ p with stage := st }, .signed s.value (s.hash = h) (recognised? st handle h.digest s.value))
      | .ok _ => ({ p with stage := st }, .nothing)
      | .error f => ({ p with stage := st }, .fault f)

def openSession (p : Play) (id document : Text) (person : Option (Text × Text)) (direct : Option (ModeChoice × Text)) :
    Play × StepResult :=
  match Request.ofPerson document person with
  | .error e => (p, .fault (RequestFault.toFault e))
  | .ok r =>
    let (h, language) : Happening × Text := match direct with
      | none => (.open r, p.stage.cast.coordinator.language)
      | some (mode, language) => (.make r mode language, language)
    ({ p with stage := p.stage.happen id h }, .opened r.usesMobileId language)

/-- What a step does to the play, and what it yields. -/
def perform (p : Play) : Step → Play × StepResult
  | .open id document person direct => p.openSession id document person direct
  | .start id direct => ({ p with stage := p.stage.happen id (.start (!direct) 0) }, .nothing)
  | .sign id document person =>
    match Request.ofPerson document person with
    | .error e => (p, .fault (RequestFault.toFault e))
    | .ok r => ({ p with stage := p.stage.openAndRun id r }, .nothing)
  | .signDocument id => ({ p with stage := p.stage.signPresented id none }, .nothing)
  | .signWithMobileId id personalCode phoneNumber =>
    ({ p with stage := p.stage.signPresented id (some (personalCode, phoneNumber)) }, .nothing)
  | .cancel id =>
    let (st, abandoned) := p.stage.cancel id
    ({ p with stage := st }, .truth abandoned)
  | .done id => (p, .truth (((p.stage.system.session? id).map Session.done).getD false))
  | .taskCancel id =>
    let runs := if (p.stage.heldOf? id).isSome then 1 else 0
    ({ p with stage := p.stage.happen id .interrupt }, .interrupted runs)
  | .release id =>
    let calls := if (p.stage.heldOf? id).isSome then 1 else 0
    ({ p with stage := p.stage.release id }, .count calls)
  | .write files =>
    let tree := files.foldl (fun tree (name, e) => FileTree.write tree name e) p.stage.files
    ({ p with stage := { p.stage with files := tree } }, .nothing)
  | .delete name => ({ p with stage := { p.stage with files := p.stage.files.remove name } }, .nothing)
  | .register backend adapter => p.register backend adapter
  | .select choice keep adapter => p.select choice keep adapter
  | .fetch backend language keep adapter => p.fetch backend language keep adapter
  | .tokenSign hash algorithm backend certificate language adapter =>
    p.tokenSign hash algorithm backend certificate language adapter

/-- A step, and what was noted since it began. -/
def step (p : Play) (s : Step) : Play × StepReport :=
  let (p, result) := { p with stage := { p.stage with notes := [] } }.perform s
  (p, ⟨result, p.stage.notes, p.stage.states⟩)

def steps (p : Play) : List Step → Play × List StepReport
  | [] => (p, [])
  | s :: rest =>
    let (p, report) := p.step s
    let (p, reports) := p.steps rest
    (p, report :: reports)

/-- The reports with more notes in the last one. -/
def noteLast (notes : List Note) : List StepReport → List StepReport
  | [] => []
  | [r] => [{ r with notes := r.notes ++ notes }]
  | r :: rest => r :: noteLast notes rest

structure Chronicle where
  reports : List StepReport
  histories : List (Text × List State)
  log : List LogLine
  deriving Repr

/-- A whole play. The runs that are pending after the last step are ended; that is noted with the last step, while the
histories are those from before. -/
def run (p : Play) (script : List Step) : Chronicle :=
  let (p, reports) := p.steps script
  let closed := { p.stage with notes := [] }.close
  ⟨noteLast closed.notes reports, p.stage.histories, closed.log⟩

end Play

end RemoteSigning.Rehearsal
