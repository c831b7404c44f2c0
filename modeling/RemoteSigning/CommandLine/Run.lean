import RemoteSigning.CommandLine.Arguments
import RemoteSigning.Console
import RemoteSigning.Rehearsal.Play

/-!
# Carrying out a command

A command is carried out against everything that it can meet: settings, files, a service, a card module and a user. It
ends with a status, or with a fault that leaves the program.

- `documentOf` reads the text to sign; `documentOf_of_not_utf8`: what is no UTF-8 is a fault that leaves the program;
- `Surroundings.carryOut` carries out a command with settings;
- `Surroundings.run` is the whole program, from the arguments to the end.
-/

namespace RemoteSigning.CommandLine

open Rehearsal

/-- Everything that a command can meet. -/
structure Surroundings where
  environment : List (Text × Text) := []
  /-- The files, the environment file among them. -/
  files : FileTree := []
  /-- The answers of the service by path, and at all other paths. -/
  service : List (Text × Script) := []
  elsewhere : Script := [notFound]
  cardModule : CardModule
  user : Script := []

inductive Ending where
  /-- The arguments are refused. -/
  | refused (refusal : Refusal)
  /-- The program ends with a status. -/
  | status (code : Nat)
  /-- A fault leaves the program. -/
  | escaped (fault : Fault)
  deriving DecidableEq, Repr

/-- A run of the program: its end, what the user saw, the calls that were made, and the log. -/
structure Performance where
  ending : Ending
  console : Console := {}
  notes : List Note := []
  log : List LogLine := []
  deriving Repr

/-- The session of a run has this name in the log. -/
def sessionName : Text := "<id>"

inductive DocumentFault where
  /-- The file cannot be read. -/
  | file (fault : FileFault)
  /-- The file is no UTF-8. -/
  | notUtf8 (fault : DecodeFault)
  deriving DecidableEq, Repr

/-- The text of a file, with line feeds for all line ends. -/
def documentOf (files : FileTree) (name : Text) : Except DocumentFault Text :=
  match files.read name with
  | .error f => .error (.file f)
  | .ok bytes =>
    match Utf8.decode bytes with
    | .error f => .error (.notUtf8 f)
    | .ok t => .ok t.unifyNewlines

theorem documentOf_of_not_utf8 {files : FileTree} {name : Text} {bytes : Bytes} {f : DecodeFault}
    (hr : files.read name = .ok bytes) (hd : Utf8.decode bytes = .error f) :
    documentOf files name = .error (.notUtf8 f) := by
  simp [documentOf, hr, hd]

/-- There is no text for the personal code, or the personal code is right and there is none for the phone number. -/
def lacksText : Option Text → Option Text → Bool
  | none, _ => true
  | some code, none => isPersonalCode code
  | some _, some _ => false

/-- A run that ends before there is a session, with a complaint. -/
def complaint (t : Text) : Performance := ⟨.status 2, Console.complain {} t, [], []⟩

/-- A run that ends before there is a session, with a fault. -/
def escape (f : Fault) : Performance := { ending := .escaped f }

/-- The status for the outcome of a session. -/
def statusOf (s : State) : Nat := if s.isSuccess then 0 else 1

/-- The settings with what a command asks for. -/
def override (s : Settings) (c : Command) : Settings :=
  { s with
    language := c.language?.getD s.language
    tokenBackend := c.backend?.getD s.tokenBackend }

/-- The outcome of the run that has ended, from what was noted. -/
def outcome? (notes : List Note) : Option (Except Fault State) :=
  notes.findSome? fun n => match n.event with
    | .finished outcome => some outcome
    | _ => none

def endingOf (notes : List Note) : Ending :=
  match outcome? notes with
  | some (.ok s) => .status (statusOf s)
  | some (.error f) => .escaped f
  | none => .escaped (.runtime "the run has no end")

/-- What the user saw, from what was noted. -/
def consoleOf (notes : List Note) : Console :=
  notes.foldl (fun c n => match n.event with
    | .report r => c.report r
    | _ => c) {}

namespace Surroundings

variable (w : Surroundings)

/-- Everybody that takes part in a session over a document. -/
def cast (s : Settings) (document : Text) : Cast :=
  { settings := s, presenter := some document, address := s.serviceUrl, service := w.service,
    elsewhere := w.elsewhere, user := some w.user, cardModule := w.cardModule }

def session (s : Settings) (r : Request) : Performance :=
  let st := (Stage.init (w.cast s r.document) w.files).openAndRun sessionName r
  ⟨endingOf st.notes, consoleOf st.notes, st.notes, st.log⟩

/-- Signs a file. A person without a text for the personal code or the phone number is a fault that leaves the program. -/
def signFile (s : Settings) (file : Text) (person : Option (Option Text × Option Text)) : Performance :=
  match documentOf w.files file with
  | .error (.notUtf8 f) => escape (.other "UnicodeDecodeError" (some f.message))
  | .error (.file f) =>
    if f.isSystem then complaint ("Cannot read " ++ file ++ ": " ++ f.toFault.message) else escape f.toFault
  | .ok document =>
    if (person.map fun (code, phone) => lacksText code phone).getD false then
      escape (.other "TypeError" (some "expected string or bytes-like object, got 'list'"))
    else match Request.ofPerson document (person.map fun (code, phone) => (code.getD [], phone.getD [])) with
      | .error e => complaint e.message
      | .ok r => w.session s r

def carryOut (s : Settings) (c : Command) : Performance :=
  match c with
  | .config => { ending := .status 0, console := { out := asLine (Json.render .report s.report) } }
  | .sign file _ _ => w.signFile (override s c) file none
  | .mobileId file personalCode phoneNumber _ => w.signFile (override s c) file (some (personalCode, phoneNumber))

/-- Where the settings are found. -/
def sources : SettingSources := { environment := w.environment, file := w.files.environmentFile? }

def run (arguments : List Text) : Performance :=
  match Command.parse arguments with
  | .error e => { ending := .refused e }
  | .ok c =>
    match Settings.load w.sources with
    | .error e => escape e.toFault
    | .ok s => w.carryOut s c

end Surroundings

/-- What is shown at prompts during a run. -/
def prompts (notes : List Note) : List Text :=
  notes.filterMap fun n => match n.event with
    | .cue (.pin _ _ _ language) => some (pinPrompt language)
    | _ => none

/-- The calls that leave the program during a run; what happens at the prompt is none. -/
def calls (notes : List Note) : List Event :=
  notes.filterMap fun n => match n.event with
    | .cue (.pin ..) | .interrupted (.pin ..) | .report _ | .finished _ => none
    | e => some e

end RemoteSigning.CommandLine
