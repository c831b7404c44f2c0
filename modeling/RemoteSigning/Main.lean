import RemoteSigning.CommandLine.Run

/-!
# The program

The outer layer: it collects what a command can meet (arguments, environment, files), carries the command out, and shows
what was written. There is no connection to a service or to a card module; a command that needs one ends as it does when
they cannot be reached.

- `collect` collects the surroundings of a command;
- `present` writes what the user sees, `main` is the program.
-/

namespace RemoteSigning.CommandLine

open Rehearsal

/-- A call to the service without a connection. -/
def unconnected : Behaviour := { result := .error (.network "ConnectError" (some "no connection to the service")) }

def filesRead (sources : SettingSources) (command : Command) : List Text :=
  let document := match command with
    | .sign file _ _ | .mobileId file _ _ _ => [file]
    | .config => []
  match Settings.load sources with
  | .ok s => document ++ s.tokenKey.toList ++ s.tokenCertificate.toList
  | .error _ => document

/-- What a name stands for among the files of the system, if anything; 21 is the system's number for a directory. -/
def entryOf (name : String) : IO (Option FileEntry) := do
  match ← (IO.FS.readBinFile name).toBaseIO with
  | .ok bytes => return some (.file bytes.toList)
  | .error (.inappropriateType _ 21 _) => return some .directory
  | .error _ => return none

/-- The files with these names, as far as they are there. -/
def collectFiles (names : List Text) : IO FileTree := do
  let entries ← names.mapM fun name => do
    match name.toString? with
    | some s => return (← entryOf s).map fun e => (name, e)
    | none => return none
  return entries.filterMap id

/-- The variables of the environment that stand for settings. -/
def collectEnvironment : IO (List (Text × Text)) := do
  let names := Settings.names.flatMap fun n => [n, n.toUpper]
  let entries ← names.mapM fun n => do
    return (← IO.getEnv n).map fun v => (Text.ofString n, Text.ofString v)
  return entries.filterMap id

/-- Collects the surroundings of a command line. -/
def collect (arguments : List Text) : IO Surroundings := do
  let environment ← collectEnvironment
  let first ← collectFiles [environmentFileName]
  let others ← match Command.parse arguments with
    | .ok c => collectFiles (filesRead { environment := environment, file := first.environmentFile? } c)
    | .error _ => pure []
  return {
    environment := environment
    files := first ++ others
    elsewhere := [unconnected]
    cardModule := .absent }

def put (stream : IO.FS.Stream) (t : Text) : IO Unit := do
  stream.write ⟨(Utf8.encodeAll t).toArray⟩
  stream.flush

/-- How to use the program. -/
def usage : Text :=
  "usage: sign FILE [--backend auto|pkcs11|software] [--lang et|en]\n       mid FILE --personal-code CODE --phone NUMBER [--lang et|en]\n       config\n"

/-- Writes what the user sees at the end of a run, and yields the status. -/
def present (p : Performance) : IO UInt32 := do
  put (← IO.getStdout) p.console.out
  put (← IO.getStderr) p.console.err
  match p.ending with
  | .status n => return n.toUInt32
  | .refused .help =>
    put (← IO.getStdout) usage
    return Refusal.help.status.toUInt32
  | .refused .usage =>
    put (← IO.getStderr) usage
    return Refusal.usage.status.toUInt32
  | .escaped f =>
    put (← IO.getStderr) (asLine (f.kind ++ ": " ++ f.message))
    return 1

end RemoteSigning.CommandLine

/-- Runs a command line. -/
def main (args : List String) : IO UInt32 := do
  let arguments := args.map RemoteSigning.Text.ofString
  RemoteSigning.CommandLine.present ((← RemoteSigning.CommandLine.collect arguments).run arguments)
