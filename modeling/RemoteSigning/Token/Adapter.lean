import RemoteSigning.Session.Call
import RemoteSigning.Token.Record

/-!
# The adapter: backends by mode

An adapter makes a backend for a mode when it is first asked for one, and holds it from then on. It keeps no selection:
whoever selects a backend gets a handle, and passes it back with every later call. Between the moment when a backend is
asked for something and its answer, anything may happen to the adapter, other calls included.

- `Adapter.step` is what one happening does, `Adapter.run` what a list of them does;
- `Adapter.require` accepts a handle only while it is held; `require_eq_ok_iff` says when;
- `holding?_hold`: at most one backend is held for a mode, the last one.
-/

namespace RemoteSigning

/-- Entries under other keys are not touched when those of one key are taken out. -/
theorem find?_filter_key_ne {κ β : Type} [DecidableEq κ] (entries : List (κ × β)) (k j : κ) :
    (entries.filter (·.1 ≠ k)).find? (·.1 = j) = if j = k then none else entries.find? (·.1 = j) := by
  rw [List.find?_filter]
  split
  next h => subst h; simp
  next h =>
    refine congrArg (entries.find? ·) (funext fun p => ?_)
    by_cases hp : p.1 = j <;> simp [hp, h]

/-- Who calls the adapter: the session with a name, or somebody else. -/
abbrev Caller := Option Text

/-- What a backend was asked for and has not answered yet. -/
inductive Waiting where
  /-- Whether it can be used. -/
  | check (mode : BackendMode) (backend : Handle)
  /-- A certificate. -/
  | fetch (backend : Handle)
  /-- A signature over a hash. -/
  | sign (backend : Handle) (hash : HashToSign)
  deriving DecidableEq, Repr

inductive BackendAnswer where
  | ready (usable : Bool)
  | certificate (certificate : Certificate)
  | signature (value : Bytes)
  deriving DecidableEq, Repr

/-- The backends that are held, by mode, and what callers wait for. -/
structure Adapter where
  configured : Configured
  held : List (BackendMode × Handle) := []
  waiting : List (Caller × Waiting) := []
  deriving DecidableEq, Repr

inductive AdapterHappening where
  /-- A backend is put in the place of the one held for its mode. -/
  | register (mode : BackendMode) (backend : Handle)
  /-- A backend is selected; `make` is what making one for a mode comes to. -/
  | select (choice : ModeChoice) (make : BackendMode → Except Fault Handle)
  /-- A certificate is fetched from a backend. -/
  | fetch (backend : Option Handle)
  /-- A hash is signed by a backend. -/
  | sign (backend : Option Handle) (hash : HashToSign)
  /-- The backend that the caller waits for has answered. -/
  | answer (result : Except Fault BackendAnswer)

inductive AdapterOutput where
  /-- Asks a backend whether it can be used. -/
  | check (backend : Handle)
  /-- Asks a backend for its certificate. -/
  | fetch (backend : Handle)
  /-- Asks a backend for a signature. -/
  | sign (backend : Handle)
  /-- Records something. -/
  | record (record : TokenRecord)
  /-- The call has ended. -/
  | ended (result : Except Fault Value)
  deriving Repr

/-- The mode has what its backend is made of. -/
def Configured.has (c : Configured) : BackendMode → Bool
  | .pkcs11 => c.pkcs11
  | .software => c.software
  | .auto => false

namespace Adapter

/-- The adapter that holds nothing. -/
def init (c : Configured) : Adapter := ⟨c, [], []⟩

def holding? (a : Adapter) (m : BackendMode) : Option Handle := (a.held.find? (·.1 = m)).map (·.2)

/-- A backend is held. -/
def holds (a : Adapter) (h : Handle) : Bool := a.held.any (·.2 = h)

/-- Holds a backend for a mode, in the place of the one held before. -/
def hold (a : Adapter) (m : BackendMode) (h : Handle) : Adapter :=
  { a with held := (m, h) :: a.held.filter (·.1 ≠ m) }

def waitingOf? (a : Adapter) (who : Caller) : Option Waiting := (a.waiting.find? (·.1 = who)).map (·.2)

/-- The adapter when a caller waits for nothing any more. -/
def settle (a : Adapter) (who : Caller) : Adapter := { a with waiting := a.waiting.filter (·.1 ≠ who) }

/-- The adapter when a caller waits for something. -/
def await (a : Adapter) (who : Caller) (w : Waiting) : Adapter :=
  { a with waiting := (who, w) :: a.waiting.filter (·.1 ≠ who) }

variable (shown : Handle → Text)

/-- A handle that is held; `shown` words handles. -/
def require (a : Adapter) (backend : Option Handle) : Except Fault Handle :=
  match backend with
  | some h =>
    if a.holds h then .ok h
    else .error (.unavailable (some (shown h ++ " was not selected through this adapter")))
  | none => .error (.unavailable (some "None was not selected through this adapter"))

/-- Asks the backend for a mode whether it can be used. -/
def startCheck (a : Adapter) (who : Caller) (m : BackendMode) (h : Handle) : Adapter × List AdapterOutput :=
  (a.await who (.check m h), [.check h])

/-- Nothing is selected. -/
def nothing (a : Adapter) (records : List TokenRecord) : Adapter × List AdapterOutput :=
  (a, records.map AdapterOutput.record ++ [.ended (.ok (.backend none))])

/-- Begins a selection: the backend for the mode is looked up, or made and held, and then asked whether it can be
used. -/
def select (a : Adapter) (who : Caller) (choice : ModeChoice) (make : BackendMode → Except Fault Handle) :
    Adapter × List AdapterOutput :=
  match choice.mode? with
  | none => a.nothing [.unknownMode choice, .noBackend choice]
  | some wanted =>
    match a.configured.resolve wanted with
    | none => a.nothing [.noBackend choice]
    | some m =>
      match a.holding? m with
      | some h => a.startCheck who m h
      | none =>
        if ! a.configured.has m then a.nothing [.notConfigured m]
        else match make m with
          | .error f => a.nothing [.notMade m f]
          | .ok h => (a.hold m h).startCheck who m h

/-- The end of a call whose backend has answered. An answer to another question ends the call with nothing. -/
def conclude (w : Waiting) (result : Except Fault BackendAnswer) : List AdapterOutput :=
  match w, result with
  | _, .error f => [.ended (.error f)]
  | .check _ h, .ok (.ready usable) =>
    if usable then [.record (.selected (shown h)), .ended (.ok (.backend (some h)))]
    else [.record (.unhealthy (shown h)), .ended (.ok (.backend none))]
  | .fetch _, .ok (.certificate c) => [.ended (.ok (.certificate c))]
  | .sign _ hash, .ok (.signature value) => [.ended (.ok (.signature ⟨value, hash⟩))]
  | _, .ok _ => []

/-- What something that happens to the adapter on behalf of a caller does. -/
def step (a : Adapter) (who : Caller) : AdapterHappening → Adapter × List AdapterOutput
  | .register m h => (a.hold m h, [])
  | .select choice make => a.select who choice make
  | .fetch backend =>
    match a.require shown backend with
    | .error f => (a, [.ended (.error f)])
    | .ok h => (a.await who (.fetch h), [.fetch h])
  | .sign backend hash =>
    match a.require shown backend with
    | .error f => (a, [.ended (.error f)])
    | .ok h => (a.await who (.sign h hash), [.sign h])
  | .answer result =>
    match a.waitingOf? who with
    | none => (a, [])
    | some w => (a.settle who, conclude shown w result)

/-- What a list of happenings does, in order; every output with its caller. -/
def run (a : Adapter) : List (Caller × AdapterHappening) → Adapter × List (Caller × AdapterOutput)
  | [] => (a, [])
  | (who, h) :: rest =>
    let (a', out) := a.step shown who h
    let (a'', out') := a'.run rest
    (a'', out.map (who, ·) ++ out')

/-! ## What is held -/

theorem holding?_hold (a : Adapter) (m n : BackendMode) (h : Handle) :
    (a.hold m h).holding? n = if n = m then some h else a.holding? n := by
  unfold hold holding?
  by_cases hn : n = m
  · subst hn; simp
  · have hm : m ≠ n := fun e => hn e.symm
    rw [List.find?_cons, decide_eq_false hm, find?_filter_key_ne, if_neg hn, if_neg hn]

theorem require_eq_ok_iff (a : Adapter) (backend : Option Handle) (h : Handle) :
    a.require shown backend = .ok h ↔ backend = some h ∧ a.holds h = true := by
  unfold require
  cases backend with
  | none => simp
  | some k =>
    by_cases hk : a.holds k = true
    · simp only [hk, if_true, Except.ok.injEq, Option.some.injEq]
      exact ⟨fun e => ⟨e, e ▸ hk⟩, And.left⟩
    · simp only [hk]
      simp only [Bool.false_eq_true, if_false, reduceCtorEq, Option.some.injEq, false_iff, not_and]
      intro e
      subst e
      simpa using hk

end Adapter

end RemoteSigning
