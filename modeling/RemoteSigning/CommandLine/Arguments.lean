import RemoteSigning.Text.Digits
import RemoteSigning.Token.Mode

/-!
# Arguments of the command line

A command is a word, followed by options and at most one argument in any order. An option with two dashes may be
abbreviated as long as no other option begins alike, and may have its value after `=`. After `--` everything is an
argument.

- `Command.parse` reads a command line; it yields a command, or a refusal: the user wants help, or made a mistake;
- `Rules.consume` reads the options and the argument of one command;
- `Parsed.put` takes the value of an option.
-/

namespace RemoteSigning.CommandLine

/-- Why there is no command to carry out. -/
inductive Refusal where
  /-- The user asks for help. -/
  | help
  /-- The arguments are wrong. -/
  | usage
  deriving DecidableEq, Repr

/-- The status that the program ends with. -/
def Refusal.status : Refusal → Nat
  | .help => 0
  | .usage => 2

inductive Takes where
  /-- Nothing: the option asks for help. -/
  | nothing
  /-- Any value. -/
  | any
  /-- One of some values. -/
  | oneOf (words : List Text)
  deriving DecidableEq, Repr

structure OptionRule where
  names : List Text
  takes : Takes
  required : Bool := false
  deriving DecidableEq, Repr

/-- The options of a command, and whether it has an argument. -/
structure Rules where
  options : List OptionRule
  hasArgument : Bool
  deriving DecidableEq, Repr

def helpRule : OptionRule := ⟨["-h", "--help"], .nothing, false⟩

/-! ## Tokens -/

/-- A piece of a command line. -/
inductive Token where
  /-- An option by one of its names, perhaps with a value. -/
  | option (rule : OptionRule) (name : Text) (value : Option Text)
  /-- It looks like an option, but is none. -/
  | unknown
  | argument (t : Text)
  /-- The two dashes before arguments. -/
  | dashes
  deriving DecidableEq, Repr

/-- The dash that begins options. -/
def dash : CodePoint := '-'

def twoDashes : Text := [dash, dash]

/-- A negative number, with a fraction or without, and perhaps a line feed; it is no option. -/
def isNegativeNumber (t : Text) : Bool :=
  match t with
  | c :: rest =>
    let body := match rest.getLast? with
      | some e => if e = '\n' then rest.dropLast else rest
      | none => rest
    let (whole, fraction) := body.span (· ≠ CodePoint.ofChar '.')
    c = dash && whole.all CodePoint.isDecimal &&
      match fraction with
      | [] => !whole.isEmpty
      | _ :: digits => !digits.isEmpty && digits.all CodePoint.isDecimal
  | [] => false

/-- A text in two parts around its first `=`. -/
def cutAtEquals (t : Text) : Text × Option Text :=
  match t.span (· ≠ CodePoint.ofChar '=') with
  | (name, _ :: value) => (name, some value)
  | (name, []) => (name, none)

namespace Rules

variable (r : Rules)

def names : List (Text × OptionRule) := r.options.flatMap fun o => o.names.map (·, o)

def named? (name : Text) : Option OptionRule := (r.names.find? (·.1 = name)).map (·.2)

/-- The options that an argument may stand for, with two dashes as an abbreviation, with one dash and a letter with the
value behind it. -/
def candidates (arg : Text) : List Token :=
  if twoDashes.isPrefixOf arg then
    let (head, value) := cutAtEquals arg
    (r.names.filter (head.isPrefixOf ·.1)).map fun (n, o) => .option o n value
  else (r.names.filter (·.1 = arg.take 2)).map fun (n, o) => .option o n (some (arg.drop 2))

/-- The option that an argument names in full, with a value after `=`. -/
def namedWithValue? (arg : Text) : Option Token :=
  match cutAtEquals arg with
  | (name, some value) => (r.named? name).map fun o => .option o name (some value)
  | _ => none

/-- What an argument is; an abbreviation of several options is a mistake. -/
def token (arg : Text) : Except Refusal Token :=
  if arg.head? ≠ some dash || arg.length = 1 then .ok (.argument arg)
  else match r.named? arg with
    | some o => .ok (.option o arg none)
    | none =>
      match r.namedWithValue? arg with
      | some t => .ok t
      | none =>
        match r.candidates arg with
        | [t] => .ok t
        | [] =>
          if isNegativeNumber arg || arg.contains " " then .ok (.argument arg) else .ok .unknown
        | _ => .error .usage

def tokens : List Text → Except Refusal (List Token)
  | [] => .ok []
  | arg :: rest =>
    if arg = twoDashes then .ok (.dashes :: rest.map .argument)
    else do
      let t ← r.token arg
      let ts ← tokens rest
      return t :: ts

end Rules

/-! ## Options and the argument -/

/-- What was read so far. -/
structure Parsed where
  /-- Values of options by their names in full, the last one first; an option may be given without a value. -/
  values : List (Text × Option Text) := []
  argument : Option Text := none
  /-- There was something that does not belong here. -/
  extra : Bool := false
  deriving DecidableEq, Repr

/-- The refusal for an option that asks for help: letters behind it have to ask for help, too. -/
def askForHelp (name : Text) (value : Option Text) : Refusal :=
  match value with
  | none => .help
  | some [] => .usage
  | some letters =>
    if ! twoDashes.isPrefixOf name && letters.all fun c => helpRule.names.contains [dash, c] then .help else .usage

/-- Takes the value of an option, if it is one that the option takes. Two dashes in the place of a value are no value. -/
def Parsed.put (p : Parsed) (o : OptionRule) (value : Text) : Except Refusal Parsed :=
  let name := o.names.getLast?.getD []
  if value = twoDashes then .ok { p with values := (name, none) :: p.values }
  else
    let put : Parsed := { p with values := (name, some value) :: p.values }
    match o.takes with
    | .oneOf words => if value ∈ words then .ok put else .error .usage
    | _ => .ok put

/-- An option is given, be it without a value. -/
def Parsed.has (p : Parsed) (name : Text) : Bool := p.values.any (·.1 = name)

def Parsed.value? (p : Parsed) (name : Text) : Option Text := (p.values.find? (·.1 = name)).bind (·.2)

/-- The tokens without the two dashes at their head, if they are there. -/
def afterDashes : List Token → List Token
  | .dashes :: rest => rest
  | rest => rest

theorem length_afterDashes_le (ts : List Token) : (afterDashes ts).length ≤ ts.length := by
  unfold afterDashes
  split <;> simp

/-- The first token is an argument. -/
def startsWithArgument : List Token → Bool
  | .argument _ :: _ => true
  | _ => false

/-- Reads options and the argument. The two dashes are dropped at the argument, before or after it. -/
def Rules.consume (r : Rules) (p : Parsed) (ts : List Token) : Except Refusal Parsed :=
  let isOpen := r.hasArgument && p.argument.isNone
  match ts with
  | [] => .ok p
  | .argument t :: rest =>
    if isOpen then r.consume { p with argument := some t } (afterDashes rest)
    else r.consume { p with extra := true } rest
  | .dashes :: rest =>
    if isOpen && startsWithArgument rest then r.consume p rest else r.consume { p with extra := true } rest
  | .unknown :: rest => r.consume { p with extra := true } rest
  | [.option o name value] =>
    if o.takes = .nothing then .error (askForHelp name value)
    else match value with
      | some v => p.put o v
      | none => .error .usage
  | .option o name value :: t :: rest =>
    if o.takes = .nothing then .error (askForHelp name value)
    else match value, t with
      | some v, _ =>
        match p.put o v with
        | .ok p => r.consume p (t :: rest)
        | .error e => .error e
      | none, .argument v =>
        match p.put o v with
        | .ok p => r.consume p rest
        | .error e => .error e
      | none, _ => .error .usage
termination_by ts.length
decreasing_by
  all_goals
    simp only [List.length_cons]
    first
    | omega
    | exact Nat.lt_succ_of_le (length_afterDashes_le rest)

/-- Everything that is required is there. -/
def Rules.isComplete (r : Rules) (p : Parsed) : Bool :=
  (p.argument.isSome || !r.hasArgument) &&
    r.options.all fun o => !o.required || p.has (o.names.getLast?.getD [])

/-- Reads the arguments of a command; `extra` says that something before it does not belong there. -/
def Rules.parse (r : Rules) (extra : Bool) (args : List Text) : Except Refusal Parsed := do
  let p ← r.consume { extra := extra } (← r.tokens args)
  if r.isComplete p && !p.extra then return p else throw .usage

/-! ## Commands -/

inductive Command where
  /-- Sign a file with the local token. -/
  | sign (file : Text) (backend language : Option Text)
  /-- Sign a file with Mobile-ID. The personal code and the phone number are asked for, but may lack a value. -/
  | mobileId (file : Text) (personalCode phoneNumber language : Option Text)
  /-- Show the settings. -/
  | config
  deriving DecidableEq, Repr

def languageRule : OptionRule := ⟨["--lang"], .oneOf ["et", "en"], false⟩

def backendRule : OptionRule :=
  ⟨["--backend"], .oneOf (BackendMode.all.map fun m => Text.ofString m.word), false⟩

/-- The rules of the three commands. -/
def signRules : Rules := ⟨[helpRule, backendRule, languageRule], true⟩

/-- The personal code and the phone number are required. -/
def mobileIdRules : Rules :=
  ⟨[helpRule, ⟨["--personal-code"], .any, true⟩, ⟨["--phone"], .any, true⟩, languageRule], true⟩

def configRules : Rules := ⟨[helpRule], false⟩

namespace Command

def parseNamed (name : Text) (extra : Bool) (args : List Text) : Except Refusal Command :=
  if name = Text.ofString "sign" then
    (signRules.parse extra args).map fun p =>
      .sign (p.argument.getD []) (p.value? "--backend") (p.value? "--lang")
  else if name = Text.ofString "mid" then
    (mobileIdRules.parse extra args).map fun p =>
      .mobileId (p.argument.getD []) (p.value? "--personal-code") (p.value? "--phone") (p.value? "--lang")
  else if name = Text.ofString "config" then (configRules.parse extra args).map fun _ => .config
  else .error .usage

/-- Reads a command line up to the name of the command, and the command. -/
def parseFrom (extra : Bool) : List Text → Except Refusal Command
  | [] => .error .usage
  | arg :: rest =>
    if arg = twoDashes then .error .usage
    else match configRules.token arg with
      | .ok (.argument name) => parseNamed name extra rest
      | .ok (.option _ name value) => .error (askForHelp name value)
      | .ok _ => parseFrom true rest
      | .error e => .error e

def parse (args : List Text) : Except Refusal Command := parseFrom false args

def language? : Command → Option Text
  | .sign _ _ l | .mobileId _ _ _ l => l
  | .config => none

def backend? : Command → Option Text
  | .sign _ b _ => b
  | _ => none

/-- The two dashes and abbreviations are understood; an abbreviation of two options is not. Two dashes are no value. -/
example : parse ["sign", "--la=en", "--", "-x"] =
      .ok (.sign (Text.ofString "-x") none (some (Text.ofString "en"))) ∧
    parse ["mid", "f", "--p", "1"] = .error .usage ∧ parse ["sign", "-hh"] = .error .help ∧
    parse ["sign", "f", "--lang=--"] = .ok (.sign (Text.ofString "f") none none) := by
  refine ⟨?_, ?_, ?_, ?_⟩ <;> cbv

end Command

end RemoteSigning.CommandLine
