import RemoteSigning.Files
import RemoteSigning.Json.Printer
import RemoteSigning.Service.Client
import RemoteSigning.Settings.EnvFile
import RemoteSigning.Settings.Value
import RemoteSigning.Text.Case
import RemoteSigning.Token.Mode

/-!
# Settings

Every setting has a name and a default. It is looked up among the arguments, then in the environment, then in an
environment file, whose names may be written in any case.

- `Settings.read` makes settings of what was found, or names every setting that is refused, in their order;
- `Settings.load` looks in all places;
- `Settings.report` shows the settings without their secrets.
-/

namespace RemoteSigning

/-- The settings. -/
structure Settings where
  /-- The address of the service. -/
  serviceUrl : Text
  /-- How long an exchange may take, in seconds. -/
  timeout : Binary64
  /-- A file with the authorities that are trusted. -/
  authorities : Option Text
  /-- The certificate and the key for the connection. -/
  clientCertificate : Option Text
  clientKey : Option Text
  /-- The mode of the token. -/
  tokenBackend : Text
  /-- The card module, a part of the token's label, and the slot. -/
  cardLibrary : Option Text
  cardLabel : Option Text
  cardSlot : Option Int
  /-- The key in memory, its certificate, and the password. -/
  tokenKey : Option Text
  tokenCertificate : Option Text
  tokenPassword : Option Text
  /-- The language of reports. -/
  language : Text
  /-- What the program runs for. -/
  environment : Text
  /-- Everything is recorded. -/
  debug : Bool
  deriving DecidableEq, Repr

/-- The settings when nothing is given. -/
def Settings.default : Settings where
  serviceUrl := "https://localhost:8080"
  timeout := .ofInt 25
  authorities := none
  clientCertificate := none
  clientKey := none
  tokenBackend := "auto"
  cardLibrary := none
  cardLabel := none
  cardSlot := none
  tokenKey := none
  tokenCertificate := none
  tokenPassword := none
  language := "et"
  environment := "development"
  debug := false

/-- What is given for the settings, by name. -/
abbrev Given := String → Option Json

/-- The value of a setting: what is given, if it can be read, else the default. -/
def Given.value (g : Given) (name : String) (read : Json → Except FieldProblem α) (default : α) : α :=
  match (g name).map read with
  | some (.ok a) => a
  | _ => default

/-- What is wrong with a setting. -/
def Given.fault? (g : Given) (name : String) (read : Json → Except FieldProblem α) : Option FieldFault :=
  match (g name).map read with
  | some (.error p) => some ⟨p, name⟩
  | _ => none

namespace Settings

open Json (asPositive asInteger asTruth asText orNull)

def names : List String :=
  ["signing_service_url", "http_timeout", "ca_bundle", "client_cert", "client_key", "token_backend", "pkcs11_lib",
   "pkcs11_token_label", "pkcs11_slot", "software_token_key", "software_token_cert", "software_token_password",
   "ui_language", "environment", "debug"]

/-- The settings that are refused, in order. -/
def faults (g : Given) : List FieldFault :=
  [g.fault? "signing_service_url" asText, g.fault? "http_timeout" asPositive, g.fault? "ca_bundle" (orNull asText),
   g.fault? "client_cert" (orNull asText), g.fault? "client_key" (orNull asText), g.fault? "token_backend" asText,
   g.fault? "pkcs11_lib" (orNull asText), g.fault? "pkcs11_token_label" (orNull asText),
   g.fault? "pkcs11_slot" (orNull asInteger), g.fault? "software_token_key" (orNull asText),
   g.fault? "software_token_cert" (orNull asText), g.fault? "software_token_password" (orNull asText),
   g.fault? "ui_language" asText, g.fault? "environment" asText, g.fault? "debug" asTruth].filterMap id

/-- What the settings are if none is refused. -/
def values (g : Given) : Settings where
  serviceUrl := g.value "signing_service_url" asText default.serviceUrl
  timeout := g.value "http_timeout" asPositive default.timeout
  authorities := g.value "ca_bundle" (orNull asText) default.authorities
  clientCertificate := g.value "client_cert" (orNull asText) default.clientCertificate
  clientKey := g.value "client_key" (orNull asText) default.clientKey
  tokenBackend := g.value "token_backend" asText default.tokenBackend
  cardLibrary := g.value "pkcs11_lib" (orNull asText) default.cardLibrary
  cardLabel := g.value "pkcs11_token_label" (orNull asText) default.cardLabel
  cardSlot := g.value "pkcs11_slot" (orNull asInteger) default.cardSlot
  tokenKey := g.value "software_token_key" (orNull asText) default.tokenKey
  tokenCertificate := g.value "software_token_cert" (orNull asText) default.tokenCertificate
  tokenPassword := g.value "software_token_password" (orNull asText) default.tokenPassword
  language := g.value "ui_language" asText default.language
  environment := g.value "environment" asText default.environment
  debug := g.value "debug" asTruth default.debug

def read (g : Given) : Except (List FieldFault) Settings :=
  match faults g with
  | [] => .ok (values g)
  | fs => .error fs

end Settings

/-! ## Where settings are found -/

/-- The places where settings are looked up. -/
structure SettingSources where
  arguments : List (Text × Json) := []
  environment : List (Text × Text) := []
  /-- The bytes of the environment file, if there is one. -/
  file : Option Bytes := none

inductive SettingsFault where
  /-- Settings are refused. -/
  | refused (fields : List FieldFault)
  /-- The environment file is no text. -/
  | notUtf8 (fault : DecodeFault)
  deriving DecidableEq, Repr

/-- The fault as a fault of whoever asks for the settings. -/
def SettingsFault.toFault : SettingsFault → Fault
  | .refused fs => .unwritable fs
  | .notUtf8 e => .other "UnicodeDecodeError" (some e.message)

def environmentFileName : Text := ".env"

/-- The bytes of the environment file, if there is one among files. -/
def FileTree.environmentFile? (files : FileTree) : Option Bytes := (files.read environmentFileName).toOption

/-- The last entry with a name, in any case. -/
def lastNamed? (name : Text) (entries : List (Text × α)) : Option α :=
  (entries.reverse.find? fun e => Text.lower e.1 = name).map (·.2)

namespace SettingSources

def bindings (s : SettingSources) : Except DecodeFault (List EnvFile.Binding) :=
  match s.file with
  | none => .ok []
  | some bytes => (EnvFile.text bytes).map (EnvFile.values s.environment)

/-- What is given for a setting among the arguments; the very name comes before other ways to write it. -/
def inArguments? (s : SettingSources) (name : Text) : Option Json :=
  Json.get? s.arguments name <|> lastNamed? name s.arguments

/-- What is given for a setting: as an argument, else in the environment, else by a binding. -/
def given (s : SettingSources) (bindings : List EnvFile.Binding) : Given := fun name =>
  s.inArguments? name <|> ((lastNamed? name s.environment <|> (lastNamed? name bindings).join).map Json.text)

end SettingSources

def Settings.load (s : SettingSources) : Except SettingsFault Settings :=
  match s.bindings with
  | .error e => .error (.notUtf8 e)
  | .ok bindings => (read (s.given bindings)).mapError .refused

/-- The settings that were found before, else those that are found now. -/
def Settings.loadOnce (kept : Option Settings) (s : SettingSources) : Except SettingsFault Settings :=
  match kept with
  | some found => .ok found
  | none => load s

/-! ## What follows from settings -/

/-- A text that is there and not empty. -/
def nonEmpty? (t : Option Text) : Option Text := t.filter (! ·.isEmpty)

namespace Settings

variable (s : Settings)

/-- The program runs in earnest. -/
def isProduction : Bool := s.environment.lower = Text.ofString "production"

def configured : Configured := ⟨(nonEmpty? s.cardLibrary).isSome, (nonEmpty? s.tokenKey).isSome⟩

/-- The certificate and the key for the connection, if both are there. -/
def clientPair? : Option (Text × Text) :=
  match nonEmpty? s.clientCertificate, nonEmpty? s.clientKey with
  | some c, some k => some (c, k)
  | _, _ => none

/-- The address of the service without slashes at its end. -/
def baseUrl : Text := RemoteSigning.baseUrl s.serviceUrl

/-- A value that is shown, or the words for its absence. -/
def shownOr (t : Option Text) (absent : String) : Json := .text ((nonEmpty? t).getD (Text.ofString absent))

/-- A secret that is not shown. -/
def hidden (t : Option Text) : Json := .text (if (nonEmpty? t).isSome then "***" else "(not set)")

/-- The settings without their secrets. -/
def report : Json :=
  .object [
    ("environment", .text s.environment),
    ("debug", .bool s.debug),
    ("service", .object [
      ("url", .text s.serviceUrl),
      ("timeout", .float s.timeout),
      ("ca_bundle", shownOr s.authorities "(system)"),
      ("client_cert", shownOr s.clientCertificate "(not set)"),
      ("client_key", hidden s.clientKey)]),
    ("token", .object [
      ("backend", .text s.tokenBackend),
      ("pkcs11_lib", shownOr s.cardLibrary "(not set)"),
      ("pkcs11_token_label", shownOr s.cardLabel "(any)"),
      ("pkcs11_slot", (s.cardSlot.map Json.int).getD .null),
      ("software_token_key", shownOr s.tokenKey "(not set)"),
      ("software_token_password", hidden s.tokenPassword)]),
    ("ui_language", .text s.language)]

/-- The key and the password of the connection and of the token do not show in the report. -/
theorem report_of_other_secrets (a b : Text) (ha : a ≠ []) (hb : b ≠ []) :
    report { s with clientKey := some a, tokenPassword := some a } =
      report { s with clientKey := some b, tokenPassword := some b } := by
  cases a <;> cases b <;> simp_all [report, hidden, nonEmpty?, Option.filter]

end Settings

end RemoteSigning
