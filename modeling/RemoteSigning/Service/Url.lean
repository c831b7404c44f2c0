import RemoteSigning.HostName.Address
import RemoteSigning.HostName.Label
import RemoteSigning.Settings.Value
import RemoteSigning.Text.Digits
import RemoteSigning.Text.Quoted
import RemoteSigning.Text.Utf8

/-!
# URLs

A URL is read in two steps: it is cut at its marks, and its parts are brought into a normal form, in which URLs are
shown and compared. The normal form has the scheme and the host in lower case, no port number that is the default, no dot
segments, and escapes for what may not stand in a part.

- `UrlParts.ofText` cuts, `UrlParts.normal` normalises or refuses;
- `Url.text` writes a URL, `Url.below` is a URL further down.
-/

namespace RemoteSigning

/-- A URL, cut at its marks. -/
structure UrlParts where
  scheme : Text
  /-- User, host and port number. -/
  authority : Text
  path : Text
  query : Option Text
  fragment : Option Text
  deriving DecidableEq, Repr

/-- A URL in normal form. -/
structure Url where
  scheme : Text
  user : Text
  host : Text
  portNumber : Option Int
  path : Text
  query : Option Text
  fragment : Option Text
  deriving DecidableEq, Repr

/-- The two forms of addresses, known by their versions. -/
inductive AddressForm where
  | v4
  | v6
  deriving DecidableEq, Repr

inductive UrlFault where
  | tooLong
  /-- A control character of ASCII, and its position. -/
  | unprintable (c : CodePoint) (position : Nat)
  /-- Numbers in the form of an address that are none. -/
  | notAddress (form : AddressForm) (host : Text)
  /-- A name that has no form in ASCII. -/
  | notHostName (host : Text)
  | notPortNumber (digits : Text)
  /-- Without scheme and host, a path may begin neither with two slashes nor with a colon. -/
  | relativeStart (mark : String)
  /-- A part that became too long when it was escaped. -/
  | partTooLong (part : String)
  /-- Half of a surrogate pair, which no bytes stand for, or a place that is not ASCII. -/
  | unencodable (fault : EncodeFault)
  deriving DecidableEq, Repr

def UrlFault.message : UrlFault → Text
  | .tooLong => "URL too long"
  | .unprintable c position =>
    "Invalid non-printable ASCII character in URL, " ++ Text.quoted [c] ++ " at position " ++ Text.ofNat position ++ "."
  | .notAddress .v4 host => "Invalid IPv4 address: " ++ host.quoted
  | .notAddress .v6 host => "Invalid IPv6 address: " ++ host.quoted
  | .notHostName host => "Invalid IDNA hostname: " ++ host.quoted
  | .notPortNumber digits => "Invalid port: " ++ digits.quoted
  | .partTooLong part => Text.ofString ("URL component '" ++ part ++ "' too long")
  | .unencodable e => e.message
  | .relativeStart mark => Text.ofString ("Relative URLs cannot have a path starting with '" ++ mark ++ "'")

namespace UrlParts

/-! ## Cutting -/

/-- What follows a mark, if the text begins with it. -/
def after? (mark : Char) : Text → Option Text
  | c :: rest => if c = mark then some rest else none
  | [] => none

/-- The scheme and what follows its colon. A scheme may be empty. -/
def cutScheme (t : Text) : Text × Text :=
  let letter (c : CodePoint) : Bool := (0x41 ≤ c.val && c.val ≤ 0x5A) || (0x61 ≤ c.val && c.val ≤ 0x7A)
  let inner (c : CodePoint) : Bool := letter c || c.isAsciiDigit || (Text.ofString "+.-").elem c
  let scheme := if (t.head?.map letter).getD false then t.takeWhile inner else []
  match after? ':' (t.drop scheme.length) with
  | some rest => (scheme, rest)
  | none => ([], t)

/-- Cuts a text at the marks of a URL. -/
def ofText (t : Text) : UrlParts :=
  let (scheme, rest) := cutScheme t
  let (authority, rest) :=
    match (after? '/' rest).bind (after? '/') with
    | some rest => rest.span fun c => ! (Text.ofString "/?#").elem c
    | none => ([], rest)
  let (path, rest) := rest.span fun c => ! (Text.ofString "?#").elem c
  let (query, rest) :=
    match after? '?' rest with
    | some rest => let (query, rest) := rest.span (· ≠ CodePoint.ofChar '#'); (some query, rest)
    | none => (none, rest)
  ⟨scheme, authority, path, query, after? '#' rest⟩

/-! ## Normal form -/

/-- The two digits of a byte after a percent sign. -/
def escapeByte (b : UInt8) : Text :=
  let digit (n : Nat) : CodePoint := CodePoint.ofNat (if n < 10 then 0x30 + n else 0x41 + (n - 10))
  [CodePoint.ofChar '%', digit (b.toNat / 16), digit (b.toNat % 16)]

/-- Escapes what `safe` does not hold of. -/
def escape (safe : CodePoint → Bool) (t : Text) : Text :=
  t.flatMap fun c => if safe c then [c] else (Utf8.encodePoint c).flatMap escapeByte

def escapePart (safe : CodePoint → Bool) (t : Text) : Except UrlFault Text :=
  match t.find? CodePoint.isSurrogate with
  | some c => .error (.unencodable ⟨"utf-8", 0, 1, c, "surrogates not allowed"⟩)
  | none => .ok (escape safe t)

/-- Visible ASCII other than some marks. -/
def visibleBut (marks : String) (c : CodePoint) : Bool :=
  0x20 < c.val && c.val < 0x7F && ! (Text.ofString marks).elem c

/-- What a fragment, a query, a path, the part for the user, and a host are made of. -/
def isOfFragment : CodePoint → Bool := visibleBut "\"<>\x60"
def isOfQuery : CodePoint → Bool := visibleBut "\"#<>"
def isOfPath : CodePoint → Bool := visibleBut "\"#<>?\x60\x7b\x7d"
def isOfUser : CodePoint → Bool := visibleBut "\"#<>?\x60\x7b\x7d/;=@[\\]^|"
def isOfHost : CodePoint → Bool := visibleBut "#/:<>?@[]^"

/-- A path without segments that stay in place or go up. -/
def withoutDots (path : Text) : Text :=
  let parts := path.splitOn '/'
  let kept := parts.foldl (fun (kept : List Text) part =>
    if part = Text.ofString "." then kept
    else if part = Text.ofString ".." then (if kept = [[]] then kept else kept.dropLast)
    else kept ++ [part]) []
  List.intercalate (Text.ofString "/") kept

def defaultPortNumbers : List (Text × Int) := [("ftp", 21), ("http", 80), ("https", 443), ("ws", 80), ("wss", 443)]

/-- The most digits that a port number may have. -/
def mostDigits : Nat := 4300

/-- Reads a port number: a sign and digits of any script, with single underscores between them. -/
def portNumber? (t : Text) : Option Int :=
  let (negative, rest) := t.strip.sign
  match rest.withoutUnderscores? with
  | none | some [] => none
  | some digits =>
    if mostDigits < digits.length then none
    else (digits.mapM CodePoint.decimalValue?).map fun ds =>
      let n : Nat := ds.foldl (fun n d => 10 * n + d) 0
      if negative then -(n : Int) else n

/-- The port number of a URL with a scheme, unless it is the default. -/
def readPortNumber (scheme digits : Text) : Except UrlFault (Option Int) :=
  if digits.isEmpty then .ok none
  else match portNumber? digits with
    | none => .error (.notPortNumber digits)
    | some n => .ok (if defaultPortNumbers.contains (scheme, n) then none else some n)

/-- A host in normal form. An address in brackets loses them. -/
def readHost (host : Text) : Except UrlFault Text :=
  if Address.isOldStyle host then
    if Address.isOld host then .ok host else .error (.notAddress .v4 host)
  else if host.head? = some (CodePoint.ofChar '[') && host.getLast? = some (CodePoint.ofChar ']') then
    let inner := host.tail.dropLast
    if Address.isNew inner then .ok inner else .error (.notAddress .v6 host)
  else if host.isAscii then .ok (escape isOfHost host.asciiLower)
  else match HostName.encode? host with
    | some name => .ok name
    | none => .error (.notHostName host)

/-- User, host and port number. -/
def cutAuthority (t : Text) : Text × Text × Text :=
  let hostAndPort := (t.reverse.takeWhile (· ≠ CodePoint.ofChar '@')).reverse
  let user := (t.take (t.length - hostAndPort.length)).dropLast
  let bracketed := if (after? '[' hostAndPort).isSome then (Text.dropWhileEnd (· ≠ CodePoint.ofChar ']') hostAndPort) else []
  let host := if bracketed.isEmpty then hostAndPort.takeWhile (· ≠ CodePoint.ofChar ':') else bracketed
  let rest := hostAndPort.drop host.length
  (user, host, (after? ':' rest).getD rest)

/-- A control character of ASCII. -/
def isControl (c : CodePoint) : Bool := c.val < 0x20 || c.val = 0x7F

/-- Brings the parts of a URL into normal form. -/
def normal (u : UrlParts) : Except UrlFault Url := do
  let scheme := u.scheme.asciiLower
  let (user, host, digits) := cutAuthority u.authority
  let user ← escapePart isOfUser user
  let host ← readHost host
  let number ← readPortNumber u.scheme digits
  let isRelative := scheme.isEmpty && user.isEmpty && host.isEmpty && number.isNone
  if isRelative && (Text.ofString "//").isPrefixOf u.path then throw (.relativeStart "//")
  if isRelative && (Text.ofString ":").isPrefixOf u.path then throw (.relativeStart ":")
  let path ← escapePart isOfPath (if isRelative then u.path else withoutDots u.path)
  let query ← u.query.mapM (escapePart isOfQuery)
  let fragment ← u.fragment.mapM (escapePart isOfFragment)
  return ⟨scheme, user, host, number, path, query, fragment⟩

def named (u : UrlParts) : List (String × Text) :=
  [("scheme", u.scheme), ("authority", u.authority), ("path", u.path), ("query", u.query.getD []),
   ("fragment", u.fragment.getD [])]

/-- The most code points of a URL, and of each of its parts. -/
def mostCodePoints : Nat := 65536

/-- No part is too long. -/
def checkLengths (u : UrlParts) : Except UrlFault Unit :=
  match u.named.find? fun (_, part) => mostCodePoints < part.length with
  | some (name, _) => .error (.partTooLong name)
  | none => .ok ()

end UrlParts

def Url.read (t : Text) : Except UrlFault Url :=
  if UrlParts.mostCodePoints < t.length then .error .tooLong
  else match t.find? UrlParts.isControl with
    | some c => .error (.unprintable c (t.takeWhile (! UrlParts.isControl ·)).length)
    | none => (UrlParts.ofText t).normal

namespace Url

variable (u : Url)

/-- Host and port number as they are written. -/
def place : Text :=
  let host := if u.host.elem (CodePoint.ofChar ':') then Text.ofString "[" ++ u.host ++ Text.ofString "]" else u.host
  host ++ ((u.portNumber.map fun n => Text.ofString ":" ++ Text.ofInt n).getD [])

/-- User, host and port number as they are written. -/
def authority : Text := (if u.user.isEmpty then [] else u.user ++ Text.ofString "@") ++ u.place

/-- A part after its mark, if it is there. -/
def marked (mark : Char) (part : Option Text) : Text := (part.map (CodePoint.ofChar mark :: ·)).getD []

def text : Text :=
  let scheme := if u.scheme.isEmpty then [] else u.scheme ++ Text.ofString ":"
  let authority := if u.authority.isEmpty then [] else Text.ofString "//" ++ u.authority
  scheme ++ authority ++ u.path ++ marked '?' u.query ++ marked '#' u.fragment

/-- The path, which is not empty. -/
def fullPath : Text := if u.path.isEmpty then Text.ofString "/" else u.path

/-- What is asked for at the host: the path and the query. -/
def target : Text := u.fullPath ++ marked '?' u.query

/-- The URL that lies below a URL by a path. -/
def below (path : Text) : Except UrlFault Url :=
  let start := if u.target.getLast? = some (CodePoint.ofChar '/') then u.target else u.target ++ Text.ofString "/"
  let target := start ++ path.dropWhile (· = CodePoint.ofChar '/')
  let (p, q) := target.span (· ≠ CodePoint.ofChar '?')
  let parts : UrlParts := ⟨u.scheme, u.authority, p, UrlParts.after? '?' q, u.fragment⟩
  parts.checkLengths.bind fun _ => parts.normal

/-- The place that a request names has to be ASCII; only the zone of an address may keep it from being so. -/
def checkPlace : Except UrlFault Unit :=
  match u.place.firstFault? "ascii" "ordinal not in range(128)" (! CodePoint.isAscii ·) with
  | some fault => .error (.unencodable fault)
  | none => .ok ()

/-- The bytes that a text with escapes stands for. -/
def unescape : Text → Bytes
  | [] => []
  | [c] => Utf8.encodePoint c
  | [c, d] => Utf8.encodePoint c ++ Utf8.encodePoint d
  | c :: d :: e :: rest =>
    match decide (c = CodePoint.ofChar '%'), d.hexValue?, e.hexValue? with
    | true, some m, some n => (16 * m + n).toUInt8 :: unescape rest
    | _, _, _ => Utf8.encodePoint c ++ unescape (d :: e :: rest)

/-- The path without escapes; it is kept as it is written if they stand for no text. -/
def plainPath : Text :=
  (Utf8.decode (unescape u.fullPath)).toOption.getD u.fullPath

/-- The kind of the URL is told by what stands before its first colon, which has no slash. -/
def hasKind : Bool :=
  match u.text.span (· ≠ CodePoint.ofChar ':') with
  | (kind, _ :: _) => ! kind.isEmpty && ! kind.elem (CodePoint.ofChar '/')
  | (_, []) => false

end Url

example : (Url.read "HTTPS://Ab.test:443/x/../y z?q#f").toOption.map Url.text =
    some (Text.ofString "https://ab.test:443/y%20z?q#f") := by decide +kernel
example : (Url.read "http://[::1]:8080").toOption.map Url.text = some (Text.ofString "http://[::1]:8080") := by
  decide +kernel
example : (Url.read "http://a.test:80:1").toOption = none := by decide +kernel

end RemoteSigning
