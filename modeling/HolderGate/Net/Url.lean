import HolderGate.Net.Host

/-! Absolute addresses of the web: a scheme, a host that may be missing, a port, and the rest. -/
namespace HolderGate.Net

structure Url where
  scheme : String
  username : List Char
  password : List Char
  host : Option Host
  port : Option Nat
  path : List Char
  query : Option (List Char)
  fragment : Option (List Char)
  deriving DecidableEq, Repr

inductive SchemeKind where
  | network (port : Nat)
  | file
  | other
  deriving DecidableEq, Repr

namespace SchemeKind

def ofName : String → SchemeKind
  | "http" | "ws" => network 80
  | "https" | "wss" => network 443
  | "ftp" => network 21
  | "file" => file
  | _ => other

def ends (k : SchemeKind) (c : Char) : Bool :=
  c == '/' || c == '?' || c == '#' || (k != other && c == '\\')

def parseHost : SchemeKind → List Char → Except UrlError Host
  | other => Host.parseOpaque
  | _ => Host.parse

def defaultPort? : SchemeKind → Option Nat
  | network port => some port
  | _ => none

end SchemeKind

namespace Url

def isSchemeChar (c : Char) : Bool := c.isAlphanum || c == '+' || c == '-' || c == '.'

def clean (cs : List Char) : List Char :=
  let trimmed := ((cs.dropWhile (· ≤ ' ')).reverse.dropWhile (· ≤ ' ')).reverse
  trimmed.filter (fun c => c != '\t' && c != '\n' && c != '\r')

def scheme? (cs : List Char) : Option (String × List Char) :=
  match cs.span isSchemeChar with
  | (first :: name, ':' :: rest) =>
    if first.isAlpha then some (String.ofList ((first :: name).map Char.toLower), rest) else none
  | _ => none

def credentials (cs : List Char) : Option (List Char) × List Char :=
  match cs.reverse.span (· != '@') with
  | (after, _ :: before) => (some before.reverse, after.reverse)
  | _ => (none, cs)

def hostPart : Bool → List Char → List Char × List Char
  | _, [] => ([], [])
  | inside, c :: rest =>
    if c = ':' ∧ !inside then ([], c :: rest)
    else
      let (host, behind) := hostPart (c = '[' || (inside && c != ']')) rest
      (c :: host, behind)

def port? (digits : List Char) : Except UrlError (Option Nat) :=
  let digits := (digits.drop 1).takeWhile (· != '\\')
  match Text.Numeral.digits? 10 digits with
  | some n => if n < 65536 then .ok (if digits.isEmpty then none else some n) else .error .badPort
  | none => .error .badPort

def mayStandAlone (atEnd : Bool) : Option (List Char) → Bool
  | none => true
  | some [] => atEnd
  | some user => user == [':']

structure Authority where
  username : List Char
  password : List Char
  host : Option Host
  port : Option Nat
  deriving DecidableEq, Repr

namespace Authority

def nobody (host : Option Host) : Authority := ⟨[], [], host, none⟩

def read (k : SchemeKind) (atEnd : Bool) (part : List Char) : Except UrlError Authority := do
  let (user, named) := credentials part
  let (name, behind) := hostPart false named
  if name.isEmpty then
    if k = .other ∧ behind.isEmpty ∧ mayStandAlone atEnd user then .ok (nobody none)
    else .error .emptyHost
  else
    let host ← k.parseHost name
    let port ← port? behind
    let (username, password) := Text.cut ':' (user.getD [])
    .ok ⟨username, password.getD [], some host, port.filter (fun n => some n != k.defaultPort?)⟩

end Authority

def ofParts (scheme : String) (a : Authority) (rest : List Char) : Url :=
  let (rest, fragment) := Text.cut '#' rest
  let (path, query) := Text.cut '?' rest
  ⟨scheme, a.username, a.password, a.host, a.port, path, query, fragment⟩

def isDrive : List Char → Bool
  | [letter, mark] => letter.isAlpha && (mark == ':' || mark == '|')
  | _ => false

def fileHost (name : List Char) : Except UrlError (Option Host) :=
  if name.isEmpty || isDrive name then .ok none
  else do
    let host ← Host.parse name
    .ok (if host = .domain "localhost".toList then none else some host)

def isSlash (c : Char) : Bool := c == '/' || c == '\\'

def parse (text : String) : Except UrlError Url := do
  let some (scheme, rest) := scheme? (clean text.toList) | .error .relative
  let kind := SchemeKind.ofName scheme
  let located (cs : List Char) : Except UrlError Url := do
    let (part, rest) := cs.span (!kind.ends ·)
    .ok (ofParts scheme (← Authority.read kind rest.isEmpty part) rest)
  match kind, rest with
  | .network _, _ => located (rest.dropWhile isSlash)
  | .other, '/' :: '/' :: more => located more
  | .file, a :: b :: more =>
    if isSlash a && isSlash b then
      let (name, rest) := more.span (!kind.ends ·)
      .ok (ofParts scheme (.nobody (← fileHost name)) rest)
    else .ok (ofParts scheme (.nobody none) rest)
  | _, _ => .ok (ofParts scheme (.nobody none) rest)

end Url
end HolderGate.Net
