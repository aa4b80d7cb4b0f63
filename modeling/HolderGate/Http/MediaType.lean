/-! Media types, as far as it takes to tell which stand for JSON. -/
namespace HolderGate.Http.MediaType

def isTokenChar (c : Char) : Bool := c.isAlphanum || "!#$%&'*+-.^_|~\x60".toList.contains c

def isToken (cs : List Char) : Bool := !cs.isEmpty && cs.all isTokenChar

/-- Where the reading of the parameters stands: before a name, within one, before a value,
within a value without quotes or with them, or behind a closing quote. -/
inductive State where
  | start
  | name
  | value
  | bare
  | quoted (empty : Bool)
  | closed
  deriving DecidableEq, Repr

def isQuotedChar (c : Char) : Bool := c == '\t' || (' ' ≤ c && c != '\x7f')

def parameters : State → List Char → Bool
  | .start, [] => true
  | .start, c :: rest =>
    if c = ' ' then parameters .start rest else isTokenChar c && parameters .name rest
  | .name, [] => false
  | .name, c :: rest => if c = '=' then parameters .value rest else isTokenChar c && parameters .name rest
  | .value, [] => true
  | .value, c :: rest =>
    if c = '"' then parameters (.quoted true) rest else isTokenChar c && parameters .bare rest
  | .bare, [] => true
  | .bare, c :: rest => if c = ';' then parameters .start rest else isTokenChar c && parameters .bare rest
  | .quoted _, [] => false
  | .quoted empty, c :: rest =>
    if c = '"' && !empty then parameters .closed rest
    else isQuotedChar c && parameters (.quoted false) rest
  | .closed, [] => true
  | .closed, c :: rest =>
    if c = ';' then parameters .start rest else c = ' ' && parameters .closed rest

def subtype (cs : List Char) : List Char × Option (List Char) :=
  let suffix := cs.reverse.takeWhile (· != '+')
  if cs.length ≤ suffix.length + 1 then (cs, none)
  else (cs.take (cs.length - suffix.length - 1), some suffix.reverse)

def isJson (text : String) : Bool :=
  let (type, rest) := text.toLower.toList.span (· != '/')
  match rest with
  | [] => false
  | _ :: rest =>
    let (sub, params) := rest.span (· != ';')
    let (base, suffix) := subtype sub
    type == "application".toList && isToken sub &&
      (base == "json".toList || suffix == some "json".toList) &&
      match params with
      | [] => true
      | _ :: params => parameters .start params

end HolderGate.Http.MediaType
