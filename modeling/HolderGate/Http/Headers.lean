import HolderGate.Auth.Caller
import HolderGate.Auth.Denial
import HolderGate.Text.Blank

/-! Header fields of a request, and what is made of them: the bearer token, and the caller for
the audit log. -/
namespace HolderGate.Http
open Auth

structure Header where
  name : String
  value : Bytes
  deriving DecidableEq, Repr

def Header.of (name value : String) : Header := ⟨name.toLower, utf8 value⟩

abbrev Headers := List Header

def readable? (value : Bytes) : Option String :=
  if value.all (fun b => b == 9 || (0x20 ≤ b && b < 0x7F)) then text? value else none

namespace Headers

def first? (headers : Headers) (name : String) : Option Bytes :=
  (headers.find? (·.name = name)).map (·.value)

def scheme : String := "Bearer "

def afterScheme? (value : String) : Option String :=
  if scheme.toList.isPrefixOf value.toList then
    some (Text.trim (String.ofList (value.toList.drop scheme.toList.length)))
  else none

def bearer (headers : Headers) : Except Denial String :=
  match headers.first? "authorization" with
  | none => .error .missingHeader
  | some value =>
    match (readable? value).bind afterScheme? with
    | some token => if token.isEmpty then .error .badHeader else .ok token
    | none => .error .badHeader

def secrets : List String := ["authorization", "cookie"]

def audited (headers : Headers) : Identity.HeaderTable :=
  .ofList (headers.filterMap (fun h =>
    if h.name ∈ secrets then none else (readable? h.value).map (h.name, ·)))

def caller (headers : Headers) : Caller :=
  ⟨(headers.first? "x-forwarded-for" <|> headers.first? "host").bind readable?, headers.audited⟩

end Headers
end HolderGate.Http
