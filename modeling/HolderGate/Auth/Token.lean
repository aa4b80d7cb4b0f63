import HolderGate.Auth.Claims
import HolderGate.Text.Base64Url
import HolderGate.Text.Split

/-! The text of a session token: a header, the claims and a keyed digest of both, each in base 64,
with dots between them. -/
namespace HolderGate.Auth

def digestName : String := "HS256"

def algorithms : List String :=
  [digestName, "HS384", "HS512", "ES256", "ES384", "RS256", "RS384", "RS512", "PS256", "PS384", "PS512",
    "EdDSA"]

def header : Bytes := Json.object [("typ", Json.quoted "JWT"), ("alg", Json.quoted digestName)]

def headerFields : Json.Fields [String, Option String, Option String, Option String, Option Unit,
    Option String, Option String, Option (List String), Option String, Option String,
    Option (List String), Option String, Option String, Option String, Option String] :=
  .cons (.required "alg" (Json.Codec.string.such (fun s => if s ∈ algorithms then some s else none) id)) <|
  .cons (.optional "typ" .string) <|
  .cons (.optional "cty" .string) <|
  .cons (.optional "jku" .string) <|
  .cons (.optional "jwk" (.incoming (Json.fail .mismatched))) <|
  .cons (.optional "kid" .string) <|
  .cons (.optional "x5u" .string) <|
  .cons (.optional "x5c" (.array .string)) <|
  .cons (.optional "x5t" .string) <|
  .cons (.optional "x5t#S256" .string) <|
  .cons (.optional "crit" (.array .string)) <|
  .cons (.optional "enc" .string) <|
  .cons (.optional "zip" .string) <|
  .cons (.optional "url" .string) <|
  .cons (.optional "nonce" .string) .nil

def algorithm? (octets : Bytes) : Option String :=
  let read : Json.Reader String := do
    match (← Json.peek) with
    | some b =>
      if b = 0x7B then
        Json.advance
        let (algorithm, _) ← headerFields.ofObject (do let _ ← Json.string)
        Json.closeObject
        pure algorithm
      else Json.fail .mismatched
    | none => Json.fail .truncated
  (Json.parse read octets).toOption

def dot : Char := '.'

structure Presented where
  algorithm : String
  claims : Claims
  payload : Bytes
  signed : Bytes
  signature : List Char
  deriving DecidableEq, Repr

def Presented.ofText? (token : String) : Option Presented :=
  match Text.split dot token.toList with
  | [head, body, signature] => do
    let algorithm ← algorithm? (← Text.Base64Url.decode? head)
    let payload ← Text.Base64Url.decode? body
    let claims ← (Json.read payload).toOption
    some ⟨algorithm, claims, payload, utf8 (String.ofList (head ++ dot :: body)), signature⟩
  | _ => none

end HolderGate.Auth
