import HolderGate.Http.Headers
import HolderGate.Http.MediaType
import HolderGate.Http.Query
import HolderGate.Http.Response

/-! Requests, and what is taken from them. -/
namespace HolderGate.Http
open Identity Auth

inductive Method where
  | get
  | head
  | post
  | options
  | other
  deriving DecidableEq, Repr

def Method.ofName : String → Method
  | "GET" => get
  | "HEAD" => head
  | "POST" => post
  | "OPTIONS" => options
  | _ => other

structure Request where
  method : Method
  path : String
  query : String
  headers : Headers
  body : Bytes
  deriving DecidableEq, Repr

def Request.ofTarget (method : Method) (target : String) (headers : Headers) (body : Bytes) : Request :=
  let (target, _) := Text.cut '#' target.toList
  let (path, query) := Text.cut '?' target
  ⟨method, String.ofList path, String.ofList (query.getD []), headers, body⟩

structure Challenge where
  address : String
  signature : String
  nonce : Option String
  deriving DecidableEq, Repr

namespace Challenge

def fields : Json.Fields [String, String, Option String] :=
  .cons (.required "address" .string) <|
  .cons (.required "signature" .string) <|
  .cons (.sparse "nonce" .string) .nil

def codec : Json.Codec Challenge :=
  fields.codec.map (fun (address, signature, nonce, ()) => ⟨address, signature, nonce⟩)
    (fun c => (c.address, c.signature, c.nonce, ()))

instance : Json.Document Challenge := ⟨codec⟩

end Challenge

structure Profile where
  username : Option String
  bio : Option String
  deriving DecidableEq, Repr

namespace Profile

def fields : Json.Fields [Option String, Option String] :=
  .cons (.optional "username" .string) <| .cons (.optional "bio" .string) .nil

def codec : Json.Codec Profile :=
  fields.codec.map (fun (username, bio, ()) => ⟨username, bio⟩) (fun p => (p.username, p.bio, ()))

instance : Json.Document Profile := ⟨codec⟩

end Profile

abbrev Extract := Except Response

def parameter (r : Request) (name : String) : Extract String :=
  match Query.only? r.query name with
  | some v => .ok v
  | none => .error ⟨400, .text ("Failed to deserialize query string: " ++ name ++ " is due once")⟩

def document (α : Type) [Json.Document α] (r : Request) : Extract α :=
  if ((r.headers.first? "content-type").bind readable?).any MediaType.isJson then
    match (Json.read r.body : Except Json.Fault α) with
    | .ok v => .ok v
    | .error .mismatched =>
      .error ⟨422, .text ("Failed to deserialize the JSON body into the target type: " ++
        StoreError.faultText .mismatched)⟩
    | .error fault =>
      .error ⟨400, .text ("Failed to parse the request body as JSON: " ++ StoreError.faultText fault)⟩
  else .error ⟨415, .text "Expected request with `Content-Type: application/json`"⟩

def wallet (text : String) : Extract Wallet :=
  match Wallet.parse? text with
  | some w => .ok w
  | none => .error (Failure.badRequest ("invalid address: " ++ text)).response

def addressed (r : Request) : Extract Wallet := do wallet (← parameter r "address")

def challenge (r : Request) : Extract Proof := do
  let c ← document Challenge r
  .ok ⟨← wallet c.address, c.signature, c.nonce⟩

end HolderGate.Http
