import HolderGate.Identity.Records

/-! What a session token claims. -/
namespace HolderGate.Auth
open Identity

structure Claims where
  wallet : Wallet
  issuer : String
  issuedAt : Int
  expires : Int
  deriving DecidableEq, Repr

namespace Claims

def fields : Json.Fields [Wallet, String, Int, Int] :=
  .cons (.required "address" Wallet.codec) <|
  .cons (.required "iss" .string) <|
  .cons (.required "iat" .integer) <|
  .cons (.required "exp" .integer) .nil

def codec : Json.Codec Claims :=
  fields.codec.map (fun (wallet, issuer, issuedAt, expires, ()) => ⟨wallet, issuer, issuedAt, expires⟩)
    (fun c => (c.wallet, c.issuer, c.issuedAt, c.expires, ()))

instance : Json.Document Claims := ⟨codec⟩

def scalar (orEmpty : Bool) : Json.Reader Unit := do
  match (← Json.peek) with
  | none => Json.fail .truncated
  | some b =>
    if b = 0x22 then let _ ← Json.string
    else if b = 0x5B ∨ b = 0x7B then
      Json.advance
      if orEmpty then
        if b = 0x5B then Json.closeArray else Json.closeObject
      else Json.fail .mismatched
    else Json.skip

def audience : Json.Reader Bool := fun input => do
  let names : Json.Reader Unit := do
    match (← Json.peek) with
    | some b => if b = 0x22 then let _ ← Json.string else let _ ← Json.array Json.string
    | none => Json.fail .truncated
  let ((), rest) ← Json.skip input
  .ok ((names input).toOption.isSome, rest)

def registered : Json.Fields [Option Unit, Option Unit, Option Bool] :=
  .cons (.optional "nbf" (.incoming (scalar true))) <|
  .cons (.optional "sub" (.incoming (scalar false))) <|
  .cons (.optional "aud" (.incoming audience)) .nil

def addressed? (payload : Bytes) : Option Bool :=
  ((Json.parse registered.codec.read payload).toOption).map
    (fun (_, _, audience, ()) => audience = some true)

end Claims

end HolderGate.Auth
