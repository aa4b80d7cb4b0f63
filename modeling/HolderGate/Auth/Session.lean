import HolderGate.Auth.Denial
import HolderGate.Auth.Token
import HolderGate.Crypto.Sha256
import HolderGate.Identity.Supply
import HolderGate.Store.Basic

/-! Session tokens: claims about a wallet under a keyed digest. The key is the newest secret of
the wallet, so a token ends the ones that were issued before it. -/
namespace HolderGate.Auth
open Identity Time

structure Issuer where
  name : String
  lifetime : Int
  mac : Bytes → Bytes → Bytes

def Issuer.standard (name : String) (lifetime : Int) : Issuer := ⟨name, lifetime, Crypto.Sha256.mac⟩

def leeway : Int := 60

def secretLength : Nat := 32

namespace Issuer

def sign (issuer : Issuer) (secret : String) (claims : Claims) : String :=
  let body := Text.Base64Url.encode header ++ dot :: Text.Base64Url.encode (Json.render claims)
  let signature := issuer.mac (utf8 secret) (utf8 (String.ofList body))
  String.ofList (body ++ dot :: Text.Base64Url.encode signature)

def claims (issuer : Issuer) (wallet : Wallet) (now : Timestamp) : Claims :=
  -- The sum is one of signed words of 64 bits, for clocks and lifetimes with which it fits one.
  ⟨wallet, issuer.name, now.seconds, now.seconds + issuer.lifetime⟩

def issue (issuer : Issuer) (draw : Draw) (wallet : Wallet) (s : Store) : String × Store :=
  let key : SessionKey := ⟨draw.id, wallet, draw.secret secretLength, draw.now⟩
  (issuer.sign key.secret (issuer.claims wallet draw.now), s.insertSessionKey key)

def authentic (issuer : Issuer) (secret : String) (t : Presented) : Except Denial Unit :=
  match Text.Base64Url.decode? t.signature with
  | none => .error .malformedToken
  | some signature =>
    if issuer.mac (utf8 secret) t.signed = signature then .ok () else .error .badSignature

def current (issuer : Issuer) (now : Timestamp) (t : Presented) : Except Denial Unit :=
  match Claims.addressed? t.payload with
  | none => .error .malformedToken
  | some addressed =>
    if t.claims.expires < 0 then .error .malformedToken
    else if t.claims.expires < now.seconds - leeway then .error .expired
    else if t.claims.issuer ≠ issuer.name then .error .wrongIssuer
    else if addressed then .error .malformedToken
    else .ok ()

def keyOf (s : Store) (wallet : Wallet) : Except Denial SessionKey :=
  match s.latestSessionKey wallet with
  | .ok key => .ok key
  | .error (.absent _) => .error .badSignature
  | .error e => .error (.internal e.message)

def verify (issuer : Issuer) (s : Store) (now : Timestamp) (token : String) : Except Denial Wallet :=
  match Presented.ofText? token with
  | none => .error .malformedToken
  | some t => do
    let key ← keyOf s t.claims.wallet
    if t.algorithm ≠ digestName then .error .malformedToken
    else
      issuer.authentic key.secret t
      issuer.current now t
      if t.claims.wallet = key.wallet then .ok t.claims.wallet else .error .badSignature

end Issuer
end HolderGate.Auth
