import HolderGate.Auth.Account
import HolderGate.Sync.Recount

/-! Responses, and the errors that requests are answered with. The detail of what went wrong inside
is not told. -/
namespace HolderGate.Http
open Access Auth Identity

inductive Body where
  | text (s : String)
  | json (octets : Bytes)
  deriving DecidableEq, Repr

structure Response where
  status : Nat
  body : Body
  deriving DecidableEq, Repr

namespace Response

def json (status : Nat) (members : List (String × Bytes)) : Response :=
  ⟨status, .json (Json.object members)⟩

def bare (r : Response) : Response :=
  { r with body := match r.body with
    | .text _ => .text ""
    | .json _ => .json [] }

end Response

structure Failure where
  status : Nat
  message : String
  deriving DecidableEq, Repr

namespace Failure

def notFound (message : String) : Failure := ⟨404, message⟩

def badRequest (message : String) : Failure := ⟨400, message⟩

def conflict (message : String) : Failure := ⟨409, message⟩

def unauthorized (message : String) : Failure := ⟨401, message⟩

def unavailable (message : String) : Failure := ⟨503, message⟩

def internal (_detail : String) : Failure := ⟨500, "internal error"⟩

def ofStore : StoreError → Failure
  | .absent what => notFound (what ++ " not found")
  | .taken what => conflict (what ++ " already exists")
  | e => internal e.message

def ofDenial : Denial → Failure
  | .internal detail => internal detail
  | d => ⟨d.status, d.message⟩

def ofAccount : AccountError → Failure
  | .signature e => badRequest (AccountError.message (.signature e))
  | .userNotFound wallet => notFound (AccountError.message (.userNotFound wallet))
  | .addressTaken wallet => conflict (AccountError.message (.addressTaken wallet))
  | .storage e => ofStore e
  | .session d => ofDenial d

def response (f : Failure) : Response := .json f.status [("error", Json.quoted f.message)]

end Failure

def denied (d : Denial) : Response :=
  .json d.status [("error", Json.quoted d.message), ("error_code", Json.quoted d.code)]

def textOrNull (t : Option String) : Bytes := (t.map Json.quoted).getD Json.nothing

def outcomeMembers : Outcome → List (String × Bytes)
  | .rejected wallet => [("signature_valid", Json.flag false), ("address", Json.quoted wallet.text)]
  | .accepted wallet user token =>
    ("signature_valid", Json.flag true) ::
      (token.toList.map (fun t => ("jwt_token", Json.quoted t)) ++
        [("user_id", Json.quoted user), ("address", Json.quoted wallet.text)])

def userMembers (u : User) : List (String × Bytes) :=
  [("user_id", Json.quoted u.id), ("username", textOrNull u.username), ("bio", textOrNull u.bio),
    ("addresses", Json.list (u.wallets.map (fun w => Json.quoted w.text)))]

def featureList (features : List Feature) : Bytes := Json.list (features.map Json.render)

end HolderGate.Http
