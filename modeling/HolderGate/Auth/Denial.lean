/-! Why the bearer of a token is turned away. -/
namespace HolderGate.Auth

inductive Denial where
  | missingHeader
  | badHeader
  | malformedToken
  | badSignature
  | expired
  | wrongIssuer
  | internal (detail : String)
  deriving DecidableEq, Repr

namespace Denial

def code : Denial → String
  | missingHeader => "missing_auth_header"
  | badHeader => "invalid_auth_header"
  | malformedToken => "malformed_token"
  | badSignature => "invalid_signature"
  | expired => "token_expired"
  | wrongIssuer => "invalid_issuer"
  | internal _ => "internal_error"

def message : Denial → String
  | missingHeader => "Authorization header is required"
  | badHeader => "Invalid authorization header format (expected 'Bearer <token>')"
  | malformedToken => "Token is malformed"
  | badSignature => "Token signature is invalid"
  | expired => "Token has expired"
  | wrongIssuer => "Token issuer is invalid"
  | internal detail => "Internal authentication error: " ++ detail

def status : Denial → Nat
  | internal _ => 500
  | _ => 401

end Denial
end HolderGate.Auth
