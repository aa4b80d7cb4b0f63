import HolderGate.Identity.Wallet
import HolderGate.SortedMap
import HolderGate.Time.Rfc3339

/-! The records kept about users, and their JSON forms. -/
namespace HolderGate.Identity
open Time

def timestampCodec : Json.Codec Timestamp := Json.Codec.string.such Rfc3339.read? Rfc3339.write

structure User where
  id : String
  username : Option String
  bio : Option String
  wallets : List Wallet
  createdAt : Timestamp
  updatedAt : Timestamp
  deriving DecidableEq, Repr

namespace User

def fields : Json.Fields [String, Option String, Option String, List Wallet, Timestamp, Timestamp] :=
  .cons (.required "id" .string) <|
  .cons (.optional "username" .string) <|
  .cons (.optional "bio" .string) <|
  .cons (.required "addresses" (.array Wallet.codec)) <|
  .cons (.required "created_at" timestampCodec) <|
  .cons (.required "updated_at" timestampCodec) .nil

def codec : Json.Codec User :=
  fields.codec.map
    (fun (id, username, bio, wallets, createdAt, updatedAt, ()) =>
      ⟨id, username, bio, wallets, createdAt, updatedAt⟩)
    (fun u => (u.id, u.username, u.bio, u.wallets, u.createdAt, u.updatedAt, ()))

instance : Json.Document User := ⟨codec⟩

end User

structure Nonce where
  id : String
  createdAt : Timestamp
  value : String
  user : Option String
  wallet : Wallet
  deriving DecidableEq, Repr

namespace Nonce

def fields : Json.Fields [String, Timestamp, String, Option String, Wallet] :=
  .cons (.required "id" .string) <|
  .cons (.required "created_at" timestampCodec) <|
  .cons (.required "value" .string) <|
  .cons (.optional "user_id" .string) <|
  .cons (.required "address" Wallet.codec) .nil

def codec : Json.Codec Nonce :=
  fields.codec.map (fun (id, createdAt, value, user, wallet, ()) => ⟨id, createdAt, value, user, wallet⟩)
    (fun n => (n.id, n.createdAt, n.value, n.user, n.wallet, ()))

instance : Json.Document Nonce := ⟨codec⟩

end Nonce

abbrev HeaderTable := SortedMap String String

def headerTableCodec : Json.Codec HeaderTable :=
  (Json.Codec.table .string).map .ofList SortedMap.entries

structure Attempt where
  id : String
  wallet : Wallet
  signature : String
  nonceValue : String
  userExists : Bool
  signatureValid : Bool
  host : Option String
  headers : HeaderTable
  createdAt : Timestamp
  deriving DecidableEq, Repr

namespace Attempt

def fields : Json.Fields
    [String, Wallet, String, String, Bool, Bool, Option String, HeaderTable, Timestamp] :=
  .cons (.required "id" .string) <|
  .cons (.required "address" Wallet.codec) <|
  .cons (.required "signature" .string) <|
  .cons (.required "nonce_value" .string) <|
  .cons (.required "user_exists" .boolean) <|
  .cons (.required "signature_valid" .boolean) <|
  .cons (.optional "request_host" .string) <|
  .cons (.defaulted "request_headers" headerTableCodec .empty) <|
  .cons (.required "created_at" timestampCodec) .nil

def codec : Json.Codec Attempt :=
  fields.codec.map
    (fun (id, wallet, signature, nonceValue, userExists, signatureValid, host, headers, createdAt, ()) =>
      ⟨id, wallet, signature, nonceValue, userExists, signatureValid, host, headers, createdAt⟩)
    (fun a => (a.id, a.wallet, a.signature, a.nonceValue, a.userExists, a.signatureValid, a.host,
      a.headers, a.createdAt, ()))

instance : Json.Document Attempt := ⟨codec⟩

end Attempt

structure SessionKey where
  id : String
  wallet : Wallet
  secret : String
  createdAt : Timestamp
  deriving DecidableEq, Repr

namespace SessionKey

def fields : Json.Fields [String, Wallet, String, Timestamp] :=
  .cons (.required "id" .string) <|
  .cons (.required "address" Wallet.codec) <|
  .cons (.required "secret_value" .string) <|
  .cons (.required "created_at" timestampCodec) .nil

def codec : Json.Codec SessionKey :=
  fields.codec.map (fun (id, wallet, secret, createdAt, ()) => ⟨id, wallet, secret, createdAt⟩)
    (fun k => (k.id, k.wallet, k.secret, k.createdAt, ()))

instance : Json.Document SessionKey := ⟨codec⟩

end SessionKey
end HolderGate.Identity
