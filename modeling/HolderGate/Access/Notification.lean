import HolderGate.Identity.Wallet

/-! Notifications about accounts whose holdings are to be looked at again. -/
namespace HolderGate.Access
open Identity

inductive Occasion where
  | signup
  | addressAdded
  deriving DecidableEq, Repr

namespace Occasion

def name : Occasion → String
  | signup => "signup"
  | addressAdded => "address_added"

def codec : Json.Codec Occasion := .named ([signup, addressAdded].map (fun o => (o.name, o))) name

instance : Json.Document Occasion := ⟨codec⟩

end Occasion

structure Notification where
  user : String
  occasion : Occasion
  wallet : Option Wallet
  deriving DecidableEq, Repr

namespace Notification

def fields : Json.Fields [String, Occasion, Option Wallet] :=
  .cons (.required "user_id" .string) <|
  .cons (.defaulted "event" Occasion.codec .signup) <|
  .cons (.sparse "address" Wallet.codec) .nil

def codec : Json.Codec Notification :=
  fields.codec.map (fun (user, occasion, wallet, ()) => ⟨user, occasion, wallet⟩)
    (fun n => (n.user, n.occasion, n.wallet, ()))

instance : Json.Document Notification := ⟨codec⟩

end Notification
end HolderGate.Access
