import HolderGate.Access.Feature
import HolderGate.SortedMap

/-! What a user holds of each token as of a block, and how it changes. -/
namespace HolderGate.Access
open Chain

inductive Change where
  | increase (amount : UInt64)
  | decrease (amount : UInt64)
  | set (amount : UInt64)
  deriving DecidableEq, Repr

def Change.apply (change : Change) (current : UInt64) : UInt64 :=
  match change with
  | increase amount => UInt64.ofNat (min (current.toNat + amount.toNat) (UInt64.size - 1))
  | decrease amount => UInt64.ofNat (current.toNat - amount.toNat)
  | set amount => amount

structure Delta where
  token : Token
  change : Change
  deriving DecidableEq, Repr

structure Holdings where
  user : String
  owned : SortedMap Token UInt64
  block : UInt64
  deriving DecidableEq, Repr

namespace Holdings

def fresh (user : String) (block : UInt64) : Holdings := ⟨user, .empty, block⟩

def balance (h : Holdings) (token : Token) : UInt64 := (h.owned.get? token).getD 0

def change (h : Holdings) (delta : Delta) : Holdings :=
  { h with owned := h.owned.insert delta.token (delta.change.apply (h.balance delta.token)) }

def apply (h : Holdings) (deltas : List Delta) : Holdings := deltas.foldl change h

def unlocks (h : Holdings) (f : Feature) : Bool := f.threshold ≤ h.balance f.token

def unlocked (h : Holdings) (features : List Feature) : List Feature := features.filter h.unlocks

def ownedOfMembers (members : List (String × UInt64)) : Option (SortedMap Token UInt64) :=
  -- Of one name the last member counts, and of different names for one token the greatest.
  let byName : SortedMap String UInt64 := .ofList members
  (byName.entries.mapM (fun (e : String × UInt64) => (Token.parse? e.1).map (·, e.2))).map .ofList

def membersOfOwned (owned : SortedMap Token UInt64) : List (String × UInt64) :=
  owned.entries.map (fun e => (e.1.text, e.2))

def fields : Json.Fields [String, SortedMap Token UInt64, UInt64] :=
  .cons (.required "user_id" .string) <|
  .cons (.required "required_tokens_owned"
    ((Json.Codec.table .uint64).such ownedOfMembers membersOfOwned)) <|
  .cons (.required "block_number" .uint64) .nil

def codec : Json.Codec Holdings :=
  fields.codec.map (fun (user, owned, block, ()) => ⟨user, owned, block⟩)
    (fun h => (h.user, h.owned, h.block, ()))

instance : Json.Document Holdings := ⟨codec⟩

end Holdings
end HolderGate.Access
