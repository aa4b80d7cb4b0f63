import HolderGate.Chain.Address
import HolderGate.Chain.Word
import HolderGate.Net.Url

/-! The balances of a chain, and a node through which they are read one by one. -/
namespace HolderGate.Chain

inductive ChainError where
  | url (detail : String)
  | rpc (detail : String)
  | contract (detail : String)
  deriving DecidableEq, Repr

def ChainError.message : ChainError → String
  | url detail => "Invalid RPC URL: " ++ detail
  | rpc detail => "RPC error: " ++ detail
  | contract detail => "Contract error: " ++ detail

def nodeUrl (text : String) : Except ChainError Net.Url :=
  (Net.Url.parse text).mapError (fun e => .url e.message)

structure Ledger where
  fungible : Address → Address → Word
  owner : Address → Word → Option Address
  multi : Address → Word → Address → Word

namespace Ledger

def empty : Ledger := ⟨fun _ _ => 0, fun _ _ => none, fun _ _ _ => 0⟩

def setFungible (l : Ledger) (contract account : Address) (amount : Word) : Ledger :=
  { l with fungible := fun c a => if c = contract ∧ a = account then amount else l.fungible c a }

def setOwner (l : Ledger) (contract : Address) (id : Word) (account : Address) : Ledger :=
  { l with owner := fun c i => if c = contract ∧ i = id then some account else l.owner c i }

def setMulti (l : Ledger) (contract : Address) (id : Word) (account : Address) (amount : Word) : Ledger :=
  { l with multi := fun c i a => if c = contract ∧ i = id ∧ a = account then amount else l.multi c i a }

end Ledger

structure Reader where
  block : Except ChainError UInt64
  fungible : Address → Address → Except ChainError Word
  owner : Address → Word → Except ChainError Address
  multi : Address → Word → Address → Except ChainError Word

def Reader.unreachable (detail : String) : Reader where
  block := .error (.rpc detail)
  fungible _ _ := .error (.contract detail)
  owner _ _ := .error (.contract detail)
  multi _ _ _ := .error (.contract detail)

structure Node where
  ledger : Ledger
  block : UInt64
  headless : Bool
  seconds : Nat
  failing : List Address

namespace Node

def idle : Node := ⟨.empty, 0, false, 0, []⟩

def balance (n : Node) (account : Address) (amount : Word) : Except ChainError Word :=
  if account ∈ n.failing then .error (.contract "the balance cannot be read") else .ok amount

def reader (n : Node) : Reader where
  block := if n.headless then .error (.rpc "no head") else .ok n.block
  fungible contract account := n.balance account (n.ledger.fungible contract account)
  owner contract id :=
    match n.ledger.owner contract id with
    | some account => .ok account
    | none => .error (.contract "the token has no owner")
  multi contract id account := n.balance account (n.ledger.multi contract id account)

end Node
end HolderGate.Chain
