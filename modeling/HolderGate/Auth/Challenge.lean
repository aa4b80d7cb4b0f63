import HolderGate.Identity.Supply
import HolderGate.Store.Basic

/-! Challenges: nonces that wallets are asked to sign. -/
namespace HolderGate.Auth.Challenge
open Identity

def valueLength : Nat := 16

def fresh (draw : Draw) (wallet : Wallet) (user : Option String) : Nonce :=
  ⟨draw.id, draw.now, draw.secret valueLength, user, wallet⟩

def issue (draw : Draw) (wallet : Wallet) (user : Option String) (s : Store) : Nonce × Store :=
  let n := fresh draw wallet user
  (n, s.insertNonce n)

def liveOrIssue (draw : Draw) (wallet : Wallet) (user : Option String) (s : Store) :
    Except StoreError (Nonce × Store) := do
  match (← s.liveNonce wallet) with
  | some n => .ok (n, s)
  | none => .ok (issue draw wallet user s)

def consume (draw : Draw) (wallet : Wallet) (value : String) (user : Option String) (s : Store) :
    Except StoreError (Option Nonce × Store) :=
  s.consumeNonce value (fresh draw wallet user)

end HolderGate.Auth.Challenge
