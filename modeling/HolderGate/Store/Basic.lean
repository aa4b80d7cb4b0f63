import HolderGate.Access.Holdings
import HolderGate.Identity.Records
import HolderGate.Store.Error
import HolderGate.Store.Newest

/-! The documents that are kept, and the transactions on them. A transaction that fails
changes nothing. -/
namespace HolderGate
open Access Identity Time

abbrev Stored (α : Type) := Except Json.Fault α

structure Store where
  users : SortedMap String (Stored User)
  owners : SortedMap String String
  nonces : SortedMap Bytes (Stored Nonce)
  sessionKeys : SortedMap Bytes (Stored SessionKey)
  attempts : SortedMap String (Stored Attempt)
  features : SortedMap String (Stored Feature)
  holdings : SortedMap String (Stored Holdings)

namespace Store

def empty : Store := ⟨.empty, .empty, .empty, .empty, .empty, .empty, .empty⟩

def opened {α : Type} : Stored α → Except StoreError α
  | .ok v => .ok v
  | .error fault => .error (.unreadable fault)

def found {α : Type} (what : String) : Option (Stored α) → Except StoreError α
  | some document => opened document
  | none => .error (.absent what)

def userText (id : String) : String := "User " ++ id

def ownerText (wallet : Wallet) : String := "User for " ++ wallet.text

def user (s : Store) (id : String) : Except StoreError User := found (userText id) (s.users.get? id)

def owner? (s : Store) (wallet : Wallet) : Option String := s.owners.get? wallet.text

def userOf (s : Store) (wallet : Wallet) : Except StoreError User :=
  match s.owner? wallet with
  | some id => s.user id
  | none => .error (.absent (ownerText wallet))

def putUser (s : Store) (id : String) (u : User) : Store := { s with users := s.users.insert id (.ok u) }

def own (s : Store) (wallet : Wallet) (id : String) : Store :=
  { s with owners := s.owners.insert wallet.text id }

def createUser (s : Store) (u : User) : Except StoreError Store :=
  match u.wallets.find? (fun wallet => (s.owner? wallet).isSome) with
  | some wallet => .error (.taken (ownerText wallet))
  | none => .ok ((u.wallets.foldl (fun s wallet => s.own wallet u.id) s).putUser u.id u)

def updateProfile (s : Store) (id : String) (username bio : Option String) (now : Timestamp) :
    Except StoreError (User × Store) := do
  let u ← s.user id
  let next := { u with username := username <|> u.username, bio := bio <|> u.bio, updatedAt := now }
  .ok (next, s.putUser id next)

def linkWallet (s : Store) (id : String) (wallet : Wallet) (now : Timestamp) :
    Except StoreError (User × Store) := do
  let u ← s.user id
  match s.owner? wallet with
  | some owner => if owner = id then .ok (u, s) else .error (.taken (ownerText wallet))
  | none =>
    let next := { u with wallets := u.wallets ++ [wallet], updatedAt := now }
    .ok (next, (s.own wallet id).putUser id next)

def nonceText (wallet : Wallet) : String := "Nonce for " ++ wallet.text

def insertNonce (s : Store) (n : Nonce) : Store :=
  { s with nonces := s.nonces.insert (Newest.key n.wallet n.createdAt n.id) (.ok n) }

def liveNonce (s : Store) (wallet : Wallet) : Except StoreError (Option Nonce) :=
  match Newest.first s.nonces wallet with
  | none => .ok none
  | some document => some <$> opened document

def latestNonce (s : Store) (wallet : Wallet) : Except StoreError Nonce :=
  found (nonceText wallet) (Newest.first s.nonces wallet)

def later (own previous : Timestamp) : Timestamp := if own ≤ previous then previous.next else own

/-- Puts a successor in the place of the live nonce of its wallet, if that has the expected value.
Nothing comes back where it has not. -/
def consumeNonce (s : Store) (expected : String) (next : Nonce) :
    Except StoreError (Option Nonce × Store) := do
  match (← s.liveNonce next.wallet) with
  | none => .ok (none, s)
  | some live =>
    if live.value = expected then
      let next := { next with createdAt := later next.createdAt live.createdAt }
      .ok (some next, s.insertNonce next)
    else .ok (none, s)

def recordAttempt (s : Store) (a : Attempt) : Store :=
  { s with attempts := s.attempts.insert a.id (.ok a) }

def attemptsOf (s : Store) (wallet : Wallet) : Except StoreError (List Attempt) := do
  let all ← s.attempts.values.mapM opened
  .ok ((all.filter (·.wallet = wallet)).mergeSort (fun a b => a.createdAt ≤ b.createdAt))

def sessionKeyText (wallet : Wallet) : String := "Session key for " ++ wallet.text

def insertSessionKey (s : Store) (k : SessionKey) : Store :=
  { s with sessionKeys := s.sessionKeys.insert (Newest.key k.wallet k.createdAt k.id) (.ok k) }

def latestSessionKey (s : Store) (wallet : Wallet) : Except StoreError SessionKey :=
  found (sessionKeyText wallet) (Newest.first s.sessionKeys wallet)

def featureText (name : String) : String := "Feature flag " ++ name

def insertFeature (s : Store) (f : Feature) : Except StoreError Store :=
  if s.features.contains f.name then .error (.taken (featureText f.name))
  else .ok { s with features := s.features.insert f.name (.ok f) }

def feature (s : Store) (name : String) : Except StoreError Feature :=
  found (featureText name) (s.features.get? name)

def allFeatures (s : Store) : Except StoreError (List Feature) := s.features.values.mapM opened

def seed (s : Store) (features : List Feature) : Nat × Store :=
  features.foldl (fun (added, s) f =>
    match s.insertFeature f with
    | .ok s => (added + 1, s)
    | .error _ => (added, s)) (0, s)

def holdingsText (user : String) : String := "Access state for " ++ user

def holdingsOf (s : Store) (user : String) : Except StoreError Holdings :=
  found (holdingsText user) (s.holdings.get? user)

def putHoldings (s : Store) (user : String) (h : Holdings) : Store :=
  { s with holdings := s.holdings.insert user (.ok h) }

inductive Applied where
  | applied (holdings : Holdings)
  | stale (stored : UInt64)
  | missing
  deriving DecidableEq, Repr

def applyChanges (s : Store) (user : String) (deltas : List Delta) (block : UInt64) :
    Except StoreError (Applied × Store) :=
  match s.holdings.get? user with
  | none => .ok (.missing, s)
  | some document => do
    let h ← opened document
    if block < h.block then .ok (.stale h.block, s)
    else
      let next := { h.apply deltas with block }
      .ok (.applied next, s.putHoldings user next)

def featuresOf (s : Store) (user : String) : Except StoreError (List Feature) := do
  let h ← match s.holdings.get? user with
    | none => .ok (Holdings.fresh user 0)
    | some document => opened document
  let features ← s.allFeatures
  .ok (h.unlocked features)

end Store
end HolderGate
