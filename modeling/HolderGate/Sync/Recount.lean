import HolderGate.Access.Transfer
import HolderGate.Chain.Node
import HolderGate.Store.Basic

/-! Two ways to keep holdings in step with the chain: a transfer changes what its endpoints hold,
and a recount reads everything anew for one user. -/
namespace HolderGate.Sync
open Access Chain Identity

inductive SyncError where
  | storage (e : StoreError)
  | chain (e : ChainError)
  deriving DecidableEq, Repr

def SyncError.message : SyncError → String
  | storage e => "storage error: " ++ e.message
  | chain e => "chain error: " ++ e.message

structure Report where
  applied : List String
  stale : List String
  missing : List String
  deriving DecidableEq, Repr

namespace Report

def empty : Report := ⟨[], [], []⟩

def add (r : Report) (user : String) : Store.Applied → Report
  | .applied _ => { r with applied := r.applied ++ [user] }
  | .stale _ => { r with stale := r.stale ++ [user] }
  | .missing => { r with missing := r.missing ++ [user] }

end Report

def userAt? (s : Store) (endpoint : Address) : Option String :=
  if endpoint = .zero then none else s.owner? (.ofAddress endpoint)

def applyAt (block : UInt64) (endpoint : Address) (deltas : List Delta) (r : Report) (s : Store) :
    Except StoreError Report × Store :=
  if deltas.isEmpty then (.ok r, s)
  else match userAt? s endpoint with
    | none => (.ok r, s)
    | some user =>
      match s.applyChanges user deltas block with
      | .ok (result, s) => (.ok (r.add user result), s)
      | .error e => (.error e, s)

def applyTransfer (log : Mined) (s : Store) : Except StoreError Report × Store :=
  match log.event.endpoints? with
  | none => (.ok .empty, s)
  | some (sender, receiver) =>
    let (given, taken) := changes log.contract log.event
    match applyAt log.block sender given .empty s with
    | (.ok r, s) => applyAt log.block receiver taken r s
    | (.error e, s) => (.error e, s)

structure Recount where
  user : User
  id : String
  features : List Feature
  deriving DecidableEq, Repr

namespace Recount

def start (id : String) (s : Store) : Except StoreError Recount := do
  let user ← s.user id
  let features ← s.allFeatures
  .ok ⟨user, id, features⟩

def total (reads : List (Except ChainError Word)) : Word :=
  reads.foldl (fun sum read =>
    match read with
    | .ok amount => Word.saturatingAdd sum amount
    | .error _ => sum) 0

def owned (chain : Reader) (owners : List Address) (f : Feature) : UInt64 :=
  match f.standard with
  | .erc20 => (total (owners.map (chain.fungible f.token.contract))).clamp
  | .erc1155 => (total (owners.map (chain.multi f.token.contract f.token.id))).clamp
  | .erc721 =>
    match chain.owner f.token.contract f.token.id with
    | .ok holder => if owners.contains holder then 1 else 0
    | .error _ => 0

def count (chain : Reader) (owners : List Address) (h : Holdings) (f : Feature) : Holdings :=
  if h.owned.contains f.token then h
  else { h with owned := h.owned.insert f.token (owned chain owners f) }

def holdings (r : Recount) (chain : Reader) (block : UInt64) : Holdings :=
  r.features.foldl (count chain (r.user.wallets.map Wallet.address)) (.fresh r.id block)

def finish (r : Recount) (chain : Reader) (s : Store) : Except SyncError (Holdings × Store) :=
  match chain.block with
  | .error e => .error (.chain e)
  | .ok block =>
    let h := r.holdings chain block
    .ok (h, s.putHoldings h.user h)

end Recount

def recount (chain : Reader) (id : String) (s : Store) : Except SyncError (Holdings × Store) :=
  match Recount.start id s with
  | .error e => .error (.storage e)
  | .ok r => r.finish chain s

end HolderGate.Sync
