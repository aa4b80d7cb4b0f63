import HolderGate.Access.Notification
import HolderGate.Auth.Caller
import HolderGate.Auth.Challenge
import HolderGate.Auth.Session
import HolderGate.Auth.Signature

/-! Accounts of those who can sign for a wallet. A signature over the live nonce of the wallet
opens an account, starts a session or links another wallet, and uses the nonce up. Every signature
that is looked at goes into the audit log. -/
namespace HolderGate.Auth
open Identity Access

inductive AccountError where
  | signature (e : SignatureError)
  | userNotFound (wallet : Wallet)
  | addressTaken (wallet : Wallet)
  | storage (e : StoreError)
  | session (d : Denial)
  deriving DecidableEq, Repr

def AccountError.message : AccountError → String
  | signature e => "malformed signature: " ++ e.message
  | userNotFound wallet => "no user for address " ++ wallet.text
  | addressTaken wallet => "address " ++ wallet.text ++ " already belongs to a user"
  | storage e => "storage error: " ++ e.message
  | session d => "session error: " ++ d.message

/-- Steps that may fail on the way, and whose effects until then remain. -/
abbrev Action := ExceptT AccountError (StateM Store)

namespace Action

def read {α : Type} (f : Store → Except StoreError α) : Action α := fun s =>
  match f s with
  | .ok v => (.ok v, s)
  | .error e => (.error (.storage e), s)

def transact {α : Type} (f : Store → Except StoreError (α × Store)) : Action α := fun s =>
  match f s with
  | .ok (v, s) => (.ok v, s)
  | .error e => (.error (.storage e), s)

def claiming {α : Type} (wallet : Wallet) (f : Store → Except StoreError (α × Store)) : Action α :=
  fun s =>
    match f s with
    | .ok (v, s) => (.ok v, s)
    | .error (.taken _) => (.error (.addressTaken wallet), s)
    | .error e => (.error (.storage e), s)

def effect {α : Type} (f : Store → α × Store) : Action α := fun s =>
  let (v, s) := f s
  (.ok v, s)

end Action

inductive Outcome where
  | rejected (wallet : Wallet)
  | accepted (wallet : Wallet) (user : String) (token : Option String)
  deriving DecidableEq, Repr

structure Preflight where
  nonce : String
  userExists : Bool
  deriving DecidableEq, Repr

structure Proof where
  wallet : Wallet
  signature : String
  nonce : Option String
  deriving DecidableEq, Repr

namespace Account

def userOf? (wallet : Wallet) : Action (Option User) :=
  .read (fun s =>
    match s.userOf wallet with
    | .ok u => .ok (some u)
    | .error (.absent _) => .ok none
    | .error e => .error e)

def requireUser (wallet : Wallet) : Action User := do
  match (← userOf? wallet) with
  | some u => pure u
  | none => throw (.userNotFound wallet)

def preflight (supply : Supply) (wallet : Wallet) : Action Preflight := do
  match (← userOf? wallet) with
  | some u =>
    let n ← .transact (Challenge.liveOrIssue (supply 0) wallet (some u.id))
    pure ⟨n.value, true⟩
  | none =>
    let n ← .effect (Challenge.issue (supply 0) wallet none)
    pure ⟨n.value, false⟩

def verdict (scheme : Scheme) (live : Option Nonce) (p : Proof) : Except SignatureError Bool :=
  match live with
  | none => .ok false
  | some n =>
    if p.nonce.all (· == n.value) then verify scheme p.signature (utf8 n.value) p.wallet else .ok false

def settle (draw : Draw) (wallet : Wallet) (value : String) (owner : Option String)
    (v : Except SignatureError Bool) : Action (Except SignatureError Bool) :=
  match v with
  | .ok true => do
    match (← .transact (Challenge.consume draw wallet value owner)) with
    | some _ => pure (.ok true)
    -- Another request has used it up since it was looked at.
    | none => pure (.ok false)
  | v => pure v

def check (scheme : Scheme) (supply : Supply) (caller : Caller) (owner : Option String) (p : Proof) :
    Action Bool := do
  let live ← .read (fun s => s.liveNonce p.wallet)
  let value := (live.map (·.value)).getD ""
  let v ← settle (supply 0) p.wallet value owner (verdict scheme live p)
  let valid := match v with
    | .ok b => b
    | .error _ => false
  let attempt : Attempt := ⟨(supply 1).id, p.wallet, p.signature, value, owner.isSome, valid,
    caller.host, caller.headers, (supply 1).now⟩
  .effect (fun s => ((), s.recordAttempt attempt))
  match v with
  | .ok b => pure b
  | .error e => throw (.signature e)

def newUser (draw : Draw) (wallet : Wallet) : User := ⟨draw.id, none, none, [wallet], draw.now, draw.now⟩

def create (scheme : Scheme) (issuer : Issuer) (supply : Supply) (caller : Caller) (p : Proof) :
    Action (Outcome × Option Notification) := do
  if (← userOf? p.wallet).isSome then throw (.addressTaken p.wallet)
  if ← check scheme supply caller none p then
    let u := newUser (supply 2) p.wallet
    .claiming p.wallet (fun s => (s.createUser u).map ((), ·))
    let token ← .effect (issuer.issue (supply 3) p.wallet)
    pure (.accepted p.wallet u.id (some token), some ⟨u.id, .signup, some p.wallet⟩)
  else pure (.rejected p.wallet, none)

def login (scheme : Scheme) (issuer : Issuer) (supply : Supply) (caller : Caller) (p : Proof) :
    Action Outcome := do
  let u ← requireUser p.wallet
  if ← check scheme supply caller (some u.id) p then
    let token ← .effect (issuer.issue (supply 2) p.wallet)
    pure (.accepted p.wallet u.id (some token))
  else pure (.rejected p.wallet)

def addWallet (scheme : Scheme) (supply : Supply) (caller : Caller) (session : Wallet) (p : Proof) :
    Action (Outcome × Option Notification) := do
  let u ← requireUser session
  let owner := (← userOf? p.wallet).map (·.id)
  if owner.any (· != u.id) then throw (.addressTaken p.wallet)
  if ← check scheme supply caller owner p then
    let _ ← .claiming p.wallet (fun s => s.linkWallet u.id p.wallet (supply 2).now)
    pure (.accepted p.wallet u.id none, some ⟨u.id, .addressAdded, some p.wallet⟩)
  else pure (.rejected p.wallet, none)

def view (wallet : Wallet) : Action User := requireUser wallet

def update (supply : Supply) (session : Wallet) (username bio : Option String) : Action User := do
  let u ← requireUser session
  .transact (fun s => s.updateProfile u.id username bio (supply 0).now)

end Account
end HolderGate.Auth
