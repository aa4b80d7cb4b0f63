import HolderGate.Auth.Account
import HolderGate.Sync.Bus
import HolderGate.Sync.Pool

/-! The whole service: accounts, the bus on which they are announced, and the work that follows. -/
namespace HolderGate
open Identity Access Auth Sync

structure Service extends Workroom where
  scheme : Scheme
  issuer : Issuer
  topic : String
  bus : Bus
  /-- Whether a listener was started that asks for recounts. -/
  attended : Bool

namespace Service

def publish (svc : Service) (m : Message) : Nat × Service :=
  let (reached, bus) := svc.bus.publish m
  (reached, { svc with bus })

def announce (svc : Service) (n : Access.Notification) : Nat × Service := svc.publish (notice svc.topic n)

def announceAny (svc : Service) (n : Option Access.Notification) : Service :=
  match n with
  | some n => (svc.announce n).2
  | none => svc

def observe (svc : Service) : Service := { svc with bus := { svc.bus with observer := some .empty } }

def collect (svc : Service) : Inbox × Service :=
  ((svc.bus.observer).getD .empty,
    { svc with bus := { svc.bus with observer := svc.bus.observer.map (fun _ => .empty) } })

def hear (topic : String) (q : Queue) (m : Message) : Queue :=
  match heard? topic m with
  | some n => (q.request n.user).2
  | none => q

def listen (svc : Service) : Service :=
  match svc.bus.listener with
  | none => svc
  | some inbox =>
    { svc with
      queue := inbox.waiting.foldl (hear svc.topic) svc.queue
      bus := { svc.bus with listener := some .empty } }

def settle (svc : Service) : Service :=
  let svc := svc.listen
  { svc with toWorkroom := svc.toWorkroom.drain }

def advance (svc : Service) (seconds : Nat) : Service :=
  { svc with toWorkroom := svc.toWorkroom.advance seconds }

def ended (svc : Service) : List Bool :=
  (if svc.attended then [svc.bus.listener.isNone] else []) ++ svc.pool.toList.map Pool.finished

def shutdown (svc : Service) : Service :=
  { svc with toWorkroom := svc.toWorkroom.stop, bus := { svc.bus with listener := none } }

def rewire (svc : Service) (issuer : Issuer) : Service :=
  let svc := svc.settle
  { svc with bus := .empty, issuer }

def perform {α : Type} (svc : Service) (a : Action α) : Except AccountError α × Service :=
  let (result, store) := a svc.store
  (result, { svc with store })

def performAnd {α : Type} (svc : Service) (a : Action (α × Option Access.Notification)) :
    Except AccountError α × Service :=
  match svc.perform a with
  | (.ok (v, n), svc) => (.ok v, svc.announceAny n)
  | (.error e, svc) => (.error e, svc)

def preflight (svc : Service) (supply : Supply) (wallet : Wallet) :
    Except AccountError Preflight × Service :=
  svc.perform (Account.preflight supply wallet)

def create (svc : Service) (supply : Supply) (caller : Caller) (p : Proof) :
    Except AccountError Outcome × Service :=
  svc.performAnd (Account.create svc.scheme svc.issuer supply caller p)

def login (svc : Service) (supply : Supply) (caller : Caller) (p : Proof) :
    Except AccountError Outcome × Service :=
  svc.perform (Account.login svc.scheme svc.issuer supply caller p)

def addWallet (svc : Service) (supply : Supply) (caller : Caller) (session : Wallet) (p : Proof) :
    Except AccountError Outcome × Service :=
  svc.performAnd (Account.addWallet svc.scheme supply caller session p)

def view (svc : Service) (wallet : Wallet) : Except AccountError User :=
  (svc.perform (Account.view wallet)).1

def update (svc : Service) (supply : Supply) (session : Wallet) (username bio : Option String) :
    Except AccountError User × Service :=
  svc.perform (Account.update supply session username bio)

def request (svc : Service) (user : String) : Bool × Service :=
  let (queued, queue) := svc.queue.request user
  (queued, { svc with queue })

end Service
end HolderGate
