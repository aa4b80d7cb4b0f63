import HolderGate.Access.Notification

/-! The bus on which notifications go out to all who listen at that time. -/
namespace HolderGate.Sync

structure Message where
  topic : String
  payload : Bytes
  deriving DecidableEq, Repr

def backlog : Nat := 256

structure Inbox where
  lost : Nat
  waiting : List Message
  deriving DecidableEq, Repr

namespace Inbox

def empty : Inbox := ⟨0, []⟩

def deliver (i : Inbox) (m : Message) : Inbox :=
  let all := i.waiting ++ [m]
  ⟨i.lost + (all.length - backlog), all.drop (all.length - backlog)⟩

end Inbox

structure Bus where
  listener : Option Inbox
  observer : Option Inbox
  deriving DecidableEq, Repr

namespace Bus

def empty : Bus := ⟨none, none⟩

def listeners (b : Bus) : Nat := b.listener.toList.length + b.observer.toList.length

def publish (b : Bus) (m : Message) : Nat × Bus :=
  (b.listeners, ⟨b.listener.map (·.deliver m), b.observer.map (·.deliver m)⟩)

end Bus

def notice (topic : String) (n : Access.Notification) : Message := ⟨topic, Json.render n⟩

def heard? (topic : String) (m : Message) : Option Access.Notification :=
  if m.topic = topic then (Json.read m.payload).toOption else none

end HolderGate.Sync
