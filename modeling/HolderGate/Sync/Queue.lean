import HolderGate.Chain.Event

/-! The bounded queue of work on holdings. -/
namespace HolderGate.Sync
open Chain

inductive Job where
  | transfer (log : Mined)
  | recount (user : String)
  deriving DecidableEq, Repr

inductive QueueError where
  | full
  | closed
  deriving DecidableEq, Repr

def QueueError.message : QueueError → String
  | full => "update queue is full"
  | closed => "update queue is closed"

structure Queue where
  capacity : Nat
  jobs : List Job
  closed : Bool
  bounded : jobs.length ≤ capacity := by simp

namespace Queue

def ofCapacity (capacity : Nat) : Queue := ⟨max capacity 1, [], false, by simp⟩

def submit (q : Queue) (job : Job) : Except QueueError Queue :=
  if q.closed then .error .closed
  else if h : q.jobs.length < q.capacity then
    .ok { q with
      jobs := q.jobs ++ [job]
      bounded := by simp only [List.length_append, List.length_singleton]; omega }
  else .error .full

def request (q : Queue) (user : String) : Bool × Queue :=
  match q.submit (.recount user) with
  | .ok q => (true, q)
  | .error _ => (false, q)

def take (q : Queue) (n : Nat) : List Job × Queue :=
  (q.jobs.take n,
    { q with jobs := q.jobs.drop n, bounded := by have := q.bounded; simp only [List.length_drop]; omega })

def close (q : Queue) : Queue := { q with jobs := [], closed := true, bounded := by simp }

end Queue
end HolderGate.Sync
