import HolderGate.Sync.Queue
import HolderGate.Sync.Recount

/-! The pool of workers that takes jobs off the queue in their order and runs them side by side.
A recount waits for the node to tell the block, and is given up at its deadline. -/
namespace HolderGate.Sync
open Chain

structure Task where
  recount : Recount
  due : Nat
  deadline : Nat
  deriving DecidableEq, Repr

def Task.event (t : Task) : Nat := min t.due t.deadline

structure Pool where
  workers : Nat
  limit : Nat
  held : Option Job
  running : List Task
  stopping : Bool
  deriving DecidableEq, Repr

namespace Pool

def ofWorkers (workers limit : Nat) : Pool := ⟨max workers 1, limit, none, [], false⟩

def free (p : Pool) : Nat := if p.stopping then 0 else p.workers - p.running.length

def finished (p : Pool) : Bool := p.stopping && p.running.isEmpty

end Pool

structure Workroom where
  store : Store
  queue : Queue
  pool : Option Pool
  node : Node
  clock : Nat

namespace Workroom

def load (w : Workroom) : List Job × Workroom :=
  match w.pool with
  | none => ([], w)
  | some p =>
    if p.stopping then ([], w)
    else
      let taken := p.free + 1 - p.held.toList.length
      let (jobs, queue) := w.queue.take taken
      let all := p.held.toList ++ jobs
      (all.take p.free, { w with queue, pool := some { p with held := (all.drop p.free).head? } })

def begin (w : Workroom) (t : Task) : Workroom :=
  { w with pool := w.pool.map (fun p => { p with running := p.running ++ [t] }) }

def complete (w : Workroom) (r : Recount) : Workroom :=
  match r.finish w.node.reader w.store with
  | .ok (_, store) => { w with store }
  | .error _ => w

def run (w : Workroom) (job : Job) : Workroom :=
  match job with
  | .transfer log =>
    match applyTransfer log w.store with
    | (.ok r, store) => { w with store, queue := r.missing.foldl (fun q user => (q.request user).2) w.queue }
    | (.error _, store) => { w with store }
  | .recount user =>
    match Recount.start user w.store with
    | .error _ => w
    | .ok r =>
      if w.node.seconds = 0 then w.complete r
      else w.begin ⟨r, w.clock + w.node.seconds, w.clock + (w.pool.map (·.limit)).getD 0⟩

def drainFrom : Nat → Workroom → Workroom
  | 0, w => w
  | fuel + 1, w =>
    let (jobs, w) := w.load
    if jobs.isEmpty then w else drainFrom fuel (jobs.foldl run w)

def workload (w : Workroom) : Nat :=
  -- No job leads to more than two others, and those lead to none.
  3 * (w.queue.jobs.length + (w.pool.bind (·.held)).toList.length)

def conclude (w : Workroom) : Workroom :=
  if w.pool.any Pool.finished then { w with queue := w.queue.close } else w

def drain (w : Workroom) : Workroom := (drainFrom (w.workload + 1) w).conclude

def settle (w : Workroom) (t : Task) : Workroom := if t.due ≤ w.clock then w.complete t.recount else w

def ring (w : Workroom) : Workroom :=
  match w.pool with
  | none => w
  | some p =>
    let (reached, later) := p.running.partition (·.event ≤ w.clock)
    let w := { w with pool := some { p with running := later } }
    ((reached.mergeSort (fun a b => a.event ≤ b.event)).foldl settle w).drain

def advance (w : Workroom) (seconds : Nat) : Workroom := { w with clock := w.clock + seconds }.ring

def nextEvent (w : Workroom) : Option Nat :=
  ((w.pool.map (·.running)).getD []).map Task.event |>.min?

def passFrom : Nat → Workroom → Nat → Workroom
  | 0, w, stop => { w with clock := stop }
  | fuel + 1, w, stop =>
    match w.nextEvent with
    | none => { w with clock := stop }
    | some instant =>
      if instant ≤ stop then passFrom fuel (Workroom.ring { w with clock := max instant w.clock }) stop
      else { w with clock := stop }

def pass (w : Workroom) (seconds : Nat) : Workroom :=
  let tasks := ((w.pool.map (·.running)).getD []).length
  passFrom (w.workload + tasks + 1) w (w.clock + seconds)

def recount (w : Workroom) (user : String) : Except SyncError Access.Holdings × Workroom :=
  match Recount.start user w.store with
  | .error e => (.error (.storage e), w)
  | .ok r =>
    let w := w.pass w.node.seconds
    match r.finish w.node.reader w.store with
    | .error e => (.error e, w)
    | .ok (h, store) => (.ok h, { w with store })

def stop (w : Workroom) : Workroom :=
  conclude { w with pool := w.pool.map (fun p => { p with stopping := true, held := none }) }

end Workroom
end HolderGate.Sync
