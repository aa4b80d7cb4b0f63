import Mathlib.Algebra.GroupWithZero.Nat
import HolderGate.Proofs.QueueRoom
import HolderGate.Proofs.UnrecordedUsers
import HolderGate.Sync.Pool

/-! The pool in its smallest steps. The dispatcher takes the next job off the queue and starts it once a worker is free;
a worker goes on by one transaction, by one reading of the chain or by one request to the queue. Producers submit, and
other callers change the store, between any two of these steps. -/
namespace HolderGate.Sync
open Access Chain Identity

/-- How far a worker is with a job: the sender of a transfer comes first, then the receiver, then the users to count. -/
inductive Work where
  | giving (log : Mined)
  | taking (log : Mined) (report : Report)
  | asking (log : Mined) (users : List String)
  | counting (user : String)
  | reading (r : Recount)

structure Progress where
  left : Except SyncError (Option Work)
  store : Store
  queue : Queue
  scheduled : List Job

namespace Work

def ofJob : Job → Work
  | .transfer log => .giving log
  | .recount user => .counting user

def job : Work → Job
  | .giving log | .taking log _ | .asking log _ => .transfer log
  | .counting user => .recount user
  | .reading r => .recount r.id

def step (chain : Reader) (s : Store) (q : Queue) : Work → Progress
  | .giving log =>
    match log.event.endpoints? with
    | none => ⟨.ok none, s, q, []⟩
    | some (sender, _) =>
      match applyAt log.block sender (changes log.contract log.event).1 .empty s with
      | (.ok r, s) => ⟨.ok (some (.taking log r)), s, q, []⟩
      | (.error e, s) => ⟨.error (.storage e), s, q, []⟩
  | .taking log r =>
    match log.event.endpoints? with
    | none => ⟨.ok none, s, q, []⟩
    | some (_, receiver) =>
      match applyAt log.block receiver (changes log.contract log.event).2 r s with
      | (.ok r, s) => ⟨.ok (some (.asking log r.missing)), s, q, []⟩
      | (.error e, s) => ⟨.error (.storage e), s, q, []⟩
  | .asking _ [] => ⟨.ok none, s, q, []⟩
  | .asking log (user :: users) =>
    let (queued, q) := q.request user
    ⟨.ok (some (.asking log users)), s, q, if queued then [.recount user] else []⟩
  | .counting user =>
    match Recount.start user s with
    | .ok r => ⟨.ok (some (.reading r)), s, q, []⟩
    | .error e => ⟨.error (.storage e), s, q, []⟩
  | .reading r =>
    match r.finish chain s with
    | .ok (_, s) => ⟨.ok none, s, q, []⟩
    | .error e => ⟨.error e, s, q, []⟩

end Work

structure Hand where
  work : Work
  scheduled : List Job

namespace Hand

def ofJob (job : Job) : Hand := ⟨.ofJob job, []⟩

def job (h : Hand) : Job := h.work.job

end Hand

structure Floor where
  store : Store
  queue : Queue
  workers : Nat
  held : Option Job
  hands : List Hand

inductive Move where
  | submit (job : Job)
  | take
  | start
  | work (k : Nat) (chain : Reader)
  | elsewhere (store : Store)

structure Notes where
  produced : List Job
  accepted : List Job
  taken : List Job
  started : List Job
  ended : List Hand

namespace Notes

def none : Notes := ⟨[], [], [], [], []⟩

def and (n m : Notes) : Notes :=
  ⟨n.produced ++ m.produced, n.accepted ++ m.accepted, n.taken ++ m.taken, n.started ++ m.started, n.ended ++ m.ended⟩

end Notes

namespace Floor

def opened (capacity workers : Nat) (store : Store) : Floor := ⟨store, .ofCapacity capacity, max workers 1, none, []⟩

def submit (f : Floor) (job : Job) : Floor × Notes :=
  match f.queue.submit job with
  | .ok queue => ({ f with queue }, { Notes.none with produced := [job], accepted := [job] })
  | .error _ => (f, .none)

def take (f : Floor) : Floor × Notes :=
  match f.held with
  | some _ => (f, .none)
  | none =>
    match f.queue.jobs with
    | [] => (f, .none)
    | job :: _ =>
      ({ f with queue := (f.queue.take 1).2, held := some job }, { Notes.none with taken := [job] })

def start (f : Floor) : Floor × Notes :=
  match f.held with
  | none => (f, .none)
  | some job =>
    if f.hands.length < f.workers then
      ({ f with held := none, hands := f.hands ++ [.ofJob job] }, { Notes.none with started := [job] })
    else (f, .none)

def work (f : Floor) (k : Nat) (chain : Reader) : Floor × Notes :=
  match f.hands[k]? with
  | none => (f, .none)
  | some h =>
    let o := h.work.step chain f.store f.queue
    let f := { f with store := o.store, queue := o.queue }
    let scheduled := h.scheduled ++ o.scheduled
    match o.left with
    | .ok (some work) =>
      ({ f with hands := f.hands.set k ⟨work, scheduled⟩ }, { Notes.none with accepted := o.scheduled })
    | _ =>
      ({ f with hands := f.hands.eraseIdx k },
        { Notes.none with accepted := o.scheduled, ended := [{ h with scheduled }] })

def step (f : Floor) : Move → Floor × Notes
  | .submit job => f.submit job
  | .take => f.take
  | .start => f.start
  | .work k chain => f.work k chain
  | .elsewhere store => ({ f with store }, .none)

def run : Floor → List Move → Floor × Notes
  | f, [] => (f, .none)
  | f, move :: moves =>
    let (f, n) := f.step move
    let (f, later) := f.run moves
    (f, n.and later)

def can (f : Floor) : Move → Bool
  | .take => f.held.isNone && !f.queue.jobs.isEmpty
  | .start => f.held.isSome && f.hands.length < f.workers
  | .work k _ => k < f.hands.length
  | .submit _ | .elsewhere _ => false

def effort : Floor → List Move → Nat
  | _, [] => 0
  | f, move :: moves => (if f.can move then 1 else 0) + (f.step move).1.effort moves

end Floor

variable {f g h : Floor} {n m : Notes} {s s' : Store} {q : Queue} {log : Mined} {r r' : Report} {user : String}
  {chain : Reader} {work next : Work} {o : Progress} {move : Move} {endpoint : Address} {deltas : List Delta}

inductive Steps (chain : Reader) (s : Store) (q : Queue) : Work → Progress → Prop where
  | gave {log : Mined} {sender receiver : Address} {r : Report} {s' : Store}
      (ends : log.event.endpoints? = some (sender, receiver))
      (missing : r.missing = unrecorded s sender (changes log.contract log.event).1) :
      Steps chain s q (.giving log) ⟨.ok (some (.taking log r)), s', q, []⟩
  | took {log : Mined} {sender receiver : Address} {r r' : Report} {s' : Store}
      (ends : log.event.endpoints? = some (sender, receiver))
      (missing : r'.missing = r.missing ++ unrecorded s receiver (changes log.contract log.event).2) :
      Steps chain s q (.taking log r) ⟨.ok (some (.asking log r'.missing)), s', q, []⟩
  | queued {log : Mined} {user : String} {users : List String} {q' : Queue}
      (room : q.submit (.recount user) = .ok q') :
      Steps chain s q (.asking log (user :: users)) ⟨.ok (some (.asking log users)), s, q', [.recount user]⟩
  | dropped {log : Mined} {user : String} {users : List String} {e : QueueError}
      (full : q.submit (.recount user) = .error e) :
      Steps chain s q (.asking log (user :: users)) ⟨.ok (some (.asking log users)), s, q, []⟩
  | looked {user : String} {r : Recount} (began : Recount.start user s = .ok r) :
      Steps chain s q (.counting user) ⟨.ok (some (.reading r)), s, q, []⟩
  | finished {work : Work} {left : Except SyncError (Option Work)} {s' : Store}
      (nothing : ∀ next, left ≠ .ok (some next)) : Steps chain s q work ⟨left, s', q, []⟩

theorem workSteps (chain : Reader) (s : Store) (q : Queue) (work : Work) :
    Steps chain s q work (work.step chain s q) := by
  unfold Work.step
  split
  next log =>
    split
    next => exact .finished (by simp)
    next sender receiver ends =>
      split
      next r s' ran => exact .gave ends (applyAtMissing ran)
      next => exact .finished (by simp)
  next log r =>
    split
    next => exact .finished (by simp)
    next sender receiver ends =>
      split
      next r' s' ran => exact .took ends (applyAtMissing ran)
      next => exact .finished (by simp)
  next => exact .finished (by simp)
  next log user users =>
    cases asked : q.submit (.recount user) with
    | ok q' =>
      have same : q.request user = (true, q') := by simp [Queue.request, asked]
      rw [same]
      exact .queued asked
    | error e =>
      have same : q.request user = (false, q) := by simp [Queue.request, asked]
      rw [same]
      exact .dropped asked
  next user =>
    split
    next r began => exact .looked began
    next => exact .finished (by simp)
  next r => split <;> exact .finished (by simp)

theorem stepsFinished (steps : Steps chain s q work o) (done : ∀ next, o.left ≠ .ok (some next)) :
    ∃ left s', o = ⟨left, s', q, []⟩ := by
  cases steps with
  | finished => exact ⟨_, _, rfl⟩
  | gave | took | queued | dropped | looked => exact absurd rfl (done _)

def Work.Fair (P : Mined → String → Prop) (scheduled : List Job) : Work → Prop
  | .taking log r => scheduled = [] ∧ r.missing.length ≤ 1 ∧ ∀ user ∈ r.missing, P log user
  | .asking log users => scheduled.length + users.length ≤ 2 ∧ (∀ user ∈ users, P log user) ∧
      ∀ job ∈ scheduled, ∃ user, job = .recount user ∧ P log user
  | .giving _ | .counting _ | .reading _ => scheduled = []

def Hand.Fair (P : Mined → String → Prop) (h : Hand) : Prop := h.work.Fair P h.scheduled

variable {P : Mined → String → Prop} {scheduled : List Job} {hand : Hand}

theorem Hand.fairScheduled (fair : hand.Fair P) : hand.scheduled.length ≤ 2 ∧
    ∀ job ∈ hand.scheduled, ∃ log user, hand.job = .transfer log ∧ job = .recount user ∧ P log user := by
  obtain ⟨work, scheduled⟩ := hand
  cases work with
  | asking log users =>
    obtain ⟨few, _, own⟩ := fair
    refine ⟨Nat.le_trans (Nat.le_add_right _ _) few, fun job listed => ?_⟩
    obtain ⟨user, same, known⟩ := own job listed
    exact ⟨log, user, rfl, same, known⟩
  | taking log r =>
    have empty : scheduled = [] := fair.1
    simp [empty]
  | giving log | counting user | reading r =>
    have empty : scheduled = [] := fair
    simp [empty]

def Work.weight : Work → Nat
  | .giving _ => 13
  | .taking _ _ => 12
  | .asking _ users => 5 * users.length + 1
  | .counting _ => 2
  | .reading _ => 1

def Job.weight (job : Job) : Nat := (Work.ofJob job).weight + 2

theorem startId {recounted : Recount} (began : Recount.start user s = .ok recounted) : recounted.id = user := by
  simp only [Recount.start, bind, Except.bind] at began
  split at began
  · cases began
  · split at began
    · cases began
    · cases began
      rfl

theorem stepsJob (steps : Steps chain s q work o) (goes : o.left = .ok (some next)) : next.job = work.job := by
  cases steps with
  | gave | took | queued | dropped => cases goes; rfl
  | looked began =>
    cases goes
    exact congrArg Job.recount (startId began)
  | finished nothing => exact absurd goes (nothing next)

theorem stepsQueue (steps : Steps chain s q work o) : o.queue.jobs = q.jobs ++ o.scheduled ∧
    o.queue.capacity = q.capacity ∧ o.queue.closed = q.closed := by
  cases steps with
  | queued room => exact Queue.submitOk room
  | gave | took | dropped | looked | finished => exact ⟨(List.append_nil _).symm, rfl, rfl⟩

theorem stepsFair (steps : Steps chain s q work o)
    (known : ∀ log user, work.job = .transfer log → Lacks s log user → P log user)
    (fair : work.Fair P scheduled) (goes : o.left = .ok (some next)) : next.Fair P (scheduled ++ o.scheduled) := by
  cases steps with
  | @gave log sender receiver r s' ends missing =>
    cases goes
    have none : scheduled = [] := fair
    refine ⟨by simp [none], missing ▸ unrecordedLength _ _ _, fun user listed => ?_⟩
    obtain ⟨owned, lacking⟩ := unrecordedMember (missing ▸ listed)
    exact known log user rfl ⟨sender, receiver, ends, .inl owned, lacking⟩
  | @took log sender receiver r r' s' ends missing =>
    cases goes
    obtain ⟨none, one, given⟩ := fair
    have more := unrecordedLength s receiver (changes log.contract log.event).2
    refine ⟨?_, fun user listed => ?_, by simp [none]⟩
    · rw [missing, none]
      simp only [List.append_nil, List.length_nil, List.length_append]
      omega
    · rw [missing] at listed
      rcases List.mem_append.mp listed with early | late
      · exact given user early
      · obtain ⟨owned, lacking⟩ := unrecordedMember late
        exact known log user rfl ⟨sender, receiver, ends, .inr owned, lacking⟩
  | @queued log user users q' room =>
    cases goes
    obtain ⟨few, pending, own⟩ := fair
    have room : (scheduled ++ [Job.recount user]).length + users.length ≤ 2 := by
      simp only [List.length_append, List.length_cons, List.length_nil] at few ⊢
      omega
    refine ⟨room, fun other later => pending other (List.mem_cons_of_mem _ later), fun job listed => ?_⟩
    rcases List.mem_append.mp listed with early | late
    · exact own job early
    · exact ⟨user, List.mem_singleton.mp late, pending user List.mem_cons_self⟩
  | @dropped log user users e full =>
    cases goes
    obtain ⟨few, pending, own⟩ := fair
    have room : (scheduled ++ []).length + users.length ≤ 2 := by
      simp only [List.append_nil, List.length_cons] at few ⊢
      omega
    exact ⟨room, fun other later => pending other (List.mem_cons_of_mem _ later), by simpa using own⟩
  | looked began =>
    cases goes
    simpa [Work.Fair] using fair
  | finished nothing => exact absurd goes (nothing next)

theorem stepsWeight (steps : Steps chain s q work o) (fair : work.Fair P scheduled) (goes : o.left = .ok (some next)) :
    next.weight + (o.scheduled.map Job.weight).sum < work.weight := by
  cases steps with
  | gave => cases goes; simp [Work.weight]
  | @took log sender receiver r r' s' ends missing =>
    cases goes
    have one := fair.2.1
    have more := unrecordedLength s receiver (changes log.contract log.event).2
    simp only [Work.weight, missing, List.length_append, List.map_nil, List.sum_nil]
    omega
  | queued room =>
    cases goes
    simp [Work.weight, Job.weight, Work.ofJob]
    omega
  | dropped full =>
    cases goes
    simp [Work.weight]
  | looked began => cases goes; simp [Work.weight]
  | finished nothing => exact absurd goes (nothing next)

end HolderGate.Sync
