import HolderGate.Proofs.PoolDrain

/-! Rounds of loading and running as moves of the pool. A round makes the moves of the dispatcher until no worker is
free, and then those of one worker after another. -/
namespace HolderGate.Sync
open Access Chain Identity

variable {f g h : Floor} {w : Workroom} {p : Pool} {s s' : Store} {q : Queue} {log : Mined}

def Move.own : Move → Bool
  | .take | .start | .work _ _ => true
  | .submit _ | .elsewhere _ => false

namespace Floor

def Reaches (f g : Floor) : Prop := ∃ moves, (∀ move ∈ moves, move.own = true) ∧ (f.run moves).1 = g

theorem runAppend (f : Floor) (early late : List Move) : (f.run (early ++ late)).1 = ((f.run early).1.run late).1 := by
  induction early generalizing f with
  | nil => rfl
  | cons move early ih => exact ih (f.step move).1

theorem reachesRefl (f : Floor) : f.Reaches f := ⟨[], by simp, rfl⟩

theorem Reaches.trans (first : f.Reaches g) (second : g.Reaches h) : f.Reaches h := by
  obtain ⟨early, own, rfl⟩ := first
  obtain ⟨late, alike, rfl⟩ := second
  refine ⟨early ++ late, fun move listed => ?_, runAppend f early late⟩
  exact (List.mem_append.mp listed).elim (own move) (alike move)

theorem Reaches.of (move : Move) (own : move.own = true) (moved : (f.step move).1 = g) : f.Reaches g :=
  ⟨[move], by simpa using own, moved⟩

end Floor

def Floor.amid (f : Floor) (before after : List Hand) (hand : Hand) : Floor :=
  { f with hands := before ++ hand :: after }

variable {before after : List Hand} {work next : Work} {scheduled : List Job} {chain : Reader} {e : SyncError}

theorem reachesNext (chain : Reader) {q : Queue} {added : List Job}
    (stepped : work.step chain f.store f.queue = ⟨.ok (some next), s, q, added⟩) :
    (f.amid before after ⟨work, scheduled⟩).Reaches
      ({ f with store := s, queue := q }.amid before after ⟨next, scheduled ++ added⟩) := by
  refine .of (.work before.length chain) rfl ?_
  simp [Floor.step, Floor.work, Floor.amid, stepped]

theorem reachesEnd (chain : Reader) (left : Except SyncError (Option Work)) (done : ∀ next, left ≠ .ok (some next))
    (stepped : work.step chain f.store f.queue = ⟨left, s, q, []⟩) :
    (f.amid before after ⟨work, scheduled⟩).Reaches { f with store := s, queue := q, hands := before ++ after } := by
  refine .of (.work before.length chain) rfl ?_
  simp only [Floor.step, Floor.work, Floor.amid, List.getElem?_append_right (Nat.le_refl _), Nat.sub_self,
    List.getElem?_cons_zero, stepped, eraseMiddle]

theorem reachesAsked (f : Floor) (users : List String) (scheduled : List Job) :
    (f.amid before after ⟨.asking log users, scheduled⟩).Reaches
      { f with queue := users.foldl (fun q user => (q.request user).2) f.queue, hands := before ++ after } := by
  induction users generalizing f scheduled with
  | nil => exact reachesEnd (.unreachable "") (.ok none) (by simp) rfl
  | cons user users ih => exact (reachesNext (.unreachable "") rfl).trans (ih _ _)

theorem reachesTransfer (f : Floor) (log : Mined) :
    (f.amid before after ⟨.giving log, []⟩).Reaches
      { f with
        store := (applyTransfer log f.store).2
        queue := match (applyTransfer log f.store).1 with
          | .ok r => r.missing.foldl (fun q user => (q.request user).2) f.queue
          | .error _ => f.queue
        hands := before ++ after } := by
  unfold applyTransfer
  cases ends : log.event.endpoints? with
  | none =>
    exact reachesEnd (.unreachable "") (.ok none) (by simp) (by simp [Work.step, ends, Report.empty])
  | some both =>
    obtain ⟨sender, receiver⟩ := both
    obtain ⟨first, s, gave⟩ : ∃ first s,
        applyAt log.block sender (changes log.contract log.event).1 .empty f.store = (first, s) := ⟨_, _, rfl⟩
    simp only [gave]
    cases first with
    | error e =>
      exact reachesEnd (.unreachable "") (.error (.storage e)) (by simp) (by simp [Work.step, ends, gave])
    | ok r =>
      obtain ⟨second, s', took⟩ : ∃ second s',
          applyAt log.block receiver (changes log.contract log.event).2 r s = (second, s') := ⟨_, _, rfl⟩
      have half : Work.step (.unreachable "") f.store f.queue (.giving log) =
          ⟨.ok (some (.taking log r)), s, f.queue, []⟩ := by
        simp [Work.step, ends, gave]
      refine (reachesNext _ half).trans ?_
      simp only [took]
      cases second with
      | error e =>
        exact reachesEnd (f := { f with store := s }) (.unreachable "") (.error (.storage e)) (by simp)
          (by simp [Work.step, ends, took])
      | ok r' =>
        have whole : Work.step (.unreachable "") s f.queue (.taking log r) =
            ⟨.ok (some (.asking log r'.missing)), s', f.queue, []⟩ := by
          simp [Work.step, ends, took]
        exact (reachesNext (f := { f with store := s }) _ whole).trans
          (reachesAsked { f with store := s' } r'.missing _)

theorem Queue.same {q q' : Queue} (jobs : q.jobs = q'.jobs) (capacity : q.capacity = q'.capacity)
    (closed : q.closed = q'.closed) : q = q' := by
  cases q; cases q'; cases jobs; cases capacity; cases closed; rfl

def Floor.staffed (f : Floor) (n : Nat) : Floor :=
  { f with
    queue := (f.queue.take (n + 1 - f.held.toList.length)).2
    held := ((f.held.toList ++ f.queue.jobs).drop n).head?
    hands := f.hands ++ ((f.held.toList ++ f.queue.jobs).take n).map Hand.ofJob }

theorem staffedNothing (n : Nat) (free : f.held = none) (empty : f.queue.jobs = []) : f.staffed n = f := by
  have queue : (f.queue.take (n + 1)).2 = f.queue := Queue.same (by simp [Queue.take, empty]) rfl rfl
  obtain ⟨store, q, workers, held, hands⟩ := f
  cases free
  simp_all [Floor.staffed]

theorem staffedHeld {job : Job} (waits : f.held = some job) : f.staffed 0 = f := by
  have queue : (f.queue.take 0).2 = f.queue := Queue.same (by simp [Queue.take]) rfl rfl
  obtain ⟨store, q, workers, held, hands⟩ := f
  cases waits
  simp_all [Floor.staffed]

theorem reachesTaken {job : Job} {rest : List Job} (free : f.held = none) (first : f.queue.jobs = job :: rest) :
    f.Reaches { f with queue := (f.queue.take 1).2, held := some job } :=
  .of .take rfl (by simp only [Floor.step, Floor.take, free, first])

theorem reachesStarted {job : Job} (waits : f.held = some job) (room : f.hands.length < f.workers) :
    f.Reaches { f with held := none, hands := f.hands ++ [.ofJob job] } :=
  .of .start rfl (by simp only [Floor.step, Floor.start, waits, room, if_true])

theorem reachesStaffed (n : Nat) (f : Floor) (room : f.hands.length + n ≤ f.workers) : f.Reaches (f.staffed n) := by
  induction n generalizing f with
  | zero =>
    cases held : f.held with
    | some job => exact (staffedHeld held).symm ▸ f.reachesRefl
    | none =>
      cases jobs : f.queue.jobs with
      | nil => exact (staffedNothing 0 held jobs).symm ▸ f.reachesRefl
      | cons job rest => simpa [Floor.staffed, held, jobs] using reachesTaken held jobs
  | succ n ih =>
    have free : f.hands.length < f.workers := by omega
    cases held : f.held with
    | some job =>
      have next := ih { f with held := none, hands := f.hands ++ [.ofJob job] } (by simp; omega)
      refine (reachesStarted held free).trans ?_
      simpa [Floor.staffed, held] using next
    | none =>
      cases jobs : f.queue.jobs with
      | nil => exact (staffedNothing (n + 1) held jobs).symm ▸ f.reachesRefl
      | cons job rest =>
        have next := ih { f with queue := (f.queue.take 1).2, held := none, hands := f.hands ++ [.ofJob job] }
          (by simp; omega)
        have queue : ((f.queue.take 1).2.take (n + 1)).2 = (f.queue.take (n + 2)).2 :=
          Queue.same (by simp [Queue.take, jobs]) rfl rfl
        have rest : (f.queue.take 1).2.jobs = rest := by simp [Queue.take, jobs]
        have started := reachesStarted (f := { f with queue := (f.queue.take 1).2, held := some job }) rfl free
        refine (reachesTaken held jobs).trans (started.trans ?_)
        simpa [Floor.staffed, held, jobs, queue, rest] using next

def Hand.ofTask (t : Task) : Hand := ⟨.reading t.recount, []⟩

namespace Workroom

def floor (w : Workroom) (p : Pool) (loaded : List Job) : Floor :=
  ⟨w.store, w.queue, p.workers, p.held, p.running.map Hand.ofTask ++ loaded.map Hand.ofJob⟩

structure Onward (p p' : Pool) : Prop where
  workers : p'.workers = p.workers
  held : p'.held = p.held
  stopping : p'.stopping = p.stopping
  running : p'.running.length ≤ p.running.length + 1

theorem runTransfer (w : Workroom) (log : Mined) : w.run (.transfer log) =
    { w with
      store := (applyTransfer log w.store).2
      queue := match (applyTransfer log w.store).1 with
        | .ok r => r.missing.foldl (fun q user => (q.request user).2) w.queue
        | .error _ => w.queue } := by
  unfold run
  obtain ⟨result, s, applied⟩ : ∃ result s, applyTransfer log w.store = (result, s) := ⟨_, _, rfl⟩
  simp only [applied]
  cases result <;> rfl

theorem completeReaches (pool : w.pool = some p) {r : Recount} (more : List Hand) : (w.complete r).pool = some p ∧
    ((w.floor p []).amid (p.running.map Hand.ofTask) more ⟨.reading r, []⟩).Reaches
      { (w.complete r).floor p [] with hands := p.running.map Hand.ofTask ++ more } := by
  unfold complete
  cases ended : r.finish w.node.reader w.store with
  | ok result =>
    obtain ⟨holdings, s⟩ := result
    exact ⟨pool, reachesEnd w.node.reader (.ok none) (by simp) (by simp [Work.step, floor, ended])⟩
  | error e =>
    exact ⟨pool, reachesEnd w.node.reader (.error e) (by simp) (by simp [Work.step, floor, ended])⟩

theorem runReaches (pool : w.pool = some p) (job : Job) (more : List Job) : ∃ p', (w.run job).pool = some p' ∧
    Onward p p' ∧ (w.floor p (job :: more)).Reaches ((w.run job).floor p' more) := by
  have amid : w.floor p (job :: more) =
      (w.floor p []).amid (p.running.map Hand.ofTask) (more.map Hand.ofJob) (.ofJob job) := by
    simp [floor, Floor.amid]
  have same : Onward p p := ⟨rfl, rfl, rfl, Nat.le_succ _⟩
  rw [amid]
  cases job with
  | transfer log =>
    rw [runTransfer]
    exact ⟨p, pool, same, reachesTransfer (w.floor p []) log⟩
  | recount user =>
    cases began : Recount.start user w.store with
    | error e =>
      have stays : w.run (.recount user) = w := by simp only [run, began]
      rw [stays]
      exact ⟨p, pool, same, reachesEnd w.node.reader (.error (.storage e)) (by simp)
        (by simp [Work.ofJob, Work.step, floor, began])⟩
    | ok r =>
      have looked : Work.step w.node.reader w.store w.queue (.counting user) =
          ⟨.ok (some (.reading r)), w.store, w.queue, []⟩ := by
        simp [Work.step, began]
      have reads :
          ((w.floor p []).amid (p.running.map Hand.ofTask) (more.map Hand.ofJob) (.ofJob (.recount user))).Reaches
            ((w.floor p []).amid (p.running.map Hand.ofTask) (more.map Hand.ofJob) ⟨.reading r, []⟩) :=
        reachesNext w.node.reader looked
      by_cases prompt : w.node.seconds = 0
      · have done : w.run (.recount user) = w.complete r := by simp only [run, began, prompt, if_true]
        obtain ⟨kept, ends⟩ := completeReaches pool (r := r) (more.map Hand.ofJob)
        rw [done]
        refine ⟨p, kept, same, reads.trans ?_⟩
        simpa [floor] using ends
      · obtain ⟨t, begun, told⟩ : ∃ t, w.run (.recount user) = w.begin t ∧ t.recount = r := by
          exact ⟨⟨r, _, _⟩, by simp only [run, began, prompt, if_false]; rfl, rfl⟩
        rw [begun]
        refine ⟨{ p with running := p.running ++ [t] }, by simp [begin, pool], ⟨rfl, rfl, rfl, by simp⟩, ?_⟩
        simpa [floor, begin, Floor.amid, Hand.ofTask, told] using reads

structure Going (w : Workroom) (p : Pool) : Prop where
  pool : w.pool = some p
  working : p.stopping = false
  room : p.running.length ≤ p.workers

def ahead (w : Workroom) (p : Pool) : List Job := p.held.toList ++ w.queue.jobs

theorem heldFew (p : Pool) (n : Nat) : p.held.toList.length ≤ n + 1 := by
  cases p.held <;> simp

theorem loadResult (going : Going w p) : w.load = ((w.ahead p).take p.free, { w with
    queue := (w.queue.take (p.free + 1 - p.held.toList.length)).2
    pool := some { p with held := ((w.ahead p).drop p.free).head? } }) := by
  have loaded : p.held.toList ++ w.queue.jobs.take (p.free + 1 - p.held.toList.length) =
      (w.ahead p).take (p.free + 1) := by
    rw [ahead, List.take_append, List.take_of_length_le (heldFew p p.free)]
  have early : ((w.ahead p).take (p.free + 1)).take p.free = (w.ahead p).take p.free := by
    rw [List.take_take, Nat.min_eq_left (Nat.le_succ _)]
  have late : (((w.ahead p).take (p.free + 1)).drop p.free).head? = ((w.ahead p).drop p.free).head? := by
    rw [List.drop_take, Nat.add_sub_cancel_left, List.head?_take, if_neg (by decide)]
  simp only [load, going.pool, going.working, Bool.false_eq_true, if_false, Queue.take, loaded, early, late]

theorem loadReaches (going : Going w p) : ∃ p', Going w.load.2 p' ∧ p'.workers = p.workers ∧
    w.load.1.length + p'.running.length ≤ p'.workers ∧ (w.floor p []).Reaches (w.load.2.floor p' w.load.1) := by
  have room := going.room
  have free : p.free = p.workers - p.running.length := by simp [Pool.free, going.working]
  rw [loadResult going]
  have length := List.length_take_le p.free (w.ahead p)
  refine ⟨_, ⟨rfl, going.working, room⟩, rfl, by simp only; omega, ?_⟩
  have staffed := reachesStaffed p.free (w.floor p []) (by simp [floor]; omega)
  simpa [Floor.staffed, floor, ahead] using staffed

theorem runAllReaches (going : Going w p) (jobs : List Job) (room : jobs.length + p.running.length ≤ p.workers) :
    ∃ p', Going (jobs.foldl run w) p' ∧ p'.workers = p.workers ∧
      (w.floor p jobs).Reaches ((jobs.foldl run w).floor p' []) := by
  induction jobs generalizing w p with
  | nil => exact ⟨p, going, rfl, Floor.reachesRefl _⟩
  | cons job more ih =>
    obtain ⟨p', pool, onward, reaches⟩ := runReaches going.pool job more
    have running := onward.running
    have workers := onward.workers
    simp only [List.length_cons] at room
    obtain ⟨p'', later, kept, others⟩ := ih (w := w.run job) (p := p')
      ⟨pool, onward.stopping.trans going.working, by omega⟩ (by omega)
    exact ⟨p'', later, kept.trans workers, reaches.trans others⟩

theorem drainFromReaches (going : Going w p) (fuel : Nat) : ∃ p', Going (drainFrom fuel w) p' ∧ p'.workers = p.workers ∧
    (w.floor p []).Reaches ((drainFrom fuel w).floor p' []) := by
  induction fuel generalizing w p with
  | zero => exact ⟨p, going, rfl, Floor.reachesRefl _⟩
  | succ fuel ih =>
    obtain ⟨p', still, workers, room, loads⟩ := loadReaches going
    unfold drainFrom
    simp only
    split
    next empty =>
      rw [List.isEmpty_iff.mp empty] at loads
      exact ⟨p', still, workers, loads⟩
    next =>
      obtain ⟨p'', after, kept, runs⟩ := runAllReaches still w.load.1 room
      obtain ⟨q, ends, last, drains⟩ := ih after
      exact ⟨q, ends, last.trans (kept.trans workers), loads.trans (runs.trans drains)⟩

theorem drainStays (going : Going w p) : w.drain = drainFrom (w.workload + 1) w := by
  obtain ⟨p', after, _⟩ := drainFromReaches going (w.workload + 1)
  have on : Pool.finished p' = false := by simp [Pool.finished, after.working]
  simp [drain, conclude, after.pool, on]

theorem drainReaches (going : Going w p) : ∃ p', Going w.drain p' ∧ p'.workers = p.workers ∧
    (w.floor p []).Reaches (w.drain.floor p' []) := by
  rw [drainStays going]
  exact drainFromReaches going (w.workload + 1)

def cost : Job → Nat
  | .transfer _ => 3
  | .recount _ => 1

def costs (jobs : List Job) : Nat := (jobs.map cost).sum

theorem requestCost (users : List String) (q : Queue) :
    costs (users.foldl (fun q user => (q.request user).2) q).jobs ≤ costs q.jobs + users.length := by
  induction users generalizing q with
  | nil => simp
  | cons user users ih =>
    have one : costs (q.request user).2.jobs ≤ costs q.jobs + 1 := by
      unfold Queue.request
      split
      next q' room => simp [(Queue.submitOk room).1, costs, cost]
      next => simp
    have rest := ih (q.request user).2
    simp only [List.foldl_cons, List.length_cons]
    omega

theorem runCost (pool : w.pool = some p) (prompt : w.node.seconds = 0) (job : Job) : (w.run job).pool = some p ∧
    (w.run job).node = w.node ∧ costs (w.run job).queue.jobs + 1 ≤ costs w.queue.jobs + cost job := by
  cases job with
  | transfer log =>
    rw [runTransfer]
    refine ⟨pool, rfl, ?_⟩
    simp only [cost]
    split
    next r ran =>
      have few := unrecordedOfLength w.store log
      rw [← transferMissing (Prod.ext ran rfl : applyTransfer log w.store = (.ok r, _))] at few
      have asked := requestCost r.missing w.queue
      omega
    next => omega
  | recount user =>
    have same : (w.run (.recount user)).pool = some p ∧ (w.run (.recount user)).node = w.node ∧
        (w.run (.recount user)).queue = w.queue := by
      simp only [run, complete]
      split
      next => exact ⟨pool, rfl, rfl⟩
      next =>
        rw [if_pos prompt]
        split <;> exact ⟨pool, rfl, rfl⟩
    rw [same.2.2]
    exact ⟨same.1, same.2.1, Nat.le_refl _⟩

theorem runAllCost (pool : w.pool = some p) (prompt : w.node.seconds = 0) (jobs : List Job) :
    (jobs.foldl run w).pool = some p ∧ (jobs.foldl run w).node = w.node ∧
      costs (jobs.foldl run w).queue.jobs + jobs.length ≤ costs w.queue.jobs + costs jobs := by
  induction jobs generalizing w with
  | nil => exact ⟨pool, rfl, Nat.le_refl _⟩
  | cons job jobs ih =>
    obtain ⟨kept, node, once⟩ := runCost pool prompt job
    obtain ⟨last, same, others⟩ := ih kept (node ▸ prompt)
    refine ⟨last, same.trans node, ?_⟩
    simp only [List.foldl_cons, List.length_cons, costs, List.map_cons, List.sum_cons] at once others ⊢
    omega

theorem costsAppend (early late : List Job) : costs (early ++ late) = costs early + costs late := by
  simp [costs]

def laden (w : Workroom) (p : Pool) : Pool := { p with held := ((w.ahead p).drop p.free).head? }

theorem loadAhead (going : Going w p) : w.load.1 ++ w.load.2.ahead (w.laden p) = w.ahead p := by
  have left : w.queue.jobs.drop (p.free + 1 - p.held.toList.length) = (w.ahead p).drop (p.free + 1) := by
    rw [ahead, List.drop_append, List.drop_of_length_le (heldFew p p.free), List.nil_append]
  have headed : ((w.ahead p).drop p.free).head?.toList ++ (w.ahead p).drop (p.free + 1) = (w.ahead p).drop p.free := by
    rw [← List.drop_drop]
    cases (w.ahead p).drop p.free <;> simp
  rw [loadResult going]
  show (w.ahead p).take p.free ++ (((w.ahead p).drop p.free).head?.toList ++
    w.queue.jobs.drop (p.free + 1 - p.held.toList.length)) = w.ahead p
  rw [left, headed, List.take_append_drop]

theorem drainFromEmpty (going : Going w p) (alone : p.running = []) (staffed : 1 ≤ p.workers)
    (prompt : w.node.seconds = 0) (fuel : Nat) (enough : costs (w.ahead p) < fuel) :
    ∃ p', (drainFrom fuel w).pool = some p' ∧ (drainFrom fuel w).queue.jobs = [] ∧ p'.held = none ∧
      p'.running = [] := by
  -- Each round lowers what the jobs ahead cost, so the rounds do not run out.
  induction fuel generalizing w p with
  | zero => omega
  | succ fuel ih =>
    have free : p.free = p.workers := by simp [Pool.free, going.working, alone]
    have loaded := loadResult going
    have later : Going w.load.2 (w.laden p) := by
      rw [loaded]
      exact ⟨rfl, going.working, going.room⟩
    have still : w.load.2.node.seconds = 0 := by
      rw [loaded]
      exact prompt
    have split := loadAhead going
    unfold drainFrom
    simp only
    split
    next empty =>
      have none : (w.ahead p).take p.free = [] := by
        rw [loaded] at empty
        exact List.isEmpty_iff.mp empty
      have nothing : w.ahead p = [] := (List.take_eq_nil_iff.mp none).resolve_left (by omega)
      rw [List.isEmpty_iff.mp empty, nothing, List.nil_append] at split
      obtain ⟨held, queue⟩ := List.append_eq_nil_iff.mp split
      exact ⟨_, later.pool, queue, by simpa using held, alone⟩
    next busy =>
      obtain ⟨pool, node, less⟩ := runAllCost later.pool still w.load.1
      have started : 1 ≤ w.load.1.length := List.length_pos_iff.mpr (by simpa using busy)
      have before := congrArg costs split
      simp only [ahead, costsAppend] at before enough
      refine ih (p := w.laden p) ⟨pool, later.working, later.room⟩ alone staffed (node ▸ still) ?_
      simp only [ahead, costsAppend]
      omega

theorem costsLength (jobs : List Job) : costs jobs ≤ 3 * jobs.length := by
  induction jobs with
  | nil => exact Nat.le_refl _
  | cons job jobs ih =>
    have one : cost job ≤ 3 := by cases job <;> simp [cost]
    simp only [costs, List.map_cons, List.sum_cons, List.length_cons] at ih ⊢
    omega

theorem drainEmpty (going : Going w p) (alone : p.running = []) (staffed : 1 ≤ p.workers)
    (prompt : w.node.seconds = 0) :
    ∃ p', w.drain.pool = some p' ∧ w.drain.queue.jobs = [] ∧ p'.held = none ∧ p'.running = [] := by
  have enough : costs (w.ahead p) < w.workload + 1 := by
    have most := costsLength (w.ahead p)
    simp only [ahead, workload, going.pool, List.length_append, Option.bind_some] at most ⊢
    omega
  rw [drainStays going]
  exact drainFromEmpty going alone staffed prompt _ enough

end Workroom

end HolderGate.Sync
