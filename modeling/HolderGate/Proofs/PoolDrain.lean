import HolderGate.Proofs.PoolFloor

/-! What the pool does with the jobs that the queue accepts: each is taken once and in order, with two follow-ups at
most, so that the work comes to an end with an empty queue. -/
namespace HolderGate.Sync
open Access Chain Identity

variable {f g h : Floor} {n m : Notes} {move : Move} {moves : List Move} {P : Mined → String → Prop}

inductive Moves : Floor → Move → Floor → Notes → Prop where
  | submitted {f : Floor} {job : Job} {queue : Queue} (room : f.queue.submit job = .ok queue) :
      Moves f (.submit job) { f with queue } { Notes.none with produced := [job], accepted := [job] }
  | took {f : Floor} {job : Job} {rest : List Job} (free : f.held = none) (first : f.queue.jobs = job :: rest) :
      Moves f .take { f with queue := (f.queue.take 1).2, held := some job } { Notes.none with taken := [job] }
  | started {f : Floor} {job : Job} (waits : f.held = some job) (room : f.hands.length < f.workers) :
      Moves f .start { f with held := none, hands := f.hands ++ [.ofJob job] } { Notes.none with started := [job] }
  | wentOn {f : Floor} {chain : Reader} {before after : List Hand} {hand : Hand} {o : Progress} {next : Work}
      (hands : f.hands = before ++ hand :: after) (steps : Steps chain f.store f.queue hand.work o)
      (goes : o.left = .ok (some next)) :
      Moves f (.work before.length chain)
        { f with store := o.store, queue := o.queue, hands := before ++ ⟨next, hand.scheduled ++ o.scheduled⟩ :: after }
        { Notes.none with accepted := o.scheduled }
  | ended {f : Floor} {chain : Reader} {before after : List Hand} {hand : Hand} {store : Store}
      (hands : f.hands = before ++ hand :: after) :
      Moves f (.work before.length chain) { f with store, hands := before ++ after } { Notes.none with ended := [hand] }
  | changed {f : Floor} (store : Store) : Moves f (.elsewhere store) { f with store } .none
  | idle {f : Floor} {move : Move} (nothing : f.can move = false) : Moves f move f .none

theorem handAt {hands : List Hand} {k : Nat} {hand : Hand} (found : hands[k]? = some hand) :
    ∃ before after, hands = before ++ hand :: after ∧ before.length = k := by
  obtain ⟨inside, same⟩ := List.getElem?_eq_some_iff.mp found
  refine ⟨hands.take k, hands.drop (k + 1), ?_, List.length_take_of_le (Nat.le_of_lt inside)⟩
  rw [← same, List.getElem_cons_drop, List.take_append_drop]

theorem eraseMiddle (before after : List Hand) (hand : Hand) :
    (before ++ hand :: after).eraseIdx before.length = before ++ after := by
  rw [List.eraseIdx_append_of_length_le (Nat.le_refl _)]
  simp

theorem workMoves {k : Nat} (chain : Reader) {hand : Hand} (found : f.hands[k]? = some hand) :
    Moves f (.work k chain) (f.work k chain).1 (f.work k chain).2 := by
  obtain ⟨before, after, hands, rfl⟩ := handAt found
  have steps := workSteps chain f.store f.queue hand.work
  have replaced : ∀ x, f.hands.set before.length x = before ++ x :: after := fun x => by simp [hands]
  have erased : f.hands.eraseIdx before.length = before ++ after := hands ▸ eraseMiddle before after hand
  simp only [Floor.work, found, replaced, erased]
  split
  next next goes => exact .wentOn hands steps goes
  next done =>
    obtain ⟨left, store, same⟩ := stepsFinished steps done
    rw [same, List.append_nil]
    exact .ended hands

theorem stepMoves (f : Floor) (move : Move) : Moves f move (f.step move).1 (f.step move).2 := by
  cases move with
  | submit job =>
    simp only [Floor.step, Floor.submit]
    split
    next queue room => exact .submitted room
    next => exact .idle rfl
  | take =>
    simp only [Floor.step, Floor.take]
    split
    next job waits => exact .idle (by simp [Floor.can, waits])
    next free =>
      split
      next empty => exact .idle (by simp [Floor.can, empty])
      next job rest first => exact .took free first
  | start =>
    simp only [Floor.step, Floor.start]
    split
    next free => exact .idle (by simp [Floor.can, free])
    next job waits =>
      split
      next room => exact .started waits room
      next full => exact .idle (by simpa [Floor.can, waits] using full)
  | work k chain =>
    cases found : f.hands[k]? with
    | none =>
      have outside : f.hands.length ≤ k := List.getElem?_eq_none_iff.mp found
      simp only [Floor.step, Floor.work, found]
      exact .idle (by simpa [Floor.can] using outside)
    | some hand => exact workMoves chain found
  | elsewhere store => exact .changed store

structure Balance (f : Floor) (n : Notes) (g : Floor) : Prop where
  capacity : g.queue.capacity = f.queue.capacity
  closed : g.queue.closed = f.queue.closed
  workers : g.workers = f.workers
  order : f.queue.jobs ++ n.accepted = n.taken ++ g.queue.jobs
  begun : f.held.toList ++ n.taken = n.started ++ g.held.toList
  hands : ((n.ended ++ g.hands).map Hand.job).Perm (f.hands.map Hand.job ++ n.started)
  sources : (f.hands.flatMap Hand.scheduled ++ n.accepted).Perm
    (n.produced ++ (n.ended ++ g.hands).flatMap Hand.scheduled)

theorem ofJobJob (job : Job) : (Work.ofJob job).job = job := by cases job <;> rfl

theorem balanceNone (f : Floor) : Balance f .none f := by
  constructor <;> simp [Notes.none]

theorem balanceMoves (moved : Moves f move g n) : Balance f n g := by
  cases moved with
  | @submitted job queue room =>
    obtain ⟨jobs, capacity, closed⟩ := Queue.submitOk room
    refine ⟨capacity, closed, rfl, by simp [Notes.none, jobs], by simp [Notes.none], by simp [Notes.none], ?_⟩
    simp [Notes.none]
  | took free first =>
    exact ⟨rfl, rfl, rfl, by simp [Notes.none, Queue.take, first], by simp [Notes.none, free], by simp [Notes.none],
      by simp [Notes.none]⟩
  | started waits room =>
    refine ⟨rfl, rfl, rfl, by simp [Notes.none], by simp [Notes.none, waits], ?_, by simp [Notes.none, Hand.ofJob]⟩
    simp [Notes.none, Hand.ofJob, Hand.job, ofJobJob]
  | wentOn hands steps goes =>
    obtain ⟨jobs, capacity, closed⟩ := stepsQueue steps
    refine ⟨capacity, closed, rfl, by simp [Notes.none, jobs], by simp [Notes.none], ?_, ?_⟩
    · simp [Notes.none, hands, Hand.job, stepsJob steps goes]
    · simp only [Notes.none, hands, List.flatMap_append, List.flatMap_cons, List.nil_append, List.append_assoc]
      exact .append_left _ (.append_left _ List.perm_append_comm)
  | ended hands =>
    refine ⟨rfl, rfl, rfl, by simp [Notes.none], by simp [Notes.none], ?_, ?_⟩
    · simp only [Notes.none, hands, List.singleton_append, List.append_nil]
      exact (List.perm_middle.symm).map _
    · simp only [Notes.none, hands, List.singleton_append, List.append_nil, List.nil_append]
      exact List.perm_middle.flatMap_right _
  | changed => exact { balanceNone f with }
  | idle => exact balanceNone f

theorem balanceAnd (first : Balance f n g) (second : Balance g m h) : Balance f (n.and m) h where
  capacity := second.capacity.trans first.capacity
  closed := second.closed.trans first.closed
  workers := second.workers.trans first.workers
  order := by
    rw [Notes.and, ← List.append_assoc, first.order, List.append_assoc, second.order, List.append_assoc]
  begun := by
    rw [Notes.and, ← List.append_assoc, first.begun, List.append_assoc, second.begun, List.append_assoc]
  hands := by
    have early := first.hands.append_right m.started
    have late := second.hands.append_left (n.ended.map Hand.job)
    simp only [Notes.and, List.map_append, List.append_assoc] at early late ⊢
    exact late.trans early
  sources := by
    have early := first.sources.append_right m.accepted
    have late := second.sources.append_left (n.ended.flatMap Hand.scheduled)
    have apart : (n.ended.flatMap Hand.scheduled ++ (m.produced ++ (m.ended ++ h.hands).flatMap Hand.scheduled)).Perm
        (m.produced ++ (n.ended.flatMap Hand.scheduled ++ (m.ended ++ h.hands).flatMap Hand.scheduled)) :=
      List.perm_append_comm_assoc _ _ _
    simp only [Notes.and, List.flatMap_append, List.append_assoc] at early late apart ⊢
    exact early.trans ((late.trans apart).append_left n.produced)

theorem balanceRun (f : Floor) (moves : List Move) : Balance f (f.run moves).2 (f.run moves).1 := by
  induction moves generalizing f with
  | nil => exact balanceNone f
  | cons move moves ih => exact balanceAnd (balanceMoves (stepMoves f move)) (ih (f.step move).1)

/-- A worker comes to a job of whose log it is that a user lacks holdings, at the move by which it goes on. -/
def Meets (f : Floor) (move : Move) (log : Mined) (user : String) : Prop :=
  ∃ k chain hand, move = .work k chain ∧ f.hands[k]? = some hand ∧ hand.job = .transfer log ∧ Lacks f.store log user

theorem fairMoves (moved : Moves f move g n) (known : ∀ log user, Meets f move log user → P log user)
    (fair : ∀ hand ∈ f.hands, hand.Fair P) : ∀ hand ∈ n.ended ++ g.hands, hand.Fair P := by
  cases moved with
  | submitted | took | changed | idle => exact fair
  | @started job waits room =>
    have fresh : (Hand.ofJob job).Fair P := by cases job <;> rfl
    simp only [Notes.none, List.nil_append, List.mem_append, List.mem_singleton]
    rintro hand (early | rfl)
    · exact fair hand early
    · exact fresh
  | @wentOn chain before after hand o next hands steps goes =>
    have met : ∀ log user, hand.work.job = .transfer log → Lacks f.store log user → P log user :=
      fun log user moves lacks => known log user ⟨_, chain, hand, rfl, by simp [hands], moves, lacks⟩
    have own := stepsFair steps met (fair hand (by simp [hands])) goes
    simp only [Notes.none, List.nil_append, List.mem_append, List.mem_cons]
    rintro other (early | rfl | late)
    · exact fair other (by simp [hands, early])
    · exact own
    · exact fair other (by simp [hands, late])
  | @ended chain before after hand store hands =>
    simp only [List.singleton_append, List.mem_cons, List.mem_append]
    rintro other (rfl | early | late)
    · exact fair other (by simp [hands])
    · exact fair other (by simp [hands, early])
    · exact fair other (by simp [hands, late])

theorem fairRun (known : ∀ before move after, moves = before ++ move :: after →
    ∀ log user, Meets (f.run before).1 move log user → P log user) (fair : ∀ hand ∈ f.hands, hand.Fair P) :
    ∀ hand ∈ (f.run moves).2.ended ++ (f.run moves).1.hands, hand.Fair P := by
  induction moves generalizing f with
  | nil => simpa [Floor.run, Notes.none] using fair
  | cons move moves ih =>
    have first := fairMoves (stepMoves f move) (known [] move moves rfl) fair
    have later := ih (fun before next after same => known (move :: before) next after (congrArg (move :: ·) same))
      fun hand listed => first hand (List.mem_append_right _ listed)
    intro hand listed
    simp only [Floor.run, Notes.and, List.append_assoc] at listed
    rcases List.mem_append.mp listed with early | late
    · exact first hand (List.mem_append_left _ early)
    · exact later hand late

def Floor.weight (f : Floor) : Nat :=
  (f.queue.jobs.map Job.weight).sum + (f.held.toList.map (fun job => (Work.ofJob job).weight + 1)).sum +
    (f.hands.map (fun hand => hand.work.weight)).sum

theorem Work.weightPositive (work : Work) : 0 < work.weight := by
  cases work <;> simp [Work.weight]

theorem weightMoves (moved : Moves f move g n) (fair : ∀ hand ∈ f.hands, hand.Fair P) :
    (if f.can move then 1 else 0) + g.weight ≤ f.weight + 15 * n.produced.length := by
  have once : (if f.can move then 1 else 0) ≤ 1 := by split <;> omega
  cases moved with
  | @submitted job queue room =>
    have most : job.weight ≤ 15 := by cases job <;> simp [Job.weight, Work.ofJob, Work.weight]
    simp [Floor.can, Floor.weight, (Queue.submitOk room).1]
    omega
  | took free first =>
    simp only [Floor.weight, Queue.take, first, free, List.drop_succ_cons, List.drop_zero, List.map_cons, List.sum_cons,
      Option.toList_none, Option.toList_some, List.map_nil, List.sum_nil, Job.weight]
    omega
  | started waits room =>
    simp only [Floor.weight, waits, Hand.ofJob, List.map_append, List.sum_append, Option.toList_none,
      Option.toList_some, List.map_cons, List.map_nil, List.sum_cons, List.sum_nil]
    omega
  | @wentOn chain before after hand o next hands steps goes =>
    have less := stepsWeight steps (fair hand (by simp [hands])) goes
    simp only [Floor.weight, (stepsQueue steps).1, hands, List.map_append, List.sum_append, List.map_cons,
      List.sum_cons]
    omega
  | @ended chain before after hand store hands =>
    have positive := hand.work.weightPositive
    simp only [Floor.weight, hands, List.map_append, List.sum_append, List.map_cons, List.sum_cons]
    omega
  | changed => simp [Floor.can, Floor.weight]
  | idle nothing => simp [nothing]

theorem effortRun (fair : ∀ hand ∈ f.hands, hand.Fair (fun _ _ => True)) (moves : List Move) :
    f.effort moves + (f.run moves).1.weight ≤ f.weight + 15 * (f.run moves).2.produced.length := by
  induction moves generalizing f with
  | nil => simp [Floor.effort, Floor.run]
  | cons move moves ih =>
    have moved := stepMoves f move
    have later := ih fun hand listed =>
      fairMoves moved (fun _ _ _ => trivial) fair hand (List.mem_append_right _ listed)
    have first := weightMoves moved fair
    simp only [Floor.effort, Floor.run, Notes.and, List.length_append]
    omega

theorem idleEmpty (workers : 1 ≤ f.workers) (idle : ∀ move, f.can move = false) :
    f.queue.jobs = [] ∧ f.held = none ∧ f.hands = [] := by
  have hands : f.hands = [] := by
    have first := idle (.work 0 (.unreachable ""))
    simpa [Floor.can] using first
  have held : f.held = none := by
    have start := idle .start
    simp only [Floor.can, hands, List.length_nil, Bool.and_eq_false_iff, decide_eq_false_iff_not] at start
    rcases start with free | busy
    · simpa using free
    · omega
  have take := idle .take
  simp only [Floor.can, held, Option.isNone_none, Bool.true_and, Bool.not_eq_false', List.isEmpty_iff] at take
  exact ⟨take, held, hands⟩

end HolderGate.Sync
