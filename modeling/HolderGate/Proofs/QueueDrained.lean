import HolderGate.Proofs.MissingHoldings

/-! The pool drains its queue. Whatever producers submit and whatever happens elsewhere, each job that the queue accepts
is run once and in its turn, and the pool is done after three times as many jobs as producers submitted, at the most. -/
namespace HolderGate.Sync
open Access Chain Identity

def Job.moving : Job → Bool
  | .transfer _ => true
  | .recount _ => false

variable {f g : Floor} {n : Notes} {P : Mined → String → Prop}

theorem scheduledFew {hands : List Hand} (fair : ∀ hand ∈ hands, hand.Fair P) :
    (hands.flatMap Hand.scheduled).length ≤ 2 * (hands.map Hand.job).countP Job.moving := by
  induction hands with
  | nil => exact Nat.le_refl _
  | cons hand hands ih =>
    have rest := ih fun other listed => fair other (List.mem_cons_of_mem _ listed)
    obtain ⟨few, own⟩ := Hand.fairScheduled (fair hand List.mem_cons_self)
    have counted : hand.scheduled.length ≤ 2 * if hand.job.moving then 1 else 0 := by
      cases scheduled : hand.scheduled with
      | nil => exact Nat.zero_le _
      | cons job jobs =>
        obtain ⟨log, user, moves, _⟩ := own job (by simp [scheduled])
        rw [← scheduled, moves]
        exact few
    simp only [List.flatMap_cons, List.length_append, List.map_cons, List.countP_cons]
    omega

theorem scheduledStill {hands : List Hand} (fair : ∀ hand ∈ hands, hand.Fair P) :
    (hands.flatMap Hand.scheduled).countP Job.moving = 0 := by
  refine List.countP_eq_zero.mpr fun job listed => ?_
  obtain ⟨hand, member, scheduled⟩ := List.mem_flatMap.mp listed
  obtain ⟨_, user, _, rfl, _⟩ := (Hand.fairScheduled (fair hand member)).2 job scheduled
  simp [Job.moving]

structure Vacant (f : Floor) : Prop where
  queue : f.queue.jobs = []
  held : f.held = none
  hands : f.hands = []

theorem balanceVacant (vacant : Vacant f) (balance : Balance f n g) :
    n.accepted = n.taken ++ g.queue.jobs ∧ n.taken = n.started ++ g.held.toList ∧
      ((n.ended ++ g.hands).map Hand.job).Perm n.started ∧
      n.accepted.Perm (n.produced ++ (n.ended ++ g.hands).flatMap Hand.scheduled) := by
  obtain ⟨_, _, _, order, begun, hands, sources⟩ := balance
  simp only [vacant.queue, vacant.held, vacant.hands, List.nil_append, Option.toList_none, List.map_nil,
    List.flatMap_nil] at order begun hands sources
  exact ⟨order, begun, hands, sources⟩

theorem acceptedFew (vacant : Vacant f) (balance : Balance f n g) (fair : ∀ hand ∈ n.ended ++ g.hands, hand.Fair P) :
    n.accepted.length ≤ 3 * n.produced.length := by
  obtain ⟨order, begun, hands, sources⟩ := balanceVacant vacant balance
  -- Only transfers have follow-ups, and none of the follow-ups is one.
  have few := scheduledFew fair
  have still := scheduledStill fair
  have length := sources.length_eq
  have moving := sources.countP_eq Job.moving
  have running := hands.countP_eq Job.moving
  have most := List.countP_le_length (p := Job.moving) (l := n.produced)
  rw [order, begun] at moving
  simp only [List.length_append, List.countP_append] at length moving
  omega

structure Accounted (capacity : Nat) (start : Floor) (moves : List Move) (f : Floor) (n : Notes) : Prop where
  room : f.queue.jobs.length ≤ max capacity 1
  refused : ∀ job, (∃ e, f.queue.submit job = .error e) ↔ f.queue.jobs.length = max capacity 1
  order : n.accepted = n.taken ++ f.queue.jobs
  begun : n.taken = n.started ++ f.held.toList
  hands : ((n.ended ++ f.hands).map Hand.job).Perm n.started
  sources : n.accepted.Perm (n.produced ++ (n.ended ++ f.hands).flatMap Hand.scheduled)
  followUps : ∀ hand ∈ n.ended ++ f.hands, hand.scheduled.length ≤ 2 ∧ ∀ job ∈ hand.scheduled,
    ∃ log user, hand.job = .transfer log ∧ job = .recount user ∧
      ∃ before move after, moves = before ++ move :: after ∧ Meets (start.run before).1 move log user
  total : n.accepted.length ≤ 3 * n.produced.length
  effort : start.effort moves ≤ 15 * n.produced.length
  idle : (∀ move, f.can move = false) → Vacant f ∧ (n.ended.map Hand.job).Perm n.accepted ∧ n.taken = n.accepted
  failure : ∀ k chain hand e, f.hands[k]? = some hand → (hand.work.step chain f.store f.queue).left = .error e →
    ∃ store, f.step (.work k chain) =
      ({ f with store, hands := f.hands.eraseIdx k }, { Notes.none with ended := [hand] })

theorem failedStep {k : Nat} {chain : Reader} {hand : Hand} {e : SyncError} (found : f.hands[k]? = some hand)
    (failed : (hand.work.step chain f.store f.queue).left = .error e) : ∃ store, f.step (.work k chain) =
      ({ f with store, hands := f.hands.eraseIdx k }, { Notes.none with ended := [hand] }) := by
  obtain ⟨left, store, same⟩ := stepsFinished (workSteps chain f.store f.queue hand.work) (by simp [failed])
  rw [same] at failed
  refine ⟨store, ?_⟩
  simp only at failed
  simp [Floor.step, Floor.work, found, same, failed, Notes.none]

theorem openedVacant (capacity workers : Nat) (store : Store) : Vacant (.opened capacity workers store) :=
  ⟨rfl, rfl, rfl⟩

theorem accounted (capacity workers : Nat) (store : Store) (moves : List Move) :
    Accounted capacity (.opened capacity workers store) moves ((Floor.opened capacity workers store).run moves).1
      ((Floor.opened capacity workers store).run moves).2 := by
  obtain ⟨start, opening⟩ : ∃ start, start = Floor.opened capacity workers store := ⟨_, rfl⟩
  have vacant : Vacant start := opening ▸ openedVacant capacity workers store
  have size : start.queue.capacity = max capacity 1 := opening ▸ rfl
  have isOpen : start.queue.closed = false := opening ▸ rfl
  have staffed : 1 ≤ start.workers := opening ▸ Nat.le_max_right workers 1
  rw [← opening]
  have balance := balanceRun start moves
  have fresh : ∀ {P}, ∀ hand ∈ start.hands, hand.Fair P := by simp [vacant.hands]
  have fair := fairRun (f := start)
    (P := fun log user => ∃ before move after, moves = before ++ move :: after ∧
      Meets (start.run before).1 move log user)
    (fun before move after same _ _ meets => ⟨before, move, after, same, meets⟩) fresh
  have spent := effortRun fresh moves
  have nothing : start.weight = 0 := by simp [Floor.weight, vacant.queue, vacant.held, vacant.hands]
  generalize start.run moves = last at balance fair spent ⊢
  obtain ⟨f, n⟩ := last
  simp only at balance fair spent ⊢
  obtain ⟨order, begun, hands, sources⟩ := balanceVacant vacant balance
  have capacityKept := balance.capacity.trans size
  refine ⟨?_, ?_, order, begun, hands, sources, ?_, acceptedFew vacant balance fair, by omega, ?_, ?_⟩
  · exact capacityKept ▸ f.queue.bounded
  · intro job
    rw [Queue.submitRefused (balance.closed.trans isOpen), capacityKept]
  · intro hand member
    obtain ⟨few, own⟩ := Hand.fairScheduled (fair hand member)
    refine ⟨few, fun job scheduled => ?_⟩
    obtain ⟨log, user, moving, recounts, known⟩ := own job scheduled
    exact ⟨log, user, moving, recounts, known⟩
  · intro idle
    obtain ⟨queue, held, none⟩ := idleEmpty (balance.workers.symm ▸ staffed) idle
    rw [queue, List.append_nil] at order
    rw [held, Option.toList_none, List.append_nil] at begun
    rw [none, List.append_nil] at hands
    exact ⟨⟨queue, held, none⟩, order ▸ begun ▸ hands, order.symm⟩
  · intro k chain hand e found failed
    exact failedStep found failed

/-- However its steps fall among those of producers and others, the pool runs every job that is accepted once and in its
turn, schedules two recounts for a transfer at most, and comes to rest with nothing left. Its rounds are such steps, and
where the node answers at once they come to rest themselves. -/
theorem poolDrains :
    (∀ (capacity workers : Nat) (store : Store) (moves : List Move),
      Accounted capacity (.opened capacity workers store) moves ((Floor.opened capacity workers store).run moves).1
        ((Floor.opened capacity workers store).run moves).2) ∧
    (∀ (w : Workroom) (p : Pool), Workroom.Going w p →
      (∃ p', Workroom.Going w.drain p' ∧ (w.floor p []).Reaches (w.drain.floor p' [])) ∧
      (p.running = [] → 1 ≤ p.workers → w.node.seconds = 0 →
        ∃ p', w.drain.pool = some p' ∧ w.drain.queue.jobs = [] ∧ p'.held = none ∧ p'.running = [])) := by
  refine ⟨accounted, fun w p going => ⟨?_, Workroom.drainEmpty going⟩⟩
  obtain ⟨p', after, _, reaches⟩ := Workroom.drainReaches going
  exact ⟨p', after, reaches⟩

def staffed : Workroom :=
  { crowded with queue := ⟨4, [.transfer newcomers, .recount "c"], false, by decide⟩, pool := some (.ofWorkers 2 60) }

/-- Two jobs side by side on a floor with room for two more. The recount fails while the transfer goes on, which fills
the queue with two others, so that a third producer is refused. -/
def shift : List Move :=
  [.submit (.transfer newcomers), .take, .start, .submit (.recount "c"), .take, .start] ++
    [0, 1, 0, 0, 0].map (.work · crowded.node.reader) ++ [.submit (.recount "d"), .work 0 crowded.node.reader] ++
    [.take, .start, .work 0 crowded.node.reader] ++ [.take, .start, .work 0 crowded.node.reader]

theorem poolDrainsNewcomers :
    ((Floor.opened 2 2 crowded.store).run shift).2.produced = [.transfer newcomers, .recount "c"] ∧
    ((Floor.opened 2 2 crowded.store).run shift).2.taken =
      [.transfer newcomers, .recount "c", .recount "a", .recount "b"] ∧
    (((Floor.opened 2 2 crowded.store).run shift).2.ended.map Hand.job).Perm
      [.transfer newcomers, .recount "c", .recount "a", .recount "b"] ∧
    Vacant ((Floor.opened 2 2 crowded.store).run shift).1 ∧
    Workroom.Going staffed (.ofWorkers 2 60) ∧
    ∃ p', staffed.drain.pool = some p' ∧ staffed.drain.queue.jobs = [] ∧ p'.held = none ∧ p'.running = [] := by
  have accepted : ((Floor.opened 2 2 crowded.store).run shift).2.accepted =
      [.transfer newcomers, .recount "c", .recount "a", .recount "b"] := by decide +kernel
  have idle : ∀ move, ((Floor.opened 2 2 crowded.store).run shift).1.can move = false := by
    intro move
    cases move <;> rfl
  have going : Workroom.Going staffed (.ofWorkers 2 60) := ⟨rfl, rfl, by decide⟩
  obtain ⟨vacant, ended, taken⟩ := (poolDrains.1 2 2 crowded.store shift).idle idle
  rw [accepted] at ended taken
  exact ⟨by decide +kernel, taken, ended, vacant, going, (poolDrains.2 staffed _ going).2 rfl (by decide) rfl⟩

end HolderGate.Sync
