import HolderGate.Proofs.PoolSchedule

/-! Recounts of users without holdings on record. A transfer asks for one for each of its ends, and the queue takes as
many as it has room for; who is left out stays without holdings, so the next transfer asks again. -/
namespace HolderGate.Sync
open Access Chain Identity

variable {w : Workroom} {log : Mined} {r : Report} {s s' : Store} {user : String} {endpoint : Address}

def Due (log : Mined) (endpoint : Address) (deltas : List Delta) : Prop :=
  deltas ≠ [] ∧ ∃ sender receiver, log.event.endpoints? = some (sender, receiver) ∧
    ((endpoint = sender ∧ deltas = (changes log.contract log.event).1) ∨
      (endpoint = receiver ∧ deltas = (changes log.contract log.event).2))

theorem unrecordedIff {deltas : List Delta} : user ∈ unrecorded s endpoint deltas ↔
    deltas ≠ [] ∧ userAt? s endpoint = some user ∧ s.holdings.get? user = none := by
  refine ⟨fun listed => ?_, ?_⟩
  · obtain ⟨owned, lacking⟩ := unrecordedMember listed
    refine ⟨?_, owned, lacking⟩
    rintro rfl
    simp [unrecorded, owned] at listed
  · rintro ⟨due, owned, lacking⟩
    simp [unrecorded, owned, due, SortedMap.contains, lacking]

theorem unrecordedOfIff : user ∈ unrecordedOf s log ↔
    ∃ endpoint deltas, Due log endpoint deltas ∧ userAt? s endpoint = some user ∧ s.holdings.get? user = none := by
  unfold unrecordedOf Due
  cases log.event.endpoints? with
  | none => simp
  | some both =>
    obtain ⟨sender, receiver⟩ := both
    simp only [List.mem_append, unrecordedIff, Option.some.injEq, Prod.mk.injEq]
    constructor
    · rintro (⟨due, owned, lacking⟩ | ⟨due, owned, lacking⟩)
      · exact ⟨sender, _, ⟨due, sender, receiver, ⟨rfl, rfl⟩, .inl ⟨rfl, rfl⟩⟩, owned, lacking⟩
      · exact ⟨receiver, _, ⟨due, sender, receiver, ⟨rfl, rfl⟩, .inr ⟨rfl, rfl⟩⟩, owned, lacking⟩
    · rintro ⟨endpoint, deltas, ⟨due, _, _, ⟨rfl, rfl⟩, ⟨rfl, rfl⟩ | ⟨rfl, rfl⟩⟩, owned, lacking⟩
      · exact .inl ⟨due, owned, lacking⟩
      · exact .inr ⟨due, owned, lacking⟩

theorem transferUnrecorded (log other : Mined) (s : Store) :
    unrecordedOf (applyTransfer log s).2 other = unrecordedOf s other := by
  have same := transferKeeps (P := SameUnrecorded s) (fun _ _ _ _ => .deliver) (fun _ _ => rfl) log
  unfold unrecordedOf
  simp only [same _ _]

/-- A user of a transfer without holdings on record has a recount in the queue after it, unless the queue is full. -/
theorem unrecordedRequested (isOpen : w.queue.closed = false) (ran : applyTransfer log w.store = (.ok r, s')) :
    (∀ user, user ∈ unrecordedOf w.store log ↔ ∃ endpoint deltas, Due log endpoint deltas ∧
      userAt? w.store endpoint = some user ∧ w.store.holdings.get? user = none) ∧
    (w.run (.transfer log)).queue.jobs = w.queue.jobs ++
      ((unrecordedOf w.store log).take (w.queue.capacity - w.queue.jobs.length)).map Job.recount ∧
    (∀ user ∈ unrecordedOf w.store log, Job.recount user ∈ (w.run (.transfer log)).queue.jobs ∨
      (w.run (.transfer log)).queue.jobs.length = w.queue.capacity) ∧
    unrecordedOf (w.run (.transfer log)).store log = unrecordedOf w.store log := by
  have jobs : (w.run (.transfer log)).queue.jobs = w.queue.jobs ++
      ((unrecordedOf w.store log).take (w.queue.capacity - w.queue.jobs.length)).map Job.recount := by
    rw [Workroom.runTransfer, ran]
    simp only
    rw [requestAll r.missing w.queue, vacanciesOpen isOpen, transferMissing ran]
  refine ⟨fun _ => unrecordedOfIff, jobs, fun user listed => ?_, ?_⟩
  · have bounded := w.queue.bounded
    by_cases room : (unrecordedOf w.store log).length ≤ w.queue.capacity - w.queue.jobs.length
    · refine .inl ?_
      rw [jobs, List.take_of_length_le room]
      exact List.mem_append_right _ (List.mem_map_of_mem listed)
    · refine .inr ?_
      rw [jobs, List.length_append, List.length_map, List.length_take]
      omega
  · rw [Workroom.runTransfer]
    exact transferUnrecorded log log w.store

def crowded : Workroom :=
  { store := (Store.empty.own (.ofAddress 1) "a").own (.ofAddress 2) "b"
    queue := .ofCapacity 1
    pool := some (.ofWorkers 1 60)
    node := .idle
    clock := 0 }

def newcomers : Mined := ⟨9, 50, none, .erc20 1 2 5⟩

theorem newcomersUnrecorded : unrecordedOf crowded.store newcomers = ["a", "b"] := by decide

theorem newcomersApplied : applyTransfer newcomers crowded.store = (.ok ⟨[], [], ["a", "b"]⟩, crowded.store) := by
  have first : userAt? crowded.store 1#160 = some "a" := by decide
  have second : userAt? crowded.store 2#160 = some "b" := by decide
  have none : ∀ user, crowded.store.holdings.get? user = Option.none := fun _ => rfl
  simp [applyTransfer, applyAt, newcomers, Event.endpoints?, changes, moved, first, second, Store.applyChanges, none,
    Report.empty, Report.add]

theorem unrecordedRequestedFirst : crowded.queue.closed = false ∧
    applyTransfer newcomers crowded.store = (.ok ⟨[], [], ["a", "b"]⟩, crowded.store) ∧
    (crowded.run (.transfer newcomers)).queue.jobs = [.recount "a"] := by
  obtain ⟨_, jobs, _⟩ := unrecordedRequested (w := crowded) rfl newcomersApplied
  rw [newcomersUnrecorded] at jobs
  exact ⟨rfl, newcomersApplied, jobs⟩

def hollow : Mined := ⟨9, 50, none, .erc1155Batch 1 2 [] []⟩

/-- The queue is full once the first of two users is asked for, and a batch of no tokens asks for none, whatever the
room. -/
theorem secondUserForgotten :
    (¬ ∀ (w : Workroom) (log : Mined) (r : Report) (s' : Store), w.queue.closed = false →
      applyTransfer log w.store = (.ok r, s') → ∀ user, Lacks w.store log user →
        Job.recount user ∈ (w.run (.transfer log)).queue.jobs) ∧
    applyTransfer hollow crowded.store = (.ok .empty, crowded.store) ∧ Lacks crowded.store hollow "a" ∧
      crowded.queue.jobs.length < crowded.queue.capacity ∧ (crowded.run (.transfer hollow)).queue.jobs = [] := by
  refine ⟨fun never => ?_, rfl, ⟨1, 2, rfl, .inl (by decide +kernel), by decide +kernel⟩, by decide, rfl⟩
  have lacks : Lacks crowded.store newcomers "b" := ⟨1, 2, rfl, .inr (by decide +kernel), by decide +kernel⟩
  have queued := never crowded newcomers _ _ rfl newcomersApplied "b" lacks
  rw [Workroom.runTransfer, newcomersApplied] at queued
  simp only at queued
  rw [requestAll ["a", "b"] crowded.queue] at queued
  simp [crowded, Queue.ofCapacity, Queue.vacancies] at queued

end HolderGate.Sync
