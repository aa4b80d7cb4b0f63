import HolderGate.Sync.Queue

/-! The room in a queue. It takes a job if it is open and has room for one, and of several as many as it has room for. -/
namespace HolderGate.Sync

namespace Queue
variable {q q' : Queue} {job : Job}

theorem submitOk (ran : q.submit job = .ok q') : q'.jobs = q.jobs ++ [job] ∧ q'.capacity = q.capacity ∧
    q'.closed = q.closed := by
  unfold submit at ran
  split at ran
  next => cases ran
  next =>
    split at ran
    next => cases ran; exact ⟨rfl, rfl, rfl⟩
    next => cases ran

theorem submitRefused (isOpen : q.closed = false) : (∃ e, q.submit job = .error e) ↔ q.jobs.length = q.capacity := by
  have bounded := q.bounded
  simp only [submit, isOpen, Bool.false_eq_true, if_false]
  split
  next room =>
    refine ⟨?_, fun full => absurd room (by omega)⟩
    rintro ⟨e, ⟨⟩⟩
  next full => exact ⟨fun _ => by omega, fun _ => ⟨.full, rfl⟩⟩

def vacancies (q : Queue) : Nat := if q.closed then 0 else q.capacity - q.jobs.length

end Queue

theorem vacanciesOpen {q : Queue} (isOpen : q.closed = false) : q.vacancies = q.capacity - q.jobs.length := by
  simp [Queue.vacancies, isOpen]

theorem requestRun (q : Queue) (user : String) :
    (q.request user).2.jobs = q.jobs ++ (if 0 < q.vacancies then [.recount user] else []) ∧
      (q.request user).2.vacancies = q.vacancies - 1 := by
  unfold Queue.request Queue.submit Queue.vacancies
  cases closed : q.closed with
  | true => simp [closed]
  | false =>
    by_cases room : q.jobs.length < q.capacity
    · have vacant : 0 < q.capacity - q.jobs.length := by omega
      simp only [Bool.false_eq_true, if_false, dif_pos room, if_pos vacant, List.length_append,
        List.length_singleton, Nat.sub_sub, and_self]
    · have full : ¬ 0 < q.capacity - q.jobs.length := by omega
      simp only [Bool.false_eq_true, if_false, dif_neg room, if_neg full, closed, List.append_nil, true_and]
      omega

theorem requestTold (q : Queue) (user : String) : (q.request user).1 = decide (0 < q.vacancies) := by
  unfold Queue.request Queue.submit Queue.vacancies
  cases closed : q.closed with
  | true => simp
  | false =>
    by_cases room : q.jobs.length < q.capacity
    · have vacant : 0 < q.capacity - q.jobs.length := by omega
      simp only [Bool.false_eq_true, if_false, dif_pos room, decide_eq_true vacant]
    · have full : ¬ 0 < q.capacity - q.jobs.length := by omega
      simp only [Bool.false_eq_true, if_false, dif_neg room, decide_eq_false full]

theorem requestAll (users : List String) (q : Queue) :
    (users.foldl (fun q user => (q.request user).2) q).jobs = q.jobs ++ (users.take q.vacancies).map Job.recount := by
  induction users generalizing q with
  | nil => simp
  | cons user users ih =>
    obtain ⟨jobs, vacancies⟩ := requestRun q user
    rw [List.foldl_cons, ih, jobs, vacancies]
    cases q.vacancies with
    | zero => simp
    | succ n => simp

end HolderGate.Sync
