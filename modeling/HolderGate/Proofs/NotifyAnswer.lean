import HolderGate.Http.Endpoint
import HolderGate.Proofs.ListenerTurn
import HolderGate.Proofs.SignedEffects

/-! What the endpoint for notifications answers, and what its message then puts into the queue. With nobody on the bus
the two agree. Otherwise the answer is given before the listener comes to the message and finds room for it or not. -/
namespace HolderGate.Http
open Access Sync

def added (svc later : Service) (course : Course later.bus.pending) : List Job :=
  later.queue.jobs.drop svc.queue.jobs.length ++ ((turn svc.topic later.queue course.steps).1.getLast?).getD []

def RoomAtLast (svc later : Service) (course : Course later.bus.pending) : Prop :=
  svc.bus.listener.isSome ∧ ∃ before meanwhile m, course.steps = before ++ [(meanwhile, m)] ∧
    0 < (meanwhile (turn svc.topic later.queue before).2).vacancies

variable {svc later : Service} {r : Request} {n : Notification} {topic : String} {q : Queue} {m : Message} {i : Inbox}

theorem courseLast {earlier ms : List Message} (course : Course ms) (split : ms = earlier ++ [m]) :
    ∃ before meanwhile, course.steps = before ++ [(meanwhile, m)] := by
  obtain ⟨before, final, steps, _, same⟩ := List.map_eq_append_iff.mp (course.heard.trans split)
  obtain ⟨step, rfl, rfl⟩ := List.map_eq_singleton_iff.mp same
  exact ⟨before, step.1, steps⟩

theorem turnLast (before : List ((Queue → Queue) × Message)) (meanwhile : Queue → Queue) :
    (turn topic q (before ++ [(meanwhile, m)])).1.getLast? =
      some (if 0 < (meanwhile (turn topic q before).2).vacancies then (wanted topic m).toList else []) := by
  rw [← turnNote topic q before [] meanwhile m, List.getLast?_eq_getElem?, turnLength]
  simp

theorem addedUnheard (unheard : later.bus.listener = none) (course : Course later.bus.pending) :
    added svc later course = later.queue.jobs.drop svc.queue.jobs.length := by
  have nothing : course.steps = [] := by
    have heard := course.heard
    simp only [Bus.pending, unheard] at heard
    exact List.map_eq_nil_iff.mp heard
  simp [added, nothing, turn]

theorem addedHeard (running : later.bus.listener = some (i.deliver (notice svc.topic n)))
    (kept : later.queue = svc.queue) (course : Course later.bus.pending) :
    ∃ before meanwhile, course.steps = before ++ [(meanwhile, notice svc.topic n)] ∧
      added svc later course =
        if 0 < (meanwhile (turn svc.topic later.queue before).2).vacancies then [.recount n.user] else [] := by
  obtain ⟨earlier, last⟩ := deliverLast i (notice svc.topic n)
  obtain ⟨before, meanwhile, steps⟩ := courseLast course ((pendingRunning running).trans last)
  refine ⟨before, meanwhile, steps, ?_⟩
  rw [added, steps, turnLast, noticeWanted, kept]
  simp

theorem notifyUnheard (well : document Notification r = .ok n) (named : Text.isBlankText n.user = false)
    (nobody : svc.bus.listeners = 0) : notify svc r =
      (.json 202 [("accepted", Json.flag (svc.request n.user).1)], (svc.request n.user).2) := by
  have bus : (svc.announce n).2 = svc := by
    obtain ⟨room, scheme, issuer, topic, ⟨listener, observer⟩, attended⟩ := svc
    cases listener with
    | some i => simp [Bus.listeners] at nobody
    | none =>
      cases observer with
      | some i => simp [Bus.listeners] at nobody
      | none => rfl
  have reached : (svc.announce n).1 = 0 := nobody
  simp [notify, extracting, well, named, reached, bus]

theorem notifyHeard (well : document Notification r = .ok n) (named : Text.isBlankText n.user = false)
    (somebody : 0 < svc.bus.listeners) :
    notify svc r = (.json 202 [("accepted", Json.flag true)], (svc.announce n).2) := by
  have reached : 0 < (svc.announce n).1 := somebody
  simp [notify, extracting, well, named, reached]

/-- The endpoint answers that a recount was scheduled if somebody is on the bus, or else the queue has room. That is so
where nobody is on the bus, or the listener is and comes to a queue with room. -/
theorem answerTruthful (well : document Notification r = .ok n) (named : Text.isBlankText n.user = false) :
    ∃ accepted, (notify svc r).1 = .json 202 [("accepted", Json.flag accepted)] ∧
      (accepted = true ↔ 0 < svc.bus.listeners ∨ 0 < svc.queue.vacancies) ∧
      (∀ course : Course (notify svc r).2.bus.pending,
        ((accepted = true ↔ .recount n.user ∈ added svc (notify svc r).2 course) ↔
          svc.bus.listeners = 0 ∨ RoomAtLast svc (notify svc r).2 course)) ∧
      (notify svc r).2.listen.queue = (turn (notify svc r).2.topic (notify svc r).2.queue
        (Course.quiet (notify svc r).2.bus.pending).steps).2 := by
  cases Nat.eq_zero_or_pos svc.bus.listeners with
  | inl nobody =>
    have ran := notifyUnheard well named nobody
    refine ⟨(svc.request n.user).1, by rw [ran], ?_, ?_, listenTurn rfl⟩
    · simp [Service.request, requestTold, nobody]
    · intro course
      have unheard : (notify svc r).2.bus.listener = none := by
        rw [ran]
        show svc.bus.listener = none
        cases running : svc.bus.listener with
        | none => rfl
        | some i => simp [Bus.listeners, running] at nobody
      have jobs : (notify svc r).2.queue.jobs =
          svc.queue.jobs ++ (if 0 < svc.queue.vacancies then [.recount n.user] else []) := by
        rw [ran]
        exact (requestRun svc.queue n.user).1
      rw [addedUnheard unheard, jobs]
      by_cases room : 0 < svc.queue.vacancies
      · simp [Service.request, requestTold, room, nobody]
      · simp [Service.request, requestTold, room, nobody]
  | inr somebody =>
    have ran := notifyHeard well named somebody
    refine ⟨true, by rw [ran], by simp [somebody], ?_, listenTurn rfl⟩
    intro course
    have busy : svc.bus.listeners ≠ 0 := Nat.pos_iff_ne_zero.mp somebody
    have kept : (notify svc r).2.queue = svc.queue := by rw [ran]; rfl
    have bus : (notify svc r).2.bus.listener = svc.bus.listener.map (·.deliver (notice svc.topic n)) := by rw [ran]; rfl
    cases running : svc.bus.listener with
    | none =>
      rw [running] at bus
      rw [addedUnheard bus, kept]
      simp [RoomAtLast, running, busy]
    | some i =>
      rw [running] at bus
      obtain ⟨before, meanwhile, steps, jobs⟩ := addedHeard bus kept course
      rw [jobs]
      have last : RoomAtLast svc (notify svc r).2 course ↔
          0 < (meanwhile (turn svc.topic (notify svc r).2.queue before).2).vacancies := by
        constructor
        · intro room
          obtain ⟨_, earlier, others, m, same, room⟩ := room
          obtain ⟨rfl, rest⟩ := List.append_inj' (steps.symm.trans same) rfl
          cases rest
          exact room
        · intro room
          exact ⟨by simp [running], before, meanwhile, _, steps, room⟩
      rw [last]
      by_cases room : 0 < (meanwhile (turn svc.topic (notify svc r).2.queue before).2).vacancies
      · simp [room]
      · simp [room, busy]

def crammed (b : Bus) : Service :=
  { Service.trusting with queue := ((Queue.ofCapacity 1).request "b").2, bus := b }

def news : Request :=
  ⟨.post, "/features/v1/access/notify", "", [.of "content-type" "application/json"],
    utf8 "\x7b\"user_id\":\"c\"\x7d"⟩

theorem newsDocument : document Notification news = .ok ⟨"c", .signup, none⟩ := by
  have media : ((news.headers.first? "content-type").bind readable?).any MediaType.isJson = true := by decide +kernel
  have body : (Json.read news.body : Except Json.Fault Notification).toOption = some ⟨"c", .signup, none⟩ := by
    decide
  unfold document
  rw [if_pos media]
  cases read : (Json.read news.body : Except Json.Fault Notification) with
  | ok n =>
    rw [read] at body
    cases body
    rfl
  | error e =>
    rw [read] at body
    cases body

theorem answerTruthfulUnheard : document Notification news = .ok ⟨"c", .signup, none⟩ ∧
    Text.isBlankText "c" = false ∧ (crammed .empty).bus.listeners = 0 ∧
    ∃ accepted, (notify (crammed .empty) news).1 = .json 202 [("accepted", Json.flag accepted)] ∧ accepted = false := by
  have named : Text.isBlankText "c" = false := by decide
  obtain ⟨accepted, answer, told, _⟩ := @answerTruthful (crammed .empty) news _ newsDocument named
  refine ⟨newsDocument, named, rfl, accepted, answer, ?_⟩
  have never : ¬ (0 < (crammed .empty).bus.listeners ∨ 0 < (crammed .empty).queue.vacancies) := by decide
  rw [← told] at never
  simpa using never

theorem fullQueueAnsweredAsScheduled : ¬ ∀ (svc : Service) (r : Request) (n : Notification),
    document Notification r = .ok n → Text.isBlankText n.user = false →
      ∀ course : Course (notify svc r).2.bus.pending,
        (notify svc r).1 = .json 202 [("accepted", Json.flag true)] ↔
          .recount n.user ∈ added svc (notify svc r).2 course := by
  intro truthful
  have somebody : 0 < (crammed ⟨some .empty, none⟩).bus.listeners := by decide
  have heard := notifyHeard newsDocument (by decide) somebody
  have same := truthful (crammed ⟨some .empty, none⟩) news _ newsDocument (by decide)
  rw [heard] at same
  have noted := (same (Course.quiet _)).mp rfl
  have full : added (crammed ⟨some .empty, none⟩) ((crammed ⟨some .empty, none⟩).announce ⟨"c", .signup, none⟩).2
      (Course.quiet _) = [] := by decide +kernel
  rw [full] at noted
  cases noted

end HolderGate.Http
