import HolderGate.Proofs.QueueRoom
import HolderGate.Proofs.StoredDocument
import HolderGate.Service

/-! A turn of the listener. It hears the messages that wait for it from the oldest on, and asks for a recount for each
that is a notification on its topic. What finds no room in the queue then is not asked for again. -/
namespace HolderGate.Sync
open Access
open Service (hear)

def wanted (topic : String) (m : Message) : Option Job := (heard? topic m).map fun n => .recount n.user

structure Course (messages : List Message) where
  steps : List ((Queue → Queue) × Message)
  heard : steps.map Prod.snd = messages

def Course.quiet (messages : List Message) : Course messages := ⟨messages.map fun m => (id, m), by simp⟩

def turn (topic : String) : Queue → List ((Queue → Queue) × Message) → List (List Job) × Queue
  | q, [] => ([], q)
  | q, (meanwhile, m) :: steps =>
    let found := meanwhile q
    let left := hear topic found m
    let (notes, last) := turn topic left steps
    (left.jobs.drop found.jobs.length :: notes, last)

def Bus.pending (b : Bus) : List Message := (b.listener.map Inbox.waiting).getD []

variable {topic : String} {q : Queue} {m : Message} {ms : List Message} {i : Inbox} {user : String}
  {before after steps : List ((Queue → Queue) × Message)} {meanwhile : Queue → Queue}

theorem deliverLast (i : Inbox) (m : Message) : ∃ earlier, (i.deliver m).waiting = earlier ++ [m] := by
  refine ⟨i.waiting.drop (i.waiting.length + 1 - backlog), ?_⟩
  have kept : i.waiting.length + 1 - backlog ≤ i.waiting.length := by
    unfold backlog
    omega
  simp [Inbox.deliver, List.drop_append_of_le_length kept]

theorem deliverAll (ms : List Message) (i : Inbox) (bounded : i.waiting.length ≤ backlog) :
    ms.foldl Inbox.deliver i = ⟨i.lost + ((i.waiting ++ ms).length - backlog),
      (i.waiting ++ ms).drop ((i.waiting ++ ms).length - backlog)⟩ := by
  induction ms generalizing i with
  | nil => simp [Nat.sub_eq_zero_of_le bounded]
  | cons m ms ih =>
    have next : (i.deliver m).waiting.length ≤ backlog := by
      simp only [Inbox.deliver, List.length_drop, List.length_append]
      omega
    rw [List.foldl_cons, ih _ next]
    simp only [Inbox.deliver]
    generalize backlog = size at bounded
    have within : (i.waiting ++ [m]).length - size ≤ (i.waiting ++ [m]).length := Nat.sub_le _ _
    rw [← List.drop_append_of_le_length within, List.drop_drop, ← List.append_cons]
    simp only [List.length_drop, List.length_append, List.length_cons, List.length_nil]
    have lost : i.waiting.length + 1 - size + (i.waiting.length + (ms.length + 1) - (i.waiting.length + 1 - size) - size) =
        i.waiting.length + (ms.length + 1) - size := by omega
    rw [Nat.zero_add, Nat.add_assoc, lost]

theorem wantedIff {job : Job} : wanted topic m = some job ↔
    m.topic = topic ∧ ∃ n : Notification, Json.read m.payload = .ok n ∧ job = .recount n.user := by
  unfold wanted heard?
  split
  next same =>
    cases Json.read (α := Notification) m.payload with
    | ok n => simp [same, Except.toOption, eq_comm]
    | error e => simp [same, Except.toOption]
  next other => simp [other]

theorem noticeWanted (topic : String) (n : Notification) : wanted topic (notice topic n) = some (.recount n.user) :=
  wantedIff.mpr ⟨rfl, n, Json.readRender n.restores, rfl⟩

theorem hearJobs (topic : String) (q : Queue) (m : Message) : (hear topic q m).jobs =
    q.jobs ++ (if 0 < q.vacancies then (wanted topic m).toList else []) := by
  unfold hear wanted
  cases heard? topic m with
  | none => simp
  | some n => exact (requestRun q n.user).1

theorem turnAppend (topic : String) (q : Queue) (before after : List ((Queue → Queue) × Message)) :
    turn topic q (before ++ after) =
      ((turn topic q before).1 ++ (turn topic (turn topic q before).2 after).1,
        (turn topic (turn topic q before).2 after).2) := by
  induction before generalizing q with
  | nil => rfl
  | cons step before ih => simp only [List.cons_append, turn, ih]

theorem turnLength (topic : String) (q : Queue) (steps : List ((Queue → Queue) × Message)) :
    (turn topic q steps).1.length = steps.length := by
  induction steps generalizing q with
  | nil => rfl
  | cons step steps ih => simp only [turn, List.length_cons, ih]

theorem turnNote (topic : String) (q : Queue) (before after : List ((Queue → Queue) × Message))
    (meanwhile : Queue → Queue) (m : Message) :
    (turn topic q (before ++ (meanwhile, m) :: after)).1[before.length]? =
      some (if 0 < (meanwhile (turn topic q before).2).vacancies then (wanted topic m).toList else []) := by
  have early : (turn topic q before).1.length = before.length := turnLength topic q before
  rw [turnAppend, ← early, List.getElem?_append_right (Nat.le_refl _), Nat.sub_self]
  simp [turn, hearJobs]

theorem turnQuiet (topic : String) (q : Queue) (ms : List Message) :
    (turn topic q (Course.quiet ms).steps).2 = ms.foldl (hear topic) q := by
  unfold Course.quiet
  induction ms generalizing q with
  | nil => rfl
  | cons m ms ih => exact ih (hear topic q m)

theorem pendingRunning {b : Bus} (running : b.listener = some i) : b.pending = i.waiting := by
  simp [Bus.pending, running]

theorem listenTurn {svc : Service} (waiting : svc.bus.pending = ms) :
    svc.listen.queue = (turn svc.topic svc.queue (Course.quiet ms).steps).2 := by
  subst waiting
  unfold Service.listen Bus.pending
  cases svc.bus.listener with
  | none => rfl
  | some i => exact (turnQuiet svc.topic svc.queue i.waiting).symm

theorem hearAll (topic : String) (ms : List Message) (q : Queue) :
    (ms.foldl (hear topic) q).jobs = q.jobs ++ (ms.filterMap (wanted topic)).take q.vacancies := by
  have requests : ms.foldl (hear topic) q =
      ((ms.filterMap (heard? topic)).map (·.user)).foldl (fun q user => (q.request user).2) q := by
    rw [List.foldl_map, List.foldl_filterMap]
    refine congrArg (fun step => ms.foldl step q) (funext fun q => funext fun m => ?_)
    unfold hear
    cases heard? topic m <;> rfl
  rw [requests, requestAll]
  simp only [List.map_take, List.map_filterMap, Option.map_map]
  rfl

end HolderGate.Sync
