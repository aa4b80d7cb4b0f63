import HolderGate.Proofs.HoldingsChange
import HolderGate.Sync.Recount

/-! What one transfer does to the documents of users. The sender's document receives its changes, then
the receiver's does, and a document that is of a later block, or that there is none of, stays. -/
namespace HolderGate

structure Store.SameBut (s later : Store) (touched : String → Prop) : Prop where
  users : later.users = s.users
  owners : later.owners = s.owners
  nonces : later.nonces = s.nonces
  sessionKeys : later.sessionKeys = s.sessionKeys
  attempts : later.attempts = s.attempts
  features : later.features = s.features
  holdings : ∀ user, ¬ touched user → later.holdings.get? user = s.holdings.get? user

theorem Store.sameButPut (s : Store) (user : String) (h : Access.Holdings) :
    s.SameBut (s.putHoldings user h) (· = user) := by
  refine ⟨rfl, rfl, rfl, rfl, rfl, rfl, ?_⟩
  intro other apart
  simp [Store.putHoldings, apart]

namespace Sync
open Access Chain Identity

def receive (block : UInt64) (ds : List Delta) : Option (Stored Holdings) → Option (Stored Holdings)
  | some (.ok h) => if block < h.block then some (.ok h) else some (.ok { h.apply ds with block })
  | document => document

def deliver (block : UInt64) (ds : List Delta) (user? : Option String) (s : Store) : Store :=
  match user? with
  | none => s
  | some user =>
    match s.holdings.get? user with
    | some (.ok h) => if block < h.block then s else s.putHoldings user { h.apply ds with block }
    | _ => s

def Unreadable (s : Store) (user? : Option String) : Prop :=
  ∃ user fault, user? = some user ∧ s.holdings.get? user = some (.error fault)

def Readable (s : Store) : Prop := ∀ user?, ¬ Unreadable s user?

variable {block : UInt64} {ds more given taken : List Delta} {user : String}
  {user? other? sender? receiver? : Option String} {s : Store} {endpoint sender receiver : Address}
  {r : Report} {log : Mined}

theorem receiveAppend (document : Option (Stored Holdings)) :
    receive block (ds ++ more) document = receive block more (receive block ds document) := by
  rcases document with _ | _ | h
  · rfl
  · rfl
  · simp only [receive]
    split
    next stale => simp only [if_pos stale]
    next current =>
      simp only [if_neg (UInt64.lt_irrefl block), Holdings.applyAppend, Holdings.applyWith]

theorem deliverDocument (s : Store) (user : String) :
    (deliver block ds user? s).holdings.get? user =
      if user? = some user then receive block ds (s.holdings.get? user) else s.holdings.get? user := by
  unfold deliver
  cases user? with
  | none => simp
  | some other =>
    by_cases same : other = user
    · subst same
      rw [if_pos rfl]
      simp only
      split
      next h found =>
        rw [found, receive]
        split
        next => exact found
        next => simp [Store.putHoldings]
      next unchanged =>
        rcases document : s.holdings.get? other with _ | _ | h
        · rfl
        · rfl
        · exact absurd document (unchanged h)
    · rw [if_neg (by simpa using same)]
      simp only
      split
      next =>
        split
        next => rfl
        next => simp [Store.putHoldings, Ne.symm same]
      next => rfl

theorem deliverOwners (s : Store) : (deliver block ds user? s).owners = s.owners := by
  unfold deliver
  repeat' split
  all_goals rfl

theorem deliverUserAt (s : Store) (endpoint : Address) :
    userAt? (deliver block ds user? s) endpoint = userAt? s endpoint := by
  rw [userAt?, userAt?, Store.owner?, Store.owner?, deliverOwners]

theorem receiveUnreadable {document : Option (Stored Holdings)} {fault : Json.Fault} :
    receive block ds document = some (.error fault) ↔ document = some (.error fault) := by
  rcases document with _ | _ | h
  · rfl
  · rfl
  · rw [receive]
    split <;> simp

theorem deliverUnreadable (s : Store) :
    Unreadable (deliver block ds user? s) other? ↔ Unreadable s other? := by
  unfold Unreadable
  have same : ∀ user fault, (deliver block ds user? s).holdings.get? user = some (.error fault) ↔
      s.holdings.get? user = some (.error fault) := by
    intro user fault
    rw [deliverDocument]
    split
    next => exact receiveUnreadable
    next => rfl
  simp only [same]

theorem deliverStays (unreadable : Unreadable s user?) : deliver block ds user? s = s := by
  obtain ⟨user, fault, rfl, found⟩ := unreadable
  simp only [deliver, found]

def share (sender? receiver? : Option String) (user : String) (given taken : List Delta) : List Delta :=
  (if sender? = some user then given else []) ++ (if receiver? = some user then taken else [])

def exchange (block : UInt64) (sender? receiver? : Option String) (user : String) (given taken : List Delta)
    (document : Option (Stored Holdings)) : Option (Stored Holdings) :=
  if sender? = some user ∨ receiver? = some user then
    receive block (share sender? receiver? user given taken) document
  else document

theorem deliverBoth (s : Store) :
    (deliver block taken receiver? (deliver block given sender? s)).holdings.get? user =
      exchange block sender? receiver? user given taken (s.holdings.get? user) := by
  rw [deliverDocument, deliverDocument, exchange, share]
  by_cases gives : sender? = some user <;> by_cases takes : receiver? = some user
  · rw [if_pos takes, if_pos gives, if_pos (.inl gives), if_pos gives, if_pos takes, receiveAppend]
  · rw [if_neg takes, if_pos gives, if_pos (.inl gives), if_pos gives, if_neg takes, List.append_nil]
  · rw [if_pos takes, if_neg gives, if_pos (.inr takes), if_neg gives, if_pos takes, List.nil_append]
  · rw [if_neg takes, if_neg gives, if_neg (by simp [gives, takes])]

theorem applyChangesRun (block : UInt64) (ds : List Delta) (s : Store) (user : String) :
    (∃ fault, s.holdings.get? user = some (.error fault) ∧
      s.applyChanges user ds block = .error (.unreadable fault)) ∨
    (¬ Unreadable s (some user) ∧
      ∃ result, s.applyChanges user ds block = .ok (result, deliver block ds (some user) s)) := by
  unfold Store.applyChanges Unreadable
  rcases found : s.holdings.get? user with _ | fault | h
  · exact .inr ⟨by simp [found], .missing, by simp only [deliver, found]⟩
  · exact .inl ⟨fault, rfl, rfl⟩
  · refine .inr ⟨by simp [found], ?_⟩
    simp only [Store.opened, bind, Except.bind, deliver, found]
    split
    next => exact ⟨.stale h.block, rfl⟩
    next => exact ⟨.applied { h.apply ds with block }, rfl⟩

theorem applyAtRun (block : UInt64) (endpoint : Address) (nonempty : ds ≠ []) (r : Report) (s : Store) :
    (Unreadable s (userAt? s endpoint) ∧ ∃ e, applyAt block endpoint ds r s = (.error e, s)) ∨
    (¬ Unreadable s (userAt? s endpoint) ∧
      ∃ report, applyAt block endpoint ds r s = (.ok report, deliver block ds (userAt? s endpoint) s)) := by
  unfold applyAt
  rw [if_neg (by simpa using nonempty)]
  cases userAt? s endpoint with
  | none => exact .inr ⟨by simp [Unreadable], r, rfl⟩
  | some user =>
    rcases applyChangesRun block ds s user with ⟨fault, found, failed⟩ | ⟨readable, result, done⟩
    · refine .inl ⟨⟨user, fault, rfl, found⟩, .unreadable fault, ?_⟩
      simp only [failed]
    · refine .inr ⟨readable, r.add user result, ?_⟩
      simp only [done]

theorem applyTransferStore (ends : log.event.endpoints? = some (sender, receiver))
    (changed : changes log.contract log.event = (given, taken)) (gives : given ≠ []) (takes : taken ≠ []) :
    (Unreadable s (userAt? s sender) ∧ (applyTransfer log s).2 = s) ∨
    (¬ Unreadable s (userAt? s sender) ∧
      (applyTransfer log s).2 =
        deliver log.block taken (userAt? s receiver) (deliver log.block given (userAt? s sender) s)) := by
  unfold applyTransfer
  simp only [ends, changed]
  rcases applyAtRun log.block sender gives .empty s with
    ⟨unreadable, e, failed⟩ | ⟨readable, report, done⟩
  · refine .inl ⟨unreadable, ?_⟩
    rw [failed]
  · refine .inr ⟨readable, ?_⟩
    rw [done]
    simp only
    rcases applyAtRun log.block receiver takes report
      (deliver log.block given (userAt? s sender) s) with ⟨unreadable, e, failed⟩ | ⟨_, last, done⟩
    · -- The sender's document is written already, and the receiver's stays what it was.
      rw [failed, ← deliverUserAt s receiver, deliverStays unreadable]
    · rw [done, deliverUserAt]

theorem applyAtKeeps {P : Store → Prop} (delivery : ∀ block ds user? s, P s → P (deliver block ds user? s))
    (kept : P s) (block : UInt64) (endpoint : Address) (ds : List Delta) (r : Report) :
    P (applyAt block endpoint ds r s).2 := by
  by_cases empty : ds = []
  · subst empty
    exact kept
  · rcases applyAtRun block endpoint empty r s with ⟨_, e, failed⟩ | ⟨_, report, done⟩
    · rw [failed]
      exact kept
    · rw [done]
      exact delivery block ds _ s kept

theorem transferKeeps {P : Store → Prop} (delivery : ∀ block ds user? s, P s → P (deliver block ds user? s))
    (kept : P s) (log : Mined) : P (applyTransfer log s).2 := by
  unfold applyTransfer
  cases log.event.endpoints? with
  | none => exact kept
  | some ends =>
    have once := applyAtKeeps delivery kept log.block ends.1 (changes log.contract log.event).1 .empty
    simp only
    split
    next r between sent =>
      rw [sent] at once
      exact applyAtKeeps delivery once log.block ends.2 (changes log.contract log.event).2 r
    next e between failed =>
      rw [failed] at once
      exact once

theorem readablePut (readable : Readable s) (user : String) (h : Holdings) :
    Readable (s.putHoldings user h) := by
  rintro _ ⟨other, fault, rfl, failed⟩
  simp only [Store.putHoldings, SortedMap.getInsert] at failed
  split at failed
  next => simp at failed
  next => exact readable _ ⟨other, fault, rfl, failed⟩

theorem readableTransfer (readable : Readable s) (log : Mined) : Readable (applyTransfer log s).2 :=
  transferKeeps (P := Readable)
    (fun _ _ _ s readable user? unreadable => readable user? ((deliverUnreadable s).mp unreadable)) readable log

end Sync
end HolderGate
