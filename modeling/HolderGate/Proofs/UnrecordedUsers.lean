import HolderGate.Proofs.TransferStep

/-! The users at the ends of a transfer who have no holdings on record. Nothing is written for them, and a transfer that
is carried out names them, the sender before the receiver. -/
namespace HolderGate.Sync
open Access Chain Identity

def unrecorded (s : Store) (endpoint : Address) (deltas : List Delta) : List String :=
  match userAt? s endpoint with
  | none => []
  | some user => if deltas.isEmpty ∨ s.holdings.contains user then [] else [user]

def unrecordedOf (s : Store) (log : Mined) : List String :=
  match log.event.endpoints? with
  | none => []
  | some (sender, receiver) =>
    unrecorded s sender (changes log.contract log.event).1 ++ unrecorded s receiver (changes log.contract log.event).2

def Lacks (s : Store) (log : Mined) (user : String) : Prop :=
  ∃ sender receiver, log.event.endpoints? = some (sender, receiver) ∧
    (userAt? s sender = some user ∨ userAt? s receiver = some user) ∧ s.holdings.get? user = none

variable {block : UInt64} {ds deltas : List Delta} {user : String} {user? : Option String} {s s' : Store}
  {endpoint sender receiver : Address} {r r' : Report} {log : Mined}

theorem unrecordedLength (s : Store) (endpoint : Address) (deltas : List Delta) :
    (unrecorded s endpoint deltas).length ≤ 1 := by
  unfold unrecorded
  split
  · exact Nat.zero_le 1
  · split <;> simp

theorem unrecordedMember (listed : user ∈ unrecorded s endpoint deltas) :
    userAt? s endpoint = some user ∧ s.holdings.get? user = none := by
  unfold unrecorded at listed
  split at listed
  next => simp at listed
  next owner owned =>
    split at listed
    next => simp at listed
    next lacking =>
      cases List.mem_singleton.mp listed
      simp only [not_or, SortedMap.contains, Bool.not_eq_true, Option.isSome_eq_false_iff, Option.isNone_iff_eq_none]
        at lacking
      exact ⟨owned, lacking.2⟩

theorem applyAtMissing (ran : applyAt block endpoint deltas r s = (.ok r', s')) :
    r'.missing = r.missing ++ unrecorded s endpoint deltas := by
  unfold applyAt at ran
  unfold unrecorded
  cases owned : userAt? s endpoint with
  | none =>
    simp only [owned, ite_self] at ran
    cases ran
    exact (List.append_nil _).symm
  | some user =>
    simp only [owned] at ran ⊢
    by_cases empty : deltas.isEmpty
    · rw [if_pos empty] at ran
      cases ran
      simp [empty]
    · rw [if_neg empty] at ran
      unfold Store.applyChanges at ran
      cases found : s.holdings.get? user with
      | none =>
        simp only [found] at ran
        cases ran
        simp [empty, SortedMap.contains, found, Report.add]
      | some document =>
        simp only [found, SortedMap.contains, Option.isSome_some, or_true, if_true, List.append_nil] at ran ⊢
        cases document with
        | error fault => cases ran
        | ok h =>
          simp only [Store.opened, bind, Except.bind] at ran
          split at ran
          next later done =>
            cases ran
            split at done <;> cases done <;> rfl
          next => cases ran

theorem unrecordedDeliver (s : Store) (endpoint : Address) (deltas : List Delta) :
    unrecorded (deliver block ds user? s) endpoint deltas = unrecorded s endpoint deltas := by
  have known : ∀ user, (deliver block ds user? s).holdings.contains user = s.holdings.contains user := by
    intro user
    rw [SortedMap.contains, SortedMap.contains, deliverDocument]
    split
    next => rcases s.holdings.get? user with _ | _ | h <;> simp only [receive]; split <;> rfl
    next => rfl
  unfold unrecorded
  rw [deliverUserAt]
  simp only [known]

def SameUnrecorded (s t : Store) : Prop :=
  ∀ endpoint deltas, unrecorded t endpoint deltas = unrecorded s endpoint deltas

theorem SameUnrecorded.deliver {t : Store} (same : SameUnrecorded s t) :
    SameUnrecorded s (Sync.deliver block ds user? t) :=
  fun endpoint deltas => (unrecordedDeliver t endpoint deltas).trans (same endpoint deltas)

theorem transferMissing (ran : applyTransfer log s = (.ok r, s')) : r.missing = unrecordedOf s log := by
  unfold applyTransfer at ran
  unfold unrecordedOf
  cases ends : log.event.endpoints? with
  | none =>
    rw [ends] at ran
    cases ran
    rfl
  | some both =>
    obtain ⟨sender, receiver⟩ := both
    simp only [ends] at ran ⊢
    have between := applyAtKeeps (P := SameUnrecorded s) (fun _ _ _ _ => .deliver) (fun _ _ => rfl) log.block sender
      (changes log.contract log.event).1 .empty
    split at ran
    next first t gave =>
      rw [gave] at between
      rw [applyAtMissing ran, applyAtMissing gave, between]
      rfl
    next => cases ran

theorem unrecordedOfLength (s : Store) (log : Mined) : (unrecordedOf s log).length ≤ 2 := by
  unfold unrecordedOf
  split
  next => exact Nat.zero_le 2
  next sender receiver _ =>
    have first := unrecordedLength s sender (changes log.contract log.event).1
    have second := unrecordedLength s receiver (changes log.contract log.event).2
    rw [List.length_append]
    omega

end HolderGate.Sync
