import Mathlib.Algebra.GroupWithZero.Nat
import HolderGate.Proofs.HoldingsChange

/-! Holdings under changes that only add and take. Where all that is taken is there from the start, and all that is
added has room, no balance stops at a bound on the way, so the changes come to the same in any order. -/
namespace HolderGate.Access
open Chain

namespace Change

def gain : Change → Nat
  | increase amount => amount.toNat
  | decrease _ | set _ => 0

def loss : Change → Nat
  | decrease amount => amount.toNat
  | increase _ | set _ => 0

def Relative : Change → Prop
  | increase _ | decrease _ => True
  | set _ => False

variable {change : Change} {current : UInt64} {cs : List Change}

theorem relativeNat (relative : change.Relative) (enough : change.loss ≤ current.toNat)
    (room : current.toNat + change.gain ≤ UInt64.size - 1) :
    (change.apply current).toNat + change.loss = current.toNat + change.gain := by
  cases change with
  | increase amount =>
    simp only [gain] at room
    rw [increaseNat, gain, loss]
    omega
  | decrease amount =>
    simp only [loss] at enough
    rw [decreaseNat, gain, loss]
    omega
  | set amount => exact relative.elim

theorem relativeFold (relative : ∀ change ∈ cs, change.Relative) (enough : (cs.map loss).sum ≤ current.toNat)
    (room : current.toNat + (cs.map gain).sum ≤ UInt64.size - 1) :
    (cs.foldl (fun held change => change.apply held) current).toNat + (cs.map loss).sum =
      current.toNat + (cs.map gain).sum := by
  induction cs generalizing current with
  | nil => rfl
  | cons change rest ih =>
    simp only [List.map_cons, List.sum_cons] at enough room ⊢
    have step := relativeNat (relative change List.mem_cons_self) (Nat.le_of_add_right_le enough) (by omega)
    rw [List.foldl_cons]
    have run := @ih (change.apply current) (fun other among => relative other (List.mem_cons_of_mem _ among))
      (by omega) (by omega)
    omega

end Change

def gained (t : Token) (ds : List Delta) : Nat :=
  (ds.map fun d => if d.token = t then d.change.gain else 0).sum

def lost (t : Token) (ds : List Delta) : Nat :=
  (ds.map fun d => if d.token = t then d.change.loss else 0).sum

variable {h : Holdings} {t : Token} {ds more : List Delta}

theorem sumOf (amount : Change → Nat) (t : Token) (ds : List Delta) :
    ((changesOf t ds).map amount).sum = (ds.map fun d => if d.token = t then amount d.change else 0).sum := by
  induction ds with
  | nil => rfl
  | cons d rest ih =>
    rw [List.map_cons, List.sum_cons, ← ih]
    by_cases own : d.token = t <;> simp [changesOf, own]

theorem relativeOf (relative : ∀ d ∈ ds, d.change.Relative) : ∀ change ∈ changesOf t ds, change.Relative := by
  intro change among
  obtain ⟨d, member, rfl⟩ := List.mem_map.mp among
  exact relative d (List.mem_filter.mp member).1

theorem lostPermuted (shuffled : more.Perm ds) (t : Token) : lost t more = lost t ds := (shuffled.map _).sum_nat

theorem gainedPermuted (shuffled : more.Perm ds) (t : Token) : gained t more = gained t ds := (shuffled.map _).sum_nat

theorem gainedAppend (t : Token) (ds more : List Delta) : gained t (ds ++ more) = gained t ds + gained t more := by
  rw [gained, List.map_append, List.sum_append, gained, gained]

theorem lostAppend (t : Token) (ds more : List Delta) : lost t (ds ++ more) = lost t ds + lost t more := by
  rw [lost, List.map_append, List.sum_append, lost, lost]

namespace Holdings

theorem relativeBalance (relative : ∀ change ∈ changesOf t ds, change.Relative)
    (enough : lost t ds ≤ (h.balance t).toNat) (room : (h.balance t).toNat + gained t ds ≤ UInt64.size - 1) :
    ((h.apply ds).balance t).toNat + lost t ds = (h.balance t).toNat + gained t ds := by
  rw [lost, ← sumOf] at enough ⊢
  rw [gained, ← sumOf] at room ⊢
  rw [applyBalance]
  exact Change.relativeFold relative enough room

theorem applyPermuted (shuffled : more.Perm ds) (relative : ∀ d ∈ ds, d.change.Relative)
    (fits : ∀ t, lost t ds ≤ (h.balance t).toNat ∧ (h.balance t).toNat + gained t ds ≤ UInt64.size - 1) :
    h.apply more = h.apply ds := by
  refine (applySame fun t => (shuffled.map Delta.token).mem_iff).mpr fun t => UInt64.toNat_inj.mp ?_
  have inOrder := relativeBalance (relativeOf relative) (fits t).1 (fits t).2
  have inTurn := relativeBalance (h := h) (t := t) (relativeOf fun d among => relative d (shuffled.mem_iff.mp among))
    (by rw [lostPermuted shuffled]; exact (fits t).1) (by rw [gainedPermuted shuffled]; exact (fits t).2)
  rw [lostPermuted shuffled, gainedPermuted shuffled] at inTurn
  omega

end Holdings
end HolderGate.Access
