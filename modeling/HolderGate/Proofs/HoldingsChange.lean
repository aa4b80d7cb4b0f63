import HolderGate.Access.Transfer
import HolderGate.Proofs.SortedMap

/-! Holdings under changes, token by token. A change touches the balance of its own token, by
arithmetic that stops at zero and at the greatest amount. -/
namespace HolderGate.Access
open Chain

theorem Change.increaseNat (amount current : UInt64) :
    ((Change.increase amount).apply current).toNat = min (current.toNat + amount.toNat) (UInt64.size - 1) := by
  have small : min (current.toNat + amount.toNat) (UInt64.size - 1) < UInt64.size := by
    have : 0 < UInt64.size := by decide
    omega
  rw [Change.apply, UInt64.toNat_ofNat_of_lt' small]

theorem Change.decreaseNat (amount current : UInt64) :
    ((Change.decrease amount).apply current).toNat = current.toNat - amount.toNat := by
  have small : current.toNat - amount.toNat < UInt64.size := by
    have := current.toNat_lt
    have : UInt64.size = 2 ^ 64 := rfl
    omega
  rw [Change.apply, UInt64.toNat_ofNat_of_lt' small]

theorem clampNat (w : Word) : w.clamp.toNat = min w.toNat (UInt64.size - 1) := by
  have small : min w.toNat (UInt64.size - 1) < UInt64.size := by
    have : 0 < UInt64.size := by decide
    omega
  rw [Word.clamp, UInt64.toNat_ofNat_of_lt' small]

def changesOf (t : Token) (ds : List Delta) : List Change := (ds.filter (·.token = t)).map Delta.change

namespace Holdings

variable {h : Holdings} {d : Delta} {ds more : List Delta} {t : Token}

theorem changeOwned (h : Holdings) (d : Delta) (t : Token) :
    (h.change d).owned.get? t =
      if t = d.token then some (d.change.apply (h.balance d.token)) else h.owned.get? t :=
  SortedMap.getInsert _ _ _ _

theorem changeBalance (h : Holdings) (d : Delta) (t : Token) :
    (h.change d).balance t = if t = d.token then d.change.apply (h.balance t) else h.balance t := by
  rw [balance, changeOwned]
  split
  next same =>
    rw [same]
    rfl
  next => rfl

@[simp] theorem applyNil (h : Holdings) : h.apply [] = h := rfl

@[simp] theorem applyCons (h : Holdings) (d : Delta) (ds : List Delta) :
    h.apply (d :: ds) = (h.change d).apply ds := rfl

theorem applyAppend (h : Holdings) (ds more : List Delta) : h.apply (ds ++ more) = (h.apply ds).apply more :=
  List.foldl_append

theorem applyUser (h : Holdings) (ds : List Delta) : (h.apply ds).user = h.user := by
  induction ds generalizing h with
  | nil => rfl
  | cons d rest ih => rw [applyCons, ih, change]

theorem applyBlock (h : Holdings) (ds : List Delta) : (h.apply ds).block = h.block := by
  induction ds generalizing h with
  | nil => rfl
  | cons d rest ih => rw [applyCons, ih, change]

theorem applyOwned (h : Holdings) (ds : List Delta) (t : Token) :
    (h.apply ds).owned.get? t =
      if t ∈ ds.map Delta.token then some ((h.apply ds).balance t) else h.owned.get? t := by
  induction ds generalizing h with
  | nil => rfl
  | cons d rest ih =>
    rw [applyCons, ih, changeOwned, List.map_cons]
    by_cases late : t ∈ rest.map Delta.token
    · rw [if_pos late, if_pos (List.mem_cons_of_mem _ late)]
    · rw [if_neg late]
      by_cases same : t = d.token
      · have untouched : ((h.change d).apply rest).balance t = (h.change d).balance t := by
          rw [balance, ih, if_neg late, balance]
        rw [if_pos same, if_pos (by simp [same]), untouched, changeBalance, if_pos same, same]
      · rw [if_neg same, if_neg (by simp [same, late])]

theorem applyBalance (h : Holdings) (ds : List Delta) (t : Token) :
    (h.apply ds).balance t = (changesOf t ds).foldl (fun held change => change.apply held) (h.balance t) := by
  induction ds generalizing h with
  | nil => rfl
  | cons d rest ih =>
    rw [applyCons, ih, changeBalance]
    by_cases own : d.token = t
    · simp [changesOf, own]
    · simp [changesOf, own, Ne.symm own]

theorem applyOther (h : Holdings) (untouched : t ∉ ds.map Delta.token) : (h.apply ds).balance t = h.balance t := by
  rw [balance, applyOwned, if_neg untouched, balance]

theorem applySame (tokens : ∀ t, t ∈ ds.map Delta.token ↔ t ∈ more.map Delta.token) :
    h.apply ds = h.apply more ↔ ∀ t, (h.apply ds).balance t = (h.apply more).balance t := by
  constructor
  · intro same t
    rw [same]
  · intro same
    have owned : (h.apply ds).owned = (h.apply more).owned := by
      refine SortedMap.extensional fun t => ?_
      simp only [applyOwned, tokens t, same t]
    have user : (h.apply ds).user = (h.apply more).user := by rw [applyUser, applyUser]
    have block : (h.apply ds).block = (h.apply more).block := by rw [applyBlock, applyBlock]
    cases left : h.apply ds
    cases right : h.apply more
    simp_all

theorem applyWith (h : Holdings) (block : UInt64) (ds : List Delta) :
    ({ h with block } : Holdings).apply ds = { h.apply ds with block } := by
  induction ds generalizing h with
  | nil => rfl
  | cons d rest ih => exact ih (h.change d)

end Holdings
end HolderGate.Access
