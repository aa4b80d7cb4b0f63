import Mathlib.Algebra.GroupWithZero.Nat
import Mathlib.Algebra.Order.BigOperators.Group.List
import Mathlib.Algebra.Order.Group.Nat
import HolderGate.Access.Feature
import HolderGate.Chain.Event

/-! The chain as what every account has, the transfers that it allows, and what some accounts have
together. A transfer moves the total of a token by what those accounts send and receive of it. -/
namespace HolderGate.Chain
open Access

structure Accounts where
  fungible : Address → Address → Nat
  multi : Address → Word → Address → Nat
  owner : Address → Word → Option Address

/-- An amount off one account and onto another. What the zero address is left with means nothing. -/
def shift (sender receiver : Address) (amount : Nat) (balance : Address → Nat) : Address → Nat :=
  let debited := fun a => if a = sender then balance a - amount else balance a
  fun a => if a = receiver then debited a + amount else debited a

namespace Event

def standard? : Event → Option Standard
  | erc20 _ _ _ => some .erc20
  | erc721 _ _ _ => some .erc721
  | erc1155 _ _ _ _ => some .erc1155
  | erc1155Batch _ _ _ _ => none
  | unknown _ => none

end Event

namespace Accounts

def Valid (l : Accounts) (m : Mined) : Prop :=
  match m.event with
  | .erc20 sender _ amount => sender = .zero ∨ amount.toNat ≤ l.fungible m.contract sender
  | .erc721 sender _ id => l.owner m.contract id = if sender = .zero then none else some sender
  | .erc1155 sender _ id amount => sender = .zero ∨ amount.toNat ≤ l.multi m.contract id sender
  | _ => True

def execute (l : Accounts) (m : Mined) : Accounts :=
  match m.event with
  | .erc20 sender receiver amount =>
    { l with fungible := fun c =>
        if c = m.contract then shift sender receiver amount.toNat (l.fungible c) else l.fungible c }
  | .erc721 _ receiver id =>
    { l with owner := fun c i =>
        if c = m.contract ∧ i = id then (if receiver = .zero then none else some receiver) else l.owner c i }
  | .erc1155 sender receiver id amount =>
    { l with multi := fun c i =>
        if c = m.contract ∧ i = id then shift sender receiver amount.toNat (l.multi c i) else l.multi c i }
  | _ => l

def run (l : Accounts) (events : List Mined) : Accounts := events.foldl execute l

def total (l : Accounts) (accounts : List Address) (standard : Standard) (t : Token) : Nat :=
  match standard with
  | .erc20 => (accounts.map (l.fungible t.contract)).sum
  | .erc1155 => (accounts.map (l.multi t.contract t.id)).sum
  | .erc721 =>
    match l.owner t.contract t.id with
    | some a => if accounts.contains a then 1 else 0
    | none => 0

end Accounts

variable {accounts : List Address} {sender receiver a : Address} {amount : Nat} {f g : Address → Nat}

theorem sumDebit (once : accounts.Nodup) (enough : sender ∈ accounts → amount ≤ f sender) :
    (accounts.map (fun a => if a = sender then f a - amount else f a)).sum +
      (if sender ∈ accounts then amount else 0) = (accounts.map f).sum := by
  induction accounts with
  | nil => rfl
  | cons head others ih =>
    obtain ⟨fresh, once⟩ := List.nodup_cons.mp once
    have rest := ih once fun later => enough (List.mem_cons_of_mem _ later)
    simp only [List.map_cons, List.sum_cons]
    by_cases same : head = sender
    · subst same
      have has := enough List.mem_cons_self
      rw [if_neg fresh] at rest
      rw [if_pos rfl, if_pos List.mem_cons_self]
      omega
    · have member : sender ∈ head :: others ↔ sender ∈ others := by simp [Ne.symm same]
      simp only [if_neg same, member]
      omega

theorem sumCredit (once : accounts.Nodup) (receiver : Address) (amount : Nat) (f : Address → Nat) :
    (accounts.map (fun a => if a = receiver then f a + amount else f a)).sum =
      (accounts.map f).sum + (if receiver ∈ accounts then amount else 0) := by
  induction accounts with
  | nil => rfl
  | cons head others ih =>
    obtain ⟨fresh, once⟩ := List.nodup_cons.mp once
    have rest := ih once
    simp only [List.map_cons, List.sum_cons]
    by_cases same : head = receiver
    · subst same
      rw [if_neg fresh] at rest
      rw [if_pos rfl, if_pos List.mem_cons_self]
      omega
    · have member : receiver ∈ head :: others ↔ receiver ∈ others := by simp [Ne.symm same]
      simp only [if_neg same, member]
      omega

theorem sumShift (once : accounts.Nodup) (enough : sender ∈ accounts → amount ≤ f sender) :
    (accounts.map (shift sender receiver amount f)).sum + (if sender ∈ accounts then amount else 0) =
      (accounts.map f).sum + (if receiver ∈ accounts then amount else 0) := by
  have debited := sumDebit once enough
  have credited := sumCredit once receiver amount fun a => if a = sender then f a - amount else f a
  simp only [shift]
  omega

namespace Accounts

variable {l : Accounts} {m : Mined} {t : Token} {id : Word} {w : Word}

theorem totalUniqueSmall (l : Accounts) (accounts : List Address) (t : Token) :
    l.total accounts .erc721 t ≤ 1 := by
  simp only [total]
  split
  next => split <;> decide
  next => decide

theorem totalElsewhere (l : Accounts) (accounts : List Address) (standard : Standard)
    (elsewhere : t.contract ≠ m.contract) :
    (l.execute m).total accounts standard t = l.total accounts standard t := by
  unfold execute
  cases m.event <;> cases standard <;> simp [total, elsewhere]

theorem sentByOther {n balance : Nat} (zero : .zero ∉ accounts) (valid : sender = .zero ∨ n ≤ balance)
    (member : sender ∈ accounts) : n ≤ balance := by
  rcases valid with rfl | enough
  · exact absurd member zero
  · exact enough

theorem totalFungible (l : Accounts) (once : accounts.Nodup) (zero : .zero ∉ accounts) (valid : l.Valid m)
    (event : m.event = .erc20 sender receiver w) (own : t.contract = m.contract) :
    (l.execute m).total accounts .erc20 t + (if sender ∈ accounts then w.toNat else 0) =
      l.total accounts .erc20 t + (if receiver ∈ accounts then w.toNat else 0) ∧
    (sender ∈ accounts → w.toNat ≤ l.total accounts .erc20 t) := by
  simp only [Valid, event] at valid
  have enough := sentByOther zero valid
  simp only [execute, event, total, own, ↓reduceIte]
  exact ⟨sumShift once enough, fun member => Nat.le_trans (enough member) (List.le_sum_of_mem (List.mem_map_of_mem member))⟩

theorem totalMulti (l : Accounts) (once : accounts.Nodup) (zero : .zero ∉ accounts) (valid : l.Valid m)
    (event : m.event = .erc1155 sender receiver id w) (own : t = ⟨m.contract, id⟩) :
    (l.execute m).total accounts .erc1155 t + (if sender ∈ accounts then w.toNat else 0) =
      l.total accounts .erc1155 t + (if receiver ∈ accounts then w.toNat else 0) ∧
    (sender ∈ accounts → w.toNat ≤ l.total accounts .erc1155 t) := by
  simp only [Valid, event] at valid
  have enough := sentByOther zero valid
  subst own
  simp only [execute, event, total, and_self, ↓reduceIte]
  exact ⟨sumShift once enough, fun member => Nat.le_trans (enough member) (List.le_sum_of_mem (List.mem_map_of_mem member))⟩

theorem totalMultiOther (l : Accounts) (accounts : List Address)
    (event : m.event = .erc1155 sender receiver id w) (other : t ≠ ⟨m.contract, id⟩) :
    (l.execute m).total accounts .erc1155 t = l.total accounts .erc1155 t := by
  have apart : ¬ (t.contract = m.contract ∧ t.id = id) := by
    rintro ⟨contract, same⟩
    exact other (by rw [← contract, ← same])
  simp only [execute, event, total, if_neg apart]

theorem totalUnique (l : Accounts) (zero : .zero ∉ accounts) (valid : l.Valid m)
    (event : m.event = .erc721 sender receiver id) (own : t = ⟨m.contract, id⟩) :
    (l.execute m).total accounts .erc721 t = (if receiver ∈ accounts then 1 else 0) ∧
      l.total accounts .erc721 t = (if sender ∈ accounts then 1 else 0) := by
  subst own
  simp only [Valid, event] at valid
  simp only [execute, event, total, and_self, ↓reduceIte, valid]
  constructor
  · by_cases burnt : receiver = .zero
    · simp [burnt, zero]
    · simp [burnt]
  · by_cases made : sender = .zero
    · simp [made, zero]
    · simp [made]

theorem totalUniqueOther (l : Accounts) (accounts : List Address)
    (event : m.event = .erc721 sender receiver id) (other : t ≠ ⟨m.contract, id⟩) :
    (l.execute m).total accounts .erc721 t = l.total accounts .erc721 t := by
  have apart : ¬ (t.contract = m.contract ∧ t.id = id) := by
    rintro ⟨contract, same⟩
    exact other (by rw [← contract, ← same])
  simp only [execute, event, total, if_neg apart]

end Accounts
end HolderGate.Chain
