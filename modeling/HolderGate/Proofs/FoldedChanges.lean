import HolderGate.Proofs.RelativeChanges

/-! Lists of changes, with any repetitions. What each token ends with is a matter of its own changes in their order,
so that what is between them may be moved about. Changes that only take stop at zero, those that only add stop at the
greatest amount, and a mixture for which there is enough and room comes to the plain sum. -/
namespace HolderGate.Access
open Chain

namespace Change

def Takes (change : Change) : Prop := ∃ amount, change = .decrease amount

def Adds (change : Change) : Prop := ∃ amount, change = .increase amount

variable {cs : List Change}

theorem takesFold (takes : ∀ change ∈ cs, change.Takes) (current : UInt64) :
    (cs.foldl (fun held change => change.apply held) current).toNat = current.toNat - (cs.map loss).sum := by
  induction cs generalizing current with
  | nil => rfl
  | cons change rest ih =>
    obtain ⟨amount, rfl⟩ := takes change List.mem_cons_self
    have run := ih (fun other among => takes other (List.mem_cons_of_mem _ among)) (apply (decrease amount) current)
    rw [List.foldl_cons, run, decreaseNat, List.map_cons, List.sum_cons, loss, Nat.sub_sub]

-- A balance at the bound stays there, so that one bound on the whole sum stands for those of the steps.
theorem addsFold (adds : ∀ change ∈ cs, change.Adds) (current : UInt64) :
    (cs.foldl (fun held change => change.apply held) current).toNat =
      min (current.toNat + (cs.map gain).sum) (UInt64.size - 1) := by
  induction cs generalizing current with
  | nil =>
    have small : current.toNat ≤ UInt64.size - 1 := Nat.le_sub_one_of_lt current.toNat_lt
    exact (Nat.min_eq_left small).symm
  | cons change rest ih =>
    obtain ⟨amount, rfl⟩ := adds change List.mem_cons_self
    have run := ih (fun other among => adds other (List.mem_cons_of_mem _ among)) (apply (increase amount) current)
    rw [List.foldl_cons, run, increaseNat, List.map_cons, List.sum_cons, gain]
    omega

end Change

namespace Holdings

variable {h : Holdings} {ds more : List Delta} {t : Token}

theorem takesBalance (takes : ∀ change ∈ changesOf t ds, change.Takes) :
    ((h.apply ds).balance t).toNat = (h.balance t).toNat - lost t ds := by
  rw [applyBalance, Change.takesFold takes, sumOf, lost]

theorem addsBalance (adds : ∀ change ∈ changesOf t ds, change.Adds) :
    ((h.apply ds).balance t).toNat = min ((h.balance t).toNat + gained t ds) (UInt64.size - 1) := by
  rw [applyBalance, Change.addsFold adds, sumOf, gained]

theorem changesOfPermuted (shuffled : more.Perm ds) (t : Token) : (changesOf t more).Perm (changesOf t ds) :=
  (shuffled.filter _).map _

theorem memTokens (t : Token) (ds : List Delta) : t ∈ ds.map Delta.token ↔ changesOf t ds ≠ [] := by
  simp [changesOf]

theorem applyOwnSame (same : ∀ t, changesOf t more = changesOf t ds) : h.apply more = h.apply ds := by
  have tokens : ∀ t, t ∈ more.map Delta.token ↔ t ∈ ds.map Delta.token := by
    intro t
    rw [memTokens, memTokens, same]
  apply (applySame tokens).mpr
  intro t
  rw [applyBalance, applyBalance, same]

theorem applyUnnamed (h : Holdings) (unnamed : t ∉ ds.map Delta.token) :
    (h.apply ds).owned.get? t = h.owned.get? t := by
  rw [applyOwned, if_neg unnamed]

/-- A token's balance is what its own changes make of it, one after another, whatever stands between them. Where all of
them take, or all of them add, one bound on their sum stands for those of the steps, and where no bound is met they come
to the same in any order. -/
theorem changesFold (h : Holdings) (ds : List Delta) :
    (h.apply ds).user = h.user ∧ (h.apply ds).block = h.block ∧
    (∀ more, (∀ t, changesOf t more = changesOf t ds) → h.apply more = h.apply ds) ∧
    ∀ t, (h.apply ds).balance t = (changesOf t ds).foldl (fun held change => change.apply held) (h.balance t) ∧
      (t ∉ ds.map Delta.token → (h.apply ds).owned.get? t = h.owned.get? t) ∧
      ((∀ change ∈ changesOf t ds, change.Takes) →
        ((h.apply ds).balance t).toNat = (h.balance t).toNat - lost t ds) ∧
      ((∀ change ∈ changesOf t ds, change.Adds) →
        ((h.apply ds).balance t).toNat = min ((h.balance t).toNat + gained t ds) (UInt64.size - 1)) ∧
      ((∀ change ∈ changesOf t ds, change.Relative) → lost t ds ≤ (h.balance t).toNat →
        (h.balance t).toNat + gained t ds ≤ UInt64.size - 1 → ∀ more, more.Perm ds →
          ((h.apply more).balance t).toNat = (h.balance t).toNat + gained t ds - lost t ds) := by
  refine ⟨applyUser h ds, applyBlock h ds, fun more => applyOwnSame, fun t => ?_⟩
  refine ⟨applyBalance h ds t, applyUnnamed h, takesBalance, addsBalance, ?_⟩
  intro relative enough room more shuffled
  rw [← lostPermuted shuffled] at enough ⊢
  rw [← gainedPermuted shuffled] at room ⊢
  have kept : ∀ change ∈ changesOf t more, change.Relative := fun change among =>
    relative change ((changesOfPermuted shuffled t).mem_iff.mp among)
  have sums := relativeBalance kept enough room
  omega

def purse : Holdings := ⟨"a", .ofList [(⟨9, 0⟩, 5)], 40⟩

def dealings : List Delta :=
  [⟨⟨9, 0⟩, .increase 4⟩, ⟨⟨9, 7⟩, .set 1⟩, ⟨⟨9, 0⟩, .decrease 2⟩, ⟨⟨9, 7⟩, .decrease 3⟩, ⟨⟨9, 0⟩, .decrease 3⟩]

def spending : List Delta := [⟨⟨9, 0⟩, .decrease 4⟩, ⟨⟨9, 7⟩, .increase 1⟩, ⟨⟨9, 0⟩, .decrease 4⟩]

theorem changesFoldDealings :
    (∀ change ∈ changesOf ⟨9, 0⟩ dealings, change.Relative) ∧ dealings.reverse.Perm dealings ∧
      lost ⟨9, 0⟩ dealings ≤ (purse.balance ⟨9, 0⟩).toNat ∧
      (purse.balance ⟨9, 0⟩).toNat + gained ⟨9, 0⟩ dealings ≤ UInt64.size - 1 ∧
      ((purse.apply dealings.reverse).balance ⟨9, 0⟩).toNat = 4 ∧
      (∀ change ∈ changesOf ⟨9, 0⟩ spending, change.Takes) ∧ ((purse.apply spending).balance ⟨9, 0⟩).toNat = 0 := by
  have relative : ∀ change ∈ changesOf ⟨9, 0⟩ dealings, change.Relative := by
    simp [changesOf, dealings, Change.Relative]
  have takes : ∀ change ∈ changesOf ⟨9, 0⟩ spending, change.Takes := by
    simp [changesOf, spending, Change.Takes]
  have held : (purse.balance ⟨9, 0⟩).toNat = 5 := rfl
  have enough : lost ⟨9, 0⟩ dealings ≤ (purse.balance ⟨9, 0⟩).toNat := by decide
  have room : (purse.balance ⟨9, 0⟩).toNat + gained ⟨9, 0⟩ dealings ≤ UInt64.size - 1 := by decide
  obtain ⟨_, _, _, own⟩ := changesFold purse dealings
  obtain ⟨_, _, _, _, mixed⟩ := own ⟨9, 0⟩
  have turned := mixed relative enough room dealings.reverse (List.reverse_perm dealings)
  obtain ⟨_, _, _, spent⟩ := changesFold purse spending
  have emptied := (spent ⟨9, 0⟩).2.2.1 takes
  exact ⟨relative, List.reverse_perm dealings, enough, room, turned, takes, emptied⟩

end Holdings
end HolderGate.Access
