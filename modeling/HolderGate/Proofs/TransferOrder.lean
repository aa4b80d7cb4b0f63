import HolderGate.Proofs.CountOrder

/-! Transfers that are applied in another order than that of their blocks. The document of a user passes over one that
is older than a transfer of the same user before it, and keeps count of all others. -/
namespace HolderGate.Sync
open Access Chain

def Divisible (m : Mined) : Prop := m.event.standard? = some .erc20 ∨ m.event.standard? = some .erc1155

instance (m : Mined) : Decidable (Divisible m) := inferInstanceAs (Decidable (_ ∨ _))

def gives (whose : Address → Option String) (id : String) (m : Mined) : Bool :=
  m.event.endpoints?.any fun ends => whose ends.1 = some id

def takes (whose : Address → Option String) (id : String) (m : Mined) : Bool :=
  m.event.endpoints?.any fun ends => whose ends.2 = some id

def involves (whose : Address → Option String) (id : String) (m : Mined) : Bool :=
  gives whose id m || takes whose id m

def outgo (whose : Address → Option String) (id : String) (t : Token) (m : Mined) : Nat :=
  if gives whose id m then m.amountOf t else 0

def income (whose : Address → Option String) (id : String) (t : Token) (m : Mined) : Nat :=
  if takes whose id m then m.amountOf t else 0

def Fits (whose : Address → Option String) (id : String) (h : Holdings) (m : Mined) : Prop :=
  ∀ t, outgo whose id t m ≤ (h.balance t).toNat ∧
    (h.balance t).toNat - outgo whose id t m + income whose id t m ≤ UInt64.size - 1

def Exact (id : String) (s : Store) : List Mined → Prop
  | [] => True
  | m :: rest =>
    (∀ h, s.holdings.get? id = some (.ok h) → h.block ≤ m.block → Fits (userAt? s) id h m) ∧
      Exact id (applyTransfer m s).2 rest

/-- Of one's own transfers, those that come after one of a later block. -/
def overtaken (own : Mined → Bool) (seen : List Mined) : List Mined → List Mined
  | [] => []
  | m :: rest =>
    if own m ∧ ∃ o ∈ seen, own o ∧ m.block < o.block then m :: overtaken own (m :: seen) rest
    else overtaken own (m :: seen) rest

variable {s : Store} {id : String} {h : Holdings} {m : Mined} {logs order seen : List Mined} {t : Token}
  {whose : Address → Option String} {own : Mined → Bool}

theorem divisibleChanges (divisible : Divisible m) : ∃ sender receiver u w,
    m.event.endpoints? = some (sender, receiver) ∧
      changes m.contract m.event = ([(moved u w).1], [(moved u w).2]) ∧
      ∀ t, m.amountOf t = if t = u then w.toNat else 0 := by
  unfold Mined.amountOf
  cases event : m.event with
  | erc20 sender receiver amount => exact ⟨sender, receiver, .fungible m.contract, amount, rfl, rfl, fun _ => rfl⟩
  | erc1155 sender receiver i amount => exact ⟨sender, receiver, ⟨m.contract, i⟩, amount, rfl, rfl, fun _ => rfl⟩
  | erc721 => simp [Divisible, event, Event.standard?] at divisible
  | erc1155Batch => simp [Divisible, event, Event.standard?] at divisible
  | unknown => simp [Divisible, event, Event.standard?] at divisible

theorem passedExact {balance amount : Nat} {p q : Prop} [Decidable p] [Decidable q]
    (enough : (if p then amount else 0) ≤ balance)
    (room : balance - (if p then amount else 0) + (if q then amount else 0) ≤ UInt64.size - 1)
    (small : balance ≤ UInt64.size - 1) :
    passed balance amount p q + (if p then amount else 0) = balance + (if q then amount else 0) := by
  unfold passed
  by_cases sends : p <;> by_cases receives : q
  all_goals
    simp only [sends, receives, if_true, if_false] at enough room ⊢
    omega

theorem transferDocument (readable : Readable s) (divisible : Divisible m)
    (found : s.holdings.get? id = some (.ok h)) :
    (involves (userAt? s) id m = true ∧ h.block ≤ m.block ∧ ∃ next : Holdings,
      (applyTransfer m s).2.holdings.get? id = some (.ok next) ∧ next.block = m.block ∧
      ∀ t, (next.balance t).toNat =
        passed (h.balance t).toNat (m.amountOf t) (gives (userAt? s) id m) (takes (userAt? s) id m)) ∨
    (¬ (involves (userAt? s) id m = true ∧ h.block ≤ m.block) ∧
      (applyTransfer m s).2.holdings.get? id = some (.ok h)) := by
  obtain ⟨sender, receiver, u, w, ends, changed, amount⟩ := divisibleChanges divisible
  have sends : gives (userAt? s) id m = decide (userAt? s sender = some id) := by simp [gives, ends]
  have receives : takes (userAt? s) id m = decide (userAt? s receiver = some id) := by simp [takes, ends]
  have whose : involves (userAt? s) id m = true ↔ userAt? s sender = some id ∨ userAt? s receiver = some id := by
    simp [involves, sends, receives]
  rcases applyTransferStore (s := s) ends changed (by simp) (by simp) with ⟨unreadable, _⟩ | ⟨_, same⟩
  · exact absurd unreadable (readable _)
  · rw [same, deliverBoth, found, exchange, whose]
    by_cases has : userAt? s sender = some id ∨ userAt? s receiver = some id
    · rw [if_pos has, receive]
      split
      next late => exact .inr ⟨fun current => absurd late (UInt64.not_lt.mpr current.2), rfl⟩
      next current =>
        refine .inl ⟨has, UInt64.not_lt.mp current, _, rfl, rfl, fun t => ?_⟩
        simp only [sends, receives, decide_eq_true_eq, amount]
        exact sharePassed h t u w (userAt? s sender) (userAt? s receiver) id
    · rw [if_neg has]
      exact .inr ⟨fun current => has current.1, rfl⟩

theorem transferUserAt (m : Mined) (s : Store) : userAt? (applyTransfer m s).2 = userAt? s :=
  transferKeeps (P := fun later => userAt? later = userAt? s)
    (fun _ _ _ between same => (funext (deliverUserAt between)).trans same) rfl m

theorem uninvolved (apart : ¬ involves whose id m = true) (t : Token) :
    outgo whose id t m = 0 ∧ income whose id t m = 0 := by
  simp only [involves, Bool.or_eq_true, not_or] at apart
  exact ⟨if_neg apart.1, if_neg apart.2⟩

theorem exactCons {b : UInt64} {u : Token} {amount : Nat} (moves : ∀ t, m.amountOf t = if t = u then amount else 0)
    (had : recorded? s id u = some b) (enough : gives (userAt? s) id m = true → amount ≤ b.toNat)
    (room : b.toNat + amount ≤ UInt64.size - 1) (rest : Exact id (applyTransfer m s).2 order) :
    Exact id s (m :: order) := by
  refine ⟨fun h found _ t => ?_, rest⟩
  have small := balanceSmall h t
  by_cases own : t = u
  · subst own
    simp only [recorded?, found, Option.bind_some, Except.toOption, Option.map_some, Option.some.injEq] at had
    subst had
    simp only [outgo, income, moves, if_true]
    by_cases sends : gives (userAt? s) id m = true <;> by_cases receives : takes (userAt? s) id m = true
    all_goals
      simp only [sends, receives, forall_const, if_true, Bool.false_eq_true, if_false] at enough ⊢
      omega
  · simp only [outgo, income, moves, if_neg own, ite_self]
    omega

theorem runBalance (readable : Readable s) (divisible : ∀ m ∈ order, Divisible m) (exact : Exact id s order)
    (found : s.holdings.get? id = some (.ok h))
    (seenLater : ∀ m ∈ order, m.block < h.block ↔ ∃ o ∈ seen, involves (userAt? s) id o = true ∧ m.block < o.block) :
    ∃ last : Holdings, (applyAll order s).holdings.get? id = some (.ok last) ∧ ∀ t,
      (last.balance t).toNat + (order.map (outgo (userAt? s) id t)).sum +
          ((overtaken (involves (userAt? s) id) seen order).map (income (userAt? s) id t)).sum =
        (h.balance t).toNat + (order.map (income (userAt? s) id t)).sum +
          ((overtaken (involves (userAt? s) id) seen order).map (outgo (userAt? s) id t)).sum := by
  induction order generalizing s h seen with
  | nil => exact ⟨h, found, fun t => by simp [overtaken]⟩
  | cons m rest ih =>
    obtain ⟨fits, exact⟩ := exact
    have whose := transferUserAt m s
    have next := readableTransfer readable m
    have each : ∀ m ∈ rest, Divisible m := fun m among => divisible m (List.mem_cons_of_mem _ among)
    have before := seenLater m List.mem_cons_self
    have after : ∀ m ∈ rest, m.block < h.block ↔
        ∃ o ∈ seen, involves (userAt? s) id o = true ∧ m.block < o.block :=
      fun m among => seenLater m (List.mem_cons_of_mem _ among)
    rcases transferDocument readable (divisible m List.mem_cons_self) found with
      ⟨own, current, changed, written, block, moved⟩ | ⟨kept, unchanged⟩
    · -- Whatever is older than the document was is older than this transfer too.
      have on : ¬ (involves (userAt? s) id m = true ∧
          ∃ o ∈ seen, involves (userAt? s) id o = true ∧ m.block < o.block) :=
        fun late => UInt64.not_lt.mpr current (before.mpr late.2)
      have later : ∀ k ∈ rest, k.block < changed.block ↔
          ∃ o ∈ m :: seen, involves (userAt? s) id o = true ∧ k.block < o.block := by
        intro k among
        rw [block]
        constructor
        · exact fun less => ⟨m, List.mem_cons_self, own, less⟩
        · rintro ⟨o, member, mine, less⟩
          rcases List.mem_cons.mp member with rfl | member
          · exact less
          · exact UInt64.lt_of_lt_of_le ((after k among).mpr ⟨o, member, mine, less⟩) current
      obtain ⟨last, ran, balance⟩ := ih next each exact written (by rwa [whose])
      refine ⟨last, ran, fun t => ?_⟩
      have law := balance t
      obtain ⟨enough, room⟩ := fits h found current t
      have step := passedExact enough room (balanceSmall h t)
      rw [whose, moved] at law
      rw [overtaken, if_neg on]
      simp only [List.map_cons, List.sum_cons, outgo, income] at law step ⊢
      omega
    · have later : ∀ k ∈ rest, k.block < h.block ↔
          ∃ o ∈ m :: seen, involves (userAt? s) id o = true ∧ k.block < o.block := by
        intro k among
        constructor
        · intro less
          obtain ⟨o, member, same⟩ := (after k among).mp less
          exact ⟨o, List.mem_cons_of_mem _ member, same⟩
        · rintro ⟨o, member, mine, less⟩
          rcases List.mem_cons.mp member with rfl | member
          · exact UInt64.lt_trans less (UInt64.not_le.mp fun current => kept ⟨mine, current⟩)
          · exact (after k among).mpr ⟨o, member, mine, less⟩
      obtain ⟨last, ran, balance⟩ := ih next each exact unchanged (by rwa [whose])
      refine ⟨last, ran, fun t => ?_⟩
      have law := balance t
      rw [whose] at law
      by_cases own : involves (userAt? s) id m = true
      · have late : m.block < h.block := UInt64.not_le.mp fun current => kept ⟨own, current⟩
        rw [overtaken, if_pos ⟨own, before.mp late⟩]
        simp only [List.map_cons, List.sum_cons]
        omega
      · obtain ⟨none, nothing⟩ := uninvolved own t
        rw [overtaken, if_neg fun late => own late.1]
        simp only [List.map_cons, List.sum_cons, none, nothing]
        omega

theorem overtakenNone (sorted : (order.filter own).Pairwise (fun a b => a.block ≤ b.block))
    (after : ∀ m ∈ order, own m = true → ∀ o ∈ seen, own o = true → o.block ≤ m.block) :
    overtaken own seen order = [] := by
  induction order generalizing seen with
  | nil => rfl
  | cons m rest ih =>
    have on : ¬ (own m = true ∧ ∃ o ∈ seen, own o = true ∧ m.block < o.block) := by
      rintro ⟨mine, o, member, other, less⟩
      exact UInt64.not_lt.mpr (after m List.mem_cons_self mine o member other) less
    rw [overtaken, if_neg on]
    refine ih ?_ fun k among mine o member other => ?_
    · by_cases mine : own m = true
      · rw [List.filter_cons_of_pos mine] at sorted
        exact sorted.of_cons
      · rwa [List.filter_cons_of_neg mine] at sorted
    · rcases List.mem_cons.mp member with rfl | member
      · rw [List.filter_cons_of_pos other] at sorted
        exact List.rel_of_pairwise_cons sorted (List.mem_filter.mpr ⟨among, mine⟩)
      · exact after k (List.mem_cons_of_mem _ among) mine o member other

/-- Transfers in an order of their own leave what the order of blocks leaves, but for those that are overtaken: what
these would have brought is missing, and what they would have taken is still there. So nothing differs for a user
whose own transfers come by their blocks, whatever is between them. -/
theorem overtakenLost (readable : Readable s) (found : s.holdings.get? id = some (.ok h))
    (recent : ∀ m ∈ logs, h.block ≤ m.block) (divisible : ∀ m ∈ logs, Divisible m)
    (sorted : logs.Pairwise (fun a b => a.block ≤ b.block)) (shuffled : order.Perm logs)
    (exact : Exact id s logs) (exactly : Exact id s order) :
    ∃ early late : Holdings, (applyAll logs s).holdings.get? id = some (.ok early) ∧
      (applyAll order s).holdings.get? id = some (.ok late) ∧
      (∀ t, (late.balance t).toNat + ((overtaken (involves (userAt? s) id) [] order).map (income (userAt? s) id t)).sum =
        (early.balance t).toNat + ((overtaken (involves (userAt? s) id) [] order).map (outgo (userAt? s) id t)).sum) ∧
      ((order.filter (involves (userAt? s) id)).Pairwise (fun a b => a.block ≤ b.block) →
        ∀ t, late.balance t = early.balance t) := by
  have unseen : ∀ run : List Mined, run.Perm logs → ∀ m ∈ run, m.block < h.block ↔
      ∃ o ∈ ([] : List Mined), involves (userAt? s) id o = true ∧ m.block < o.block := by
    intro run same m among
    have current := recent m (same.mem_iff.mp among)
    exact iff_of_false (UInt64.not_lt.mpr current) (by simp)
  obtain ⟨early, ran, counted⟩ := runBalance readable divisible exact found (unseen logs (.refl _))
  obtain ⟨late, shuffledRun, kept⟩ := runBalance readable
    (fun m among => divisible m (shuffled.mem_iff.mp among)) exactly found (unseen order shuffled)
  have whole : overtaken (involves (userAt? s) id) [] logs = [] := overtakenNone (sorted.filter _) (by simp)
  have law : ∀ t, (late.balance t).toNat +
        ((overtaken (involves (userAt? s) id) [] order).map (income (userAt? s) id t)).sum =
      (early.balance t).toNat + ((overtaken (involves (userAt? s) id) [] order).map (outgo (userAt? s) id t)).sum := by
    intro t
    have inOrder := kept t
    have inBlocks := counted t
    rw [(shuffled.map (outgo (userAt? s) id t)).sum_nat, (shuffled.map (income (userAt? s) id t)).sum_nat] at inOrder
    rw [whole] at inBlocks
    simp only [List.map_nil, List.sum_nil] at inBlocks
    omega
  refine ⟨early, late, ran, shuffledRun, law, fun ordered t => ?_⟩
  have same := law t
  rw [overtakenNone ordered (by simp)] at same
  exact UInt64.toNat_inj.mp same

def countedOne : Holdings := Recount.holdings ⟨hoarder, "u", [coin]⟩ (hoardReads 100 1) 100

def countedTwo : Store :=
  (((hoarderStore [coin]).own safe "v").putHoldings "u" countedOne).putHoldings "v" (.fresh "v" 100)

def five : Mined := ⟨1, 101, none, .erc20 9 1 5⟩

def three : Mined := ⟨1, 102, none, .erc20 9 1 3⟩

def elsewhere : Mined := ⟨1, 102, none, .erc20 9 2 3⟩

theorem countedTwoReadable : Readable countedTwo :=
  readablePut (readablePut (fun _ ⟨_, _, _, found⟩ => by cases found) _ _) _ _

theorem overtakenLostBetweenUsers :
    Readable countedTwo ∧ countedTwo.holdings.get? "u" = some (.ok countedOne) ∧
      (∀ m ∈ [five, elsewhere], countedOne.block ≤ m.block ∧ Divisible m) ∧
      Exact "u" countedTwo [five, elsewhere] ∧ Exact "u" countedTwo [elsewhere, five] ∧
      ∃ early late : Holdings, (applyAll [five, elsewhere] countedTwo).holdings.get? "u" = some (.ok early) ∧
        (applyAll [elsewhere, five] countedTwo).holdings.get? "u" = some (.ok late) ∧
        ∀ t, late.balance t = early.balance t := by
  have found : countedTwo.holdings.get? "u" = some (.ok countedOne) := rfl
  have recent : ∀ m ∈ [five, elsewhere], countedOne.block ≤ m.block := by decide +kernel
  have divisible : ∀ m ∈ [five, elsewhere], Divisible m := by decide
  have byBlocks : Exact "u" countedTwo [five, elsewhere] :=
    exactCons (b := 1) (fun _ => rfl) (by decide +kernel) (by decide +kernel) (by decide) <|
      exactCons (b := 6) (fun _ => rfl) (by decide +kernel) (by decide +kernel) (by decide) trivial
  have shuffled : Exact "u" countedTwo [elsewhere, five] :=
    exactCons (b := 1) (fun _ => rfl) (by decide +kernel) (by decide +kernel) (by decide) <|
      exactCons (b := 1) (fun _ => rfl) (by decide +kernel) (by decide +kernel) (by decide) trivial
  have ordered : ([elsewhere, five].filter (involves (userAt? countedTwo) "u")).Pairwise
      (fun a b => a.block ≤ b.block) := by decide +kernel
  obtain ⟨early, late, ran, shuffledRun, _, same⟩ :=
    overtakenLost countedTwoReadable found recent divisible (by decide) (.swap _ _ _) byBlocks shuffled
  exact ⟨countedTwoReadable, found, fun m among => ⟨recent m among, divisible m among⟩, byBlocks, shuffled,
    early, late, ran, shuffledRun, same ordered⟩

theorem laterTransferHidesEarlier :
    Readable countedTwo ∧ countedTwo.holdings.get? "u" = some (.ok countedOne) ∧
      (∀ m ∈ [five, three], countedOne.block < m.block ∧ Divisible m) ∧
      Exact "u" countedTwo [five, three] ∧ Exact "u" countedTwo [three, five] ∧
      recorded? (applyAll [five, three] countedTwo) "u" coin.token = some 9 ∧
      recorded? (applyAll [three, five] countedTwo) "u" coin.token = some 4 := by
  have byBlocks : Exact "u" countedTwo [five, three] :=
    exactCons (b := 1) (fun _ => rfl) (by decide +kernel) (by decide +kernel) (by decide) <|
      exactCons (b := 6) (fun _ => rfl) (by decide +kernel) (by decide +kernel) (by decide) trivial
  have reversed : Exact "u" countedTwo [three, five] :=
    exactCons (b := 1) (fun _ => rfl) (by decide +kernel) (by decide +kernel) (by decide) <|
      exactCons (b := 4) (fun _ => rfl) (by decide +kernel) (by decide +kernel) (by decide) trivial
  exact ⟨countedTwoReadable, rfl, by decide +kernel, byBlocks, reversed, by decide +kernel, by decide +kernel⟩

end HolderGate.Sync
