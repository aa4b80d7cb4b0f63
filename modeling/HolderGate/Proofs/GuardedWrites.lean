import HolderGate.Proofs.StoredDocument
import HolderGate.Proofs.TransferReport

/-! Runs of writes to the holdings of users. Counted holdings take the place of what there was, and changes of a block
are folded in where the document is of no later block. So a document is always the last one that was counted, with the
changes that have been applied since, and its block never goes back between two counts. -/
namespace HolderGate.Writes
open Access Sync

inductive Write where
  | count (h : Holdings)
  | change (user : String) (deltas : List Delta) (block : UInt64)

abbrev Answer := Except StoreError (Option Store.Applied)

def Write.run (s : Store) : Write → Answer × Store
  | .count h => (.ok none, s.putHoldings h.user h)
  | .change user deltas block =>
    match s.applyChanges user deltas block with
    | .ok (result, later) => (.ok (some result), later)
    | .error e => (.error e, s)

def after (s : Store) (writes : List Write) : Store := writes.foldl (fun s w => (w.run s).2) s

def history (s : Store) : List Write → List (Write × Answer)
  | [] => []
  | w :: rest => (w, (w.run s).1) :: history (w.run s).2 rest

def applied? (user : String) : Write × Answer → Option (List Delta × UInt64)
  | (.change other deltas block, .ok (some (.applied _))) => if other = user then some (deltas, block) else none
  | _ => none

def appliedTo (user : String) (events : List (Write × Answer)) : List (List Delta × UInt64) :=
  events.filterMap (applied? user)

def folded (h : Holdings) (calls : List (List Delta × UInt64)) : Holdings :=
  { h.apply (calls.flatMap Prod.fst) with block := (calls.map Prod.snd).getLastD h.block }

structure Guarded (s : Store) (user : String) (deltas : List Delta) (block : UInt64) (result : Store.Applied)
    (later : Store) : Prop where
  missing : result = .missing ↔ s.holdings.get? user = none
  stale : ∀ stored, result = .stale stored ↔
    ∃ h, s.holdings.get? user = some (.ok h) ∧ h.block = stored ∧ block < stored
  applied : ∀ next, result = .applied next ↔
    ∃ h, s.holdings.get? user = some (.ok h) ∧ h.block ≤ block ∧ next = { h.apply deltas with block }
  unchanged : (∀ next, result ≠ .applied next) → later = s
  written : ∀ next, result = .applied next → s.SameBut later (· = user) ∧
    later.holdings.get? user = some (.ok next) ∧
    (Json.read (Json.render next) : Except Json.Fault Holdings) = .ok next

variable {s : Store} {user : String} {deltas : List Delta} {block : UInt64} {h : Holdings} {writes since : List Write}
  {calls : List (List Delta × UInt64)}

theorem changeCases (readable : Readable s) (user : String) (deltas : List Delta) (block : UInt64) :
    (s.holdings.get? user = none ∧ s.applyChanges user deltas block = .ok (.missing, s)) ∨
    (∃ h, s.holdings.get? user = some (.ok h) ∧ block < h.block ∧
      s.applyChanges user deltas block = .ok (.stale h.block, s)) ∨
    ∃ h, s.holdings.get? user = some (.ok h) ∧ h.block ≤ block ∧
      s.applyChanges user deltas block =
        .ok (.applied { h.apply deltas with block }, s.putHoldings user { h.apply deltas with block }) := by
  unfold Store.applyChanges
  rcases found : s.holdings.get? user with _ | fault | h
  · exact .inl ⟨rfl, rfl⟩
  · exact absurd ⟨user, fault, rfl, found⟩ (readable (some user))
  · simp only [Store.opened, bind, Except.bind]
    by_cases late : block < h.block
    · exact .inr (.inl ⟨h, rfl, late, if_pos late⟩)
    · exact .inr (.inr ⟨h, rfl, UInt64.not_lt.mp late, if_neg late⟩)

theorem changeGuarded (readable : Readable s) (user : String) (deltas : List Delta) (block : UInt64) :
    ∃ result later, s.applyChanges user deltas block = .ok (result, later) ∧
      Guarded s user deltas block result later := by
  obtain ⟨absent, ran⟩ | ⟨h, found, late, ran⟩ | ⟨h, found, current, ran⟩ := changeCases readable user deltas block
  · exact ⟨_, _, ran, by simp [absent], by simp [absent], by simp [absent], fun _ => rfl, by simp⟩
  · refine ⟨_, _, ran, by simp [found], fun stored => ?_, fun next => ?_, fun _ => rfl, by simp⟩
    · simp only [Store.Applied.stale.injEq, found, Option.some.injEq, Except.ok.injEq, exists_eq_left']
      exact ⟨fun same => ⟨same, same ▸ late⟩, And.left⟩
    · simp [found, UInt64.not_le.mpr late]
  · refine ⟨_, _, ran, by simp [found], fun stored => ?_, fun next => ?_, fun changed => absurd rfl (changed _), ?_⟩
    · simp only [reduceCtorEq, found, Option.some.injEq, Except.ok.injEq, exists_eq_left', false_iff, not_and]
      exact fun same => same ▸ UInt64.not_lt.mpr current
    · simp [found, current, eq_comm]
    · intro next same
      cases same
      exact ⟨s.sameButPut user _, by simp [Store.putHoldings], Json.readRender (Holdings.restores _)⟩

theorem runReadable (readable : Readable s) (w : Write) : Readable (w.run s).2 := by
  cases w with
  | count h => exact readablePut readable h.user h
  | change user deltas block =>
    obtain ⟨_, ran⟩ | ⟨_, _, _, ran⟩ | ⟨_, _, _, ran⟩ := changeCases readable user deltas block
    · simpa only [Write.run, ran] using readable
    · simpa only [Write.run, ran] using readable
    · simpa only [Write.run, ran] using readablePut readable user _

theorem afterReadable (readable : Readable s) (writes : List Write) : Readable (after s writes) := by
  induction writes generalizing s with
  | nil => exact readable
  | cons w rest ih => exact ih (runReadable readable w)

theorem runDocument (readable : Readable s) (w : Write) (uncounted : ∀ h, w = .count h → h.user ≠ user) :
    (applied? user (w, (w.run s).1) = none ∧ (w.run s).2.holdings.get? user = s.holdings.get? user) ∨
    ∃ deltas block h, applied? user (w, (w.run s).1) = some (deltas, block) ∧ s.holdings.get? user = some (.ok h) ∧
      h.block ≤ block ∧ (w.run s).2.holdings.get? user = some (.ok { h.apply deltas with block }) := by
  cases w with
  | count h =>
    exact .inl ⟨rfl, (s.sameButPut h.user h).holdings user (uncounted h rfl).symm⟩
  | change other deltas block =>
    obtain ⟨_, ran⟩ | ⟨h, _, _, ran⟩ | ⟨h, found, current, ran⟩ := changeCases readable other deltas block
    · exact .inl (by simp only [Write.run, ran, applied?, and_self])
    · exact .inl (by simp only [Write.run, ran, applied?, and_self])
    · simp only [Write.run, ran, applied?]
      by_cases own : other = user
      · subst own
        exact .inr ⟨deltas, block, h, if_pos rfl, found, current, by simp [Store.putHoldings]⟩
      · exact .inl ⟨if_neg own, (s.sameButPut other _).holdings user (Ne.symm own)⟩

theorem foldedCons (h : Holdings) (deltas : List Delta) (block : UInt64) (calls : List (List Delta × UInt64)) :
    folded { h.apply deltas with block } calls = folded h ((deltas, block) :: calls) := by
  unfold folded
  rw [Holdings.applyWith, List.flatMap_cons, Holdings.applyAppend]
  cases calls <;> rfl

theorem runFolded (readable : Readable s) (uncounted : ∀ h, .count h ∈ since → h.user ≠ user)
    (found : s.holdings.get? user = some (.ok h)) :
    (after s since).holdings.get? user = some (.ok (folded h (appliedTo user (history s since)))) ∧
      h.block ≤ (folded h (appliedTo user (history s since))).block := by
  induction since generalizing s h with
  | nil => exact ⟨found, UInt64.le_refl _⟩
  | cons w rest ih =>
    have own : ∀ h, w = .count h → h.user ≠ user := fun h same => uncounted h (same ▸ List.mem_cons_self)
    have others : ∀ h, .count h ∈ rest → h.user ≠ user := fun h among => uncounted h (List.mem_cons_of_mem _ among)
    have next := runReadable readable w
    simp only [history, appliedTo, List.filterMap_cons] at ih ⊢
    obtain ⟨skipped, kept⟩ | ⟨deltas, block, g, applied, present, current, written⟩ := runDocument readable w own
    · rw [skipped]
      exact ih next others (kept.trans found)
    · cases found.symm.trans present
      rw [applied]
      obtain ⟨run, grown⟩ := ih next others written
      rw [foldedCons] at run grown
      exact ⟨run, UInt64.le_trans current grown⟩

theorem runMissing (readable : Readable s) (uncounted : ∀ h, .count h ∈ since → h.user ≠ user)
    (absent : s.holdings.get? user = none) : (after s since).holdings.get? user = none := by
  induction since generalizing s with
  | nil => exact absent
  | cons w rest ih =>
    have own : ∀ h, w = .count h → h.user ≠ user := fun h same => uncounted h (same ▸ List.mem_cons_self)
    have others : ∀ h, .count h ∈ rest → h.user ≠ user := fun h among => uncounted h (List.mem_cons_of_mem _ among)
    refine ih (runReadable readable w) others ?_
    obtain ⟨_, kept⟩ | ⟨_, _, _, _, present, _⟩ := runDocument readable w own
    · exact kept.trans absent
    · cases absent.symm.trans present

theorem afterAppend (s : Store) (writes since : List Write) : after s (writes ++ since) = after (after s writes) since :=
  List.foldl_append

/-- Whatever has been written before: changes that are stale or find no document leave the store alone, and all others
are applied to the document of their user and nothing else. From then on until the user is counted again, the document
is what it was with the changes that are applied to it, and of the block of the last of them. -/
theorem writesGuarded (readable : Readable s) (writes : List Write) :
    (∀ user deltas block, ∃ result later, (after s writes).applyChanges user deltas block = .ok (result, later) ∧
      Guarded (after s writes) user deltas block result later) ∧
    (∀ h, (after s writes).SameBut (after s (writes ++ [.count h])) (· = h.user) ∧
      (after s (writes ++ [.count h])).holdings.get? h.user = some (.ok h)) ∧
    ∀ user since, (∀ h, .count h ∈ since → h.user ≠ user) →
      ((after s writes).holdings.get? user = none → (after s (writes ++ since)).holdings.get? user = none) ∧
      ∀ h, (after s writes).holdings.get? user = some (.ok h) → ∃ calls,
        calls = appliedTo user (history (after s writes) since) ∧
        (after s (writes ++ since)).holdings.get? user = some (.ok (folded h calls)) ∧
        h.block ≤ (folded h calls).block := by
  have now := afterReadable readable writes
  refine ⟨changeGuarded now, ?counts, ?runs⟩
  case counts =>
    intro h
    rw [afterAppend]
    exact ⟨Store.sameButPut _ h.user h, by simp [after, Write.run, Store.putHoldings]⟩
  case runs =>
    intro user since uncounted
    rw [afterAppend]
    exact ⟨runMissing now uncounted, fun h found => ⟨_, rfl, runFolded now uncounted found⟩⟩

def badges : List Write :=
  [.change "a" [⟨⟨9, 7⟩, .increase 2⟩, ⟨⟨9, 7⟩, .decrease 9⟩] 45, .change "b" [⟨⟨9, 7⟩, .increase 2⟩] 49,
    .count ⟨"b", .empty, 48⟩, .change "a" [⟨⟨9, 7⟩, .increase 1⟩] 44, .change "c" [] 50,
    .change "a" [⟨⟨9, 7⟩, .increase 3⟩] 45]

theorem writesGuardedBadges :
    Readable partners ∧ (∀ h, .count h ∈ badges → h.user ≠ "a") ∧
      ∃ last : Holdings, (after partners badges).holdings.get? "a" = some (.ok last) ∧
        last.balance ⟨9, 7⟩ = 3 ∧ last.block = 45 := by
  have uncounted : ∀ h, .count h ∈ badges → h.user ≠ "a" := by simp [badges]
  obtain ⟨_, _, runs⟩ := writesGuarded partnersReadable []
  obtain ⟨calls, same, written, _⟩ := (runs "a" badges uncounted).2 _ rfl
  have twice : calls = [([⟨⟨9, 7⟩, .increase 2⟩, ⟨⟨9, 7⟩, .decrease 9⟩], 45), ([⟨⟨9, 7⟩, .increase 3⟩], 45)] :=
    same.trans (by decide +kernel)
  subst twice
  exact ⟨partnersReadable, uncounted, _, written, by decide +kernel, rfl⟩

end HolderGate.Writes
