import Mathlib.Algebra.GroupWithZero.Nat
import HolderGate.Proofs.TransferStep

/-! A batch at once, and its pairs one by one. They part ways where both endpoints are of one user, for
then a batch takes all away before it gives anything back. -/
namespace HolderGate.Sync
open Access Chain Identity

structure Route where
  contract : Address
  block : UInt64
  transaction : Option Word
  sender : Address
  receiver : Address

abbrev Pair := Word × Word

namespace Route

def log (r : Route) (e : Event) : Mined := ⟨r.contract, r.block, r.transaction, e⟩

def atOnce (r : Route) (ids amounts : List Word) (s : Store) : Store :=
  (applyTransfer (r.log (.erc1155Batch r.sender r.receiver ids amounts)) s).2

def single (r : Route) (s : Store) (p : Pair) : Store :=
  (applyTransfer (r.log (.erc1155 r.sender r.receiver p.1 p.2)) s).2

def oneByOne (r : Route) (pairs : List Pair) (s : Store) : Store := pairs.foldl r.single s

def token (r : Route) (id : Word) : Token := ⟨r.contract, id⟩

def given (r : Route) (p : Pair) : Delta := (moved (r.token p.1) p.2).1

def taken (r : Route) (p : Pair) : Delta := (moved (r.token p.1) p.2).2

end Route

def amountsOf (id : Word) (pairs : List Pair) : List Nat :=
  (pairs.filter (fun p => p.1 = id)).map (fun p => p.2.clamp.toNat)

def greatest (amounts : List Nat) : Nat := amounts.foldr max 0

variable {r : Route} {s : Store} {pairs : List Pair} {p : Pair} {ids amounts : List Word} {id : Word}
  {sender? receiver? : Option String} {user : String} {block : UInt64} {given taken ds more : List Delta}
  {document : Option (Stored Holdings)} {h : Holdings}

theorem singleStore (r : Route) (s : Store) (p : Pair) :
    (Unreadable s (userAt? s r.sender) ∧ r.single s p = s) ∨
    (¬ Unreadable s (userAt? s r.sender) ∧
      r.single s p = deliver r.block [r.taken p] (userAt? s r.receiver)
        (deliver r.block [r.given p] (userAt? s r.sender) s)) :=
  applyTransferStore rfl rfl (by simp) (by simp)

theorem atOnceStore (r : Route) (s : Store) (nonempty : ids.zip amounts ≠ []) :
    (Unreadable s (userAt? s r.sender) ∧ r.atOnce ids amounts s = s) ∨
    (¬ Unreadable s (userAt? s r.sender) ∧
      r.atOnce ids amounts s = deliver r.block ((ids.zip amounts).map r.taken) (userAt? s r.receiver)
        (deliver r.block ((ids.zip amounts).map r.given) (userAt? s r.sender) s)) := by
  have changed : changes r.contract (.erc1155Batch r.sender r.receiver ids amounts) =
      ((ids.zip amounts).map r.given, (ids.zip amounts).map r.taken) := by
    simp only [changes, List.unzip_eq_map, List.map_map]
    rfl
  exact applyTransferStore rfl changed (by simpa using nonempty) (by simpa using nonempty)

theorem oneByOneUnreadable (unreadable : Unreadable s (userAt? s r.sender)) (pairs : List Pair) :
    r.oneByOne pairs s = s := by
  induction pairs with
  | nil => rfl
  | cons p rest ih =>
    rcases singleStore r s p with ⟨_, same⟩ | ⟨readable, _⟩
    · rw [Route.oneByOne, List.foldl_cons, same]
      exact ih
    · exact absurd unreadable readable

theorem oneByOneDocument (readable : ¬ Unreadable s (userAt? s r.sender)) (pairs : List Pair) (user : String) :
    (r.oneByOne pairs s).holdings.get? user =
      pairs.foldl (fun document p => exchange r.block (userAt? s r.sender) (userAt? s r.receiver) user
        [r.given p] [r.taken p] document) (s.holdings.get? user) := by
  induction pairs generalizing s with
  | nil => rfl
  | cons p rest ih =>
    rcases singleStore r s p with ⟨unreadable, _⟩ | ⟨_, same⟩
    · exact absurd unreadable readable
    · have users : ∀ endpoint, userAt? (r.single s p) endpoint = userAt? s endpoint := by
        intro endpoint
        rw [same, deliverUserAt, deliverUserAt]
      have later : ¬ Unreadable (r.single s p) (userAt? (r.single s p) r.sender) := by
        rw [users, same, deliverUnreadable, deliverUnreadable]
        exact readable
      have rest := ih later
      rw [users, users] at rest
      rw [List.foldl_cons, ← deliverBoth, ← same]
      exact rest

theorem exchangeFold (p : Pair) (rest : List Pair) (f g : Pair → List Delta) :
    (p :: rest).foldl (fun document p => exchange block sender? receiver? user (f p) (g p) document) document =
      if sender? = some user ∨ receiver? = some user then
        receive block ((p :: rest).flatMap (fun p => share sender? receiver? user (f p) (g p))) document
      else document := by
  -- From the first pair on: with no pair at all a document does not even come to be of the block.
  induction rest generalizing p document with
  | nil =>
    rw [List.flatMap_singleton]
    rfl
  | cons q rest ih =>
    rw [List.foldl_cons, ih, exchange]
    split
    next => rw [← receiveAppend, List.flatMap_cons (x := p)]
    next => rfl

def backAndForth (r : Route) (pairs : List Pair) : List Delta := pairs.flatMap (fun p => [r.given p, r.taken p])

theorem amountsCons (id : Word) (p : Pair) (pairs : List Pair) :
    amountsOf id (p :: pairs) =
      if p.1 = id then p.2.clamp.toNat :: amountsOf id pairs else amountsOf id pairs := by
  unfold amountsOf
  rw [List.filter_cons]
  split
  next same => rw [if_pos (by simpa using same), List.map_cons]
  next differ => rw [if_neg (by simpa using differ)]

theorem tokenSame {id : Word} : r.token id = r.token p.1 ↔ p.1 = id := by
  simp only [Route.token, Token.mk.injEq, true_and]
  exact eq_comm

theorem givenBalance (h : Holdings) (pairs : List Pair) :
    ((h.apply (pairs.map r.given)).balance (r.token id)).toNat =
      (h.balance (r.token id)).toNat - (amountsOf id pairs).sum := by
  induction pairs generalizing h with
  | nil => rfl
  | cons p rest ih =>
    rw [List.map_cons, Holdings.applyCons, ih, Holdings.changeBalance, amountsCons]
    simp only [Route.given, moved, tokenSame]
    split
    next => rw [Change.decreaseNat, List.sum_cons, Nat.sub_sub]
    next => rfl

theorem takenBalance (h : Holdings) (pairs : List Pair) :
    ((h.apply (pairs.map r.taken)).balance (r.token id)).toNat =
      min ((h.balance (r.token id)).toNat + (amountsOf id pairs).sum) (UInt64.size - 1) := by
  induction pairs generalizing h with
  | nil =>
    have small := (h.balance (r.token id)).toNat_lt
    have size : UInt64.size = 2 ^ 64 := rfl
    simp only [List.map_nil, Holdings.applyNil, amountsOf, List.filter_nil, List.sum_nil]
    omega
  | cons p rest ih =>
    rw [List.map_cons, Holdings.applyCons, ih, Holdings.changeBalance, amountsCons]
    simp only [Route.taken, moved, tokenSame]
    split
    next =>
      rw [Change.increaseNat, List.sum_cons]
      omega
    next => rfl

theorem clampSmall (w : Word) : w.clamp.toNat ≤ UInt64.size - 1 := by
  rw [clampNat]
  exact Nat.min_le_right _ _

theorem backAndForthBalance (h : Holdings) (pairs : List Pair) :
    ((h.apply (backAndForth r pairs)).balance (r.token id)).toNat =
      max (h.balance (r.token id)).toNat (greatest (amountsOf id pairs)) := by
  induction pairs generalizing h with
  | nil => exact (Nat.max_zero _).symm
  | cons p rest ih =>
    have split : backAndForth r (p :: rest) = r.given p :: r.taken p :: backAndForth r rest := rfl
    have small := (h.balance (r.token id)).toNat_lt
    have size : UInt64.size = 2 ^ 64 := rfl
    rw [split, Holdings.applyCons, Holdings.applyCons, ih, Holdings.changeBalance, Holdings.changeBalance,
      amountsCons]
    simp only [Route.given, Route.taken, moved, tokenSame]
    have bound := clampSmall p.2
    split
    next =>
      -- Less, and more again: a balance below the amount comes up to it, any other is as before.
      rw [Change.increaseNat, Change.decreaseNat, greatest, greatest, List.foldr_cons]
      omega
    next => rfl

theorem greatestLeSum (amounts : List Nat) : greatest amounts ≤ amounts.sum := by
  induction amounts with
  | nil => exact Nat.le_refl 0
  | cons a rest ih =>
    rw [greatest] at ih
    rw [greatest, List.foldr_cons, List.sum_cons]
    omega

theorem greatestSmall (id : Word) (pairs : List Pair) : greatest (amountsOf id pairs) ≤ UInt64.size - 1 := by
  induction pairs with
  | nil => exact Nat.zero_le _
  | cons p rest ih =>
    rw [amountsCons]
    split
    next =>
      have bound := clampSmall p.2
      rw [greatest] at ih
      rw [greatest, List.foldr_cons]
      omega
    next => exact ih

/-- The greatest amount covers the sum of all, as far as a record counts, or the balance does. -/
def Covered (h : Holdings) (t : Token) (amounts : List Nat) : Prop :=
  min amounts.sum (UInt64.size - 1) ≤ max (h.balance t).toNat (greatest amounts)

theorem sameBalance :
    (h.apply (pairs.map r.given ++ pairs.map r.taken)).balance (r.token id) =
      (h.apply (backAndForth r pairs)).balance (r.token id) ↔
    Covered h (r.token id) (amountsOf id pairs) := by
  have small := (h.balance (r.token id)).toNat_lt
  have size : UInt64.size = 2 ^ 64 := rfl
  have least := greatestLeSum (amountsOf id pairs)
  have most := greatestSmall id pairs
  rw [← UInt64.toNat_inj, Holdings.applyAppend, takenBalance, givenBalance, backAndForthBalance, Covered]
  omega

theorem tokensAtOnce (t : Token) :
    t ∈ (pairs.map r.given ++ pairs.map r.taken).map Delta.token ↔ ∃ p ∈ pairs, t = r.token p.1 := by
  simp [Route.given, Route.taken, moved, eq_comm]

theorem tokensOneByOne (t : Token) :
    t ∈ (backAndForth r pairs).map Delta.token ↔ ∃ p ∈ pairs, t = r.token p.1 := by
  constructor
  · intro member
    obtain ⟨d, among, rfl⟩ := List.mem_map.mp member
    obtain ⟨p, present, own⟩ := List.mem_flatMap.mp among
    rcases List.mem_cons.mp own with rfl | own
    · exact ⟨p, present, rfl⟩
    · cases List.mem_singleton.mp own
      exact ⟨p, present, rfl⟩
  · rintro ⟨p, present, rfl⟩
    exact List.mem_map.mpr ⟨r.given p, List.mem_flatMap.mpr ⟨p, present, List.mem_cons_self⟩, rfl⟩

theorem sameHoldings :
    h.apply (pairs.map r.given ++ pairs.map r.taken) = h.apply (backAndForth r pairs) ↔
      ∀ id, Covered h (r.token id) (amountsOf id pairs) := by
  rw [Holdings.applySame fun t => (tokensAtOnce t).trans (tokensOneByOne t).symm]
  constructor
  · intro same id
    exact sameBalance.mp (same (r.token id))
  · intro covered t
    by_cases own : t = r.token t.id
    · rw [own]
      exact sameBalance.mpr (covered t.id)
    · have foreign : ¬ ∃ p ∈ pairs, t = r.token p.1 := by
        rintro ⟨p, _, rfl⟩
        exact own rfl
      rw [Holdings.applyOther _ (mt (tokensAtOnce t).mp foreign),
        Holdings.applyOther _ (mt (tokensOneByOne t).mp foreign)]

theorem receiveSame :
    receive block ds document = receive block more document ↔
      ∀ h, document = some (.ok h) → h.block ≤ block → h.apply ds = h.apply more := by
  rcases document with _ | fault | h
  · simp [receive]
  · simp [receive]
  · simp only [receive, Option.some.injEq, Except.ok.injEq, forall_eq']
    by_cases stale : block < h.block
    · simp [stale, UInt64.not_le.mpr stale]
    · simp only [if_neg stale, Option.some.injEq, Except.ok.injEq, UInt64.not_lt.mp stale, forall_const]
      constructor
      · intro same
        have blocks : (h.apply ds).block = (h.apply more).block := by
          rw [Holdings.applyBlock, Holdings.applyBlock]
        cases left : h.apply ds
        cases right : h.apply more
        simp_all
      · intro same
        rw [same]

theorem atOnceNone (empty : ids.zip amounts = []) : r.atOnce ids amounts s = s := by
  have changed : changes r.contract (.erc1155Batch r.sender r.receiver ids amounts) = ([], []) := by
    simp [changes, empty]
  simp only [Route.atOnce, applyTransfer, Route.log, Event.endpoints?, changed]
  rfl

theorem shareAlone (differ : ¬ (sender? = some user ∧ receiver? = some user)) (f g : Pair → Delta) :
    share sender? receiver? user (pairs.map f) (pairs.map g) =
      pairs.flatMap (fun p => share sender? receiver? user [f p] [g p]) := by
  unfold share
  by_cases gives : sender? = some user <;> by_cases takes : receiver? = some user
  · exact absurd ⟨gives, takes⟩ differ
  · simp [gives, takes, List.map_eq_flatMap]
  · simp [gives, takes, List.map_eq_flatMap]
  · simp [gives, takes]

/-- A batch leaves the documents that its pairs leave one by one, unless it is within the wallets of one
user and some identifier comes in amounts that neither the balance nor one of them covers. -/
theorem batchIffSingles (r : Route) (ids amounts : List Word) (s : Store) :
    (∀ user, (r.atOnce ids amounts s).holdings.get? user =
      (r.oneByOne (ids.zip amounts) s).holdings.get? user) ↔
    ∀ user h, userAt? s r.sender = some user → userAt? s r.receiver = some user →
      s.holdings.get? user = some (.ok h) → h.block ≤ r.block →
      ∀ id, Covered h (r.token id) (amountsOf id (ids.zip amounts)) := by
  by_cases unreadable : Unreadable s (userAt? s r.sender)
  · have kept : r.atOnce ids amounts s = s := by
      by_cases empty : ids.zip amounts = []
      · exact atOnceNone empty
      · rcases atOnceStore r s empty with ⟨_, same⟩ | ⟨readable, _⟩
        · exact same
        · exact absurd unreadable readable
    rw [kept, oneByOneUnreadable unreadable]
    refine iff_of_true (fun _ => rfl) ?_
    intro user h sends _ found
    obtain ⟨other, fault, is, failed⟩ := unreadable
    cases sends.symm.trans is
    cases found.symm.trans failed
  · cases shape : ids.zip amounts with
    | nil =>
      rw [atOnceNone shape]
      refine iff_of_true (fun _ => rfl) ?_
      intro user h _ _ _ _ id
      exact Nat.le_trans (Nat.min_le_left _ _) (Nat.zero_le _)
    | cons p rest =>
      have stores : r.atOnce ids amounts s = deliver r.block ((p :: rest).map r.taken) (userAt? s r.receiver)
          (deliver r.block ((p :: rest).map r.given) (userAt? s r.sender) s) := by
        have nonempty : ids.zip amounts ≠ [] := by simp [shape]
        rcases atOnceStore r s nonempty with ⟨failed, _⟩ | ⟨_, same⟩
        · exact absurd failed unreadable
        · rw [same, shape]
      have documents : ∀ user, (r.atOnce ids amounts s).holdings.get? user =
          (r.oneByOne (p :: rest) s).holdings.get? user ↔
          ∀ h, userAt? s r.sender = some user → userAt? s r.receiver = some user →
            s.holdings.get? user = some (.ok h) → h.block ≤ r.block →
            ∀ id, Covered h (r.token id) (amountsOf id (p :: rest)) := by
        intro user
        rw [stores, deliverBoth, oneByOneDocument unreadable, exchangeFold, exchange]
        by_cases both : userAt? s r.sender = some user ∧ userAt? s r.receiver = some user
        · obtain ⟨gives, takes⟩ := both
          have all : share (userAt? s r.sender) (userAt? s r.receiver) user ((p :: rest).map r.given)
              ((p :: rest).map r.taken) = (p :: rest).map r.given ++ (p :: rest).map r.taken := by
            rw [share, if_pos gives, if_pos takes]
          have each : (p :: rest).flatMap (fun p => share (userAt? s r.sender) (userAt? s r.receiver) user
              [r.given p] [r.taken p]) = backAndForth r (p :: rest) := by
            simp only [share, if_pos gives, if_pos takes, backAndForth]
            rfl
          rw [if_pos (.inl gives), if_pos (.inl gives), all, each, receiveSame]
          simp only [sameHoldings, gives, takes, forall_const]
        · rw [shareAlone both]
          refine iff_of_true rfl ?_
          exact fun _ gives takes => absurd ⟨gives, takes⟩ both
      exact forall_congr' documents

def badge : Token := ⟨.zero, 3⟩

def oneBadge : Store :=
  (Store.empty.own (.ofAddress (.ofOctets [1])) "u").putHoldings "u" ⟨"u", .insert .empty badge 1, 100⟩

def toItself : Route := ⟨.zero, 101, none, .ofOctets [1], .ofOctets [1]⟩

def balanceIn (s : Store) (user : String) (t : Token) : Option UInt64 :=
  ((s.holdings.get? user).bind Except.toOption).map (·.balance t)

theorem repeatedBadgeDoubles :
    balanceIn (toItself.atOnce [3, 3] [1, 1] oneBadge) "u" badge = some 2 ∧
    balanceIn (toItself.oneByOne ([3, 3].zip [1, 1]) oneBadge) "u" badge = some 1 ∧
    ¬ ∀ user, (toItself.atOnce [3, 3] [1, 1] oneBadge).holdings.get? user =
      (toItself.oneByOne ([3, 3].zip [1, 1]) oneBadge).holdings.get? user := by
  have twice : balanceIn (toItself.atOnce [3, 3] [1, 1] oneBadge) "u" badge = some 2 := by decide +kernel
  have once : balanceIn (toItself.oneByOne ([3, 3].zip [1, 1]) oneBadge) "u" badge = some 1 := by
    decide +kernel
  refine ⟨twice, once, fun same => ?_⟩
  rw [balanceIn, same "u", ← balanceIn, once] at twice
  contradiction

end HolderGate.Sync
