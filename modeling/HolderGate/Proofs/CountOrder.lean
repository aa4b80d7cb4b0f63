import HolderGate.Proofs.IncrementalCount
import HolderGate.Proofs.MirroredAccounts

/-! A full count before a transfer that is then applied, and a full count after it, at every magnitude. Both stop
at the greatest amount that a record counts. A record that has stopped there does not know how much more there
is, so what leaves it leaves the greatest amount. -/
namespace HolderGate
open Access Chain Identity

namespace Chain

def Accounts.settled (l : Accounts) (m : Mined) : Accounts :=
  { l.execute m with
    fungible := fun c a => if a = .zero then l.fungible c a else (l.execute m).fungible c a
    multi := fun c i a => if a = .zero then l.multi c i a else (l.execute m).multi c i a }

def Mined.amountOf (m : Mined) (t : Token) : Nat :=
  match m.event with
  | .erc20 _ _ amount => if t = .fungible m.contract then amount.toNat else 0
  | .erc1155 _ _ id amount => if t = ⟨m.contract, id⟩ then amount.toNat else 0
  | _ => 0

variable {accounts : List Address} {sender receiver : Address} {amount : Nat} {balance : Address → Nat}
  {l : Accounts} {m : Mined} {f : Feature} {k : Standard}

theorem sumSettled (once : accounts.Nodup) (enough : sender = .zero ∨ amount ≤ balance sender) :
    (accounts.map (fun a => if a = .zero then balance a else shift sender receiver amount balance a)).sum +
        (if sender ∈ accounts ∧ sender ≠ .zero then amount else 0) =
      (accounts.map balance).sum + (if receiver ∈ accounts ∧ receiver ≠ .zero then amount else 0) ∧
    (sender ∈ accounts ∧ sender ≠ .zero → amount ≤ (accounts.map balance).sum) := by
  constructor
  · -- The zero address gives and takes nothing, so the sums for debits and credits apply with nothing there.
    let sent := if sender = .zero then 0 else amount
    let gained := if receiver = .zero then 0 else amount
    let spent := fun a => if a = sender then balance a - sent else balance a
    have covered : sender ∈ accounts → sent ≤ balance sender := by grind
    have debited : (accounts.map spent).sum + _ = _ := sumDebit once covered
    have credited := sumCredit once receiver gained spent
    have each : ∀ a, (if a = .zero then balance a else shift sender receiver amount balance a) =
        if a = receiver then spent a + gained else spent a := by grind [shift]
    simp only [each]
    grind
  · rintro ⟨member, some⟩
    exact Nat.le_trans (enough.resolve_left some) (List.le_sum_of_mem (List.mem_map_of_mem member))

theorem settledSame (l : Accounts) (accounts : List Address) {t : Token}
    (fungible : (l.execute m).fungible t.contract = l.fungible t.contract)
    (multi : (l.execute m).multi t.contract t.id = l.multi t.contract t.id)
    (owner : (l.execute m).owner t.contract t.id = l.owner t.contract t.id) (k : Standard) :
    (l.settled m).total accounts k t = l.total accounts k t := by
  cases k <;> simp only [Accounts.total, Accounts.settled, fungible, multi, owner, ite_self]

def Mined.Agrees (m : Mined) (f : Feature) : Prop :=
  ∃ k, m.event.standard? = some k ∧ (m.contract = f.token.contract → k = f.standard)

theorem settledTotal (once : accounts.Nodup) (valid : l.Valid m) (divisible : f.standard ≠ .erc721)
    (agrees : m.Agrees f) (ends : m.event.endpoints? = some (sender, receiver)) :
    (l.settled m).total accounts f.standard f.token +
        (if sender ∈ accounts ∧ sender ≠ .zero then m.amountOf f.token else 0) =
      l.total accounts f.standard f.token +
        (if receiver ∈ accounts ∧ receiver ≠ .zero then m.amountOf f.token else 0) ∧
    (sender ∈ accounts ∧ sender ≠ .zero → m.amountOf f.token ≤ l.total accounts f.standard f.token) := by
  obtain ⟨k, kind, own⟩ := agrees
  cases event : m.event with
  | erc20 giver taker amount =>
    cases event ▸ kind
    cases event ▸ ends
    simp only [Accounts.Valid, event] at valid
    by_cases moved : f.token = .fungible m.contract
    · have contract : f.token.contract = m.contract := congrArg Token.contract moved
      rw [← own contract.symm]
      simp only [Accounts.total, Accounts.settled, Accounts.execute, Mined.amountOf, event, contract, if_pos moved, if_true]
      exact sumSettled once valid
    · have elsewhere : f.token.contract ≠ m.contract := fun same =>
        moved (same ▸ Sync.tokenFungible (own same.symm).symm)
      simp [settledSame, Accounts.execute, Mined.amountOf, event, elsewhere, moved]
  | erc721 giver taker i =>
    cases event ▸ kind
    have elsewhere : f.token.contract ≠ m.contract := fun same => divisible (own same.symm).symm
    simp [settledSame, Accounts.execute, Mined.amountOf, event, elsewhere]
  | erc1155 giver taker i amount =>
    cases event ▸ kind
    cases event ▸ ends
    simp only [Accounts.Valid, event] at valid
    by_cases moved : f.token = ⟨m.contract, i⟩
    · have contract : f.token.contract = m.contract := congrArg Token.contract moved
      have identifier : f.token.id = i := congrArg Token.id moved
      rw [← own contract.symm]
      simp only [Accounts.total, Accounts.settled, Accounts.execute, Mined.amountOf, event, contract, identifier,
        if_pos moved, if_true, and_self]
      exact sumSettled once valid
    · have elsewhere : ¬ (f.token.contract = m.contract ∧ f.token.id = i) := by
        rintro ⟨contract, identifier⟩
        exact moved (by rw [← contract, ← identifier])
      simp [settledSame, Accounts.execute, Mined.amountOf, event, elsewhere, moved]
  | erc1155Batch => simp [event, Event.standard?] at kind
  | unknown => simp [event, Event.standard?] at kind

end Chain

namespace Sync

variable {s : Store} {id : String} {user : User} {features : List Feature} {f : Feature} {l : Accounts} {m : Mined}
  {before after : Reader} {accounts : List Address} {h : Holdings} {chain : Reader} {t : Token}

theorem countsFind (chain : Reader) (accounts : List Address) (features : List Feature) (h : Holdings) (t : Token) :
    (features.foldl (Recount.count chain accounts) h).owned.get? t =
      (h.owned.get? t).or ((features.find? (·.token = t)).map (Recount.owned chain accounts)) := by
  induction features generalizing h with
  | nil => simp
  | cons g rest ih =>
    rw [List.foldl_cons, ih, countOwned, List.find?_cons]
    by_cases own : g.token = t
    · subst own
      cases h.owned.get? g.token <;> simp
    · simp [own, Ne.symm own]

theorem firstBalance {r : Recount} {block : UInt64}
    (first : (r.features.find? (·.token = f.token)).map Feature.standard = some f.standard) :
    (r.holdings chain block).balance f.token =
      Recount.owned chain (r.user.wallets.map Wallet.address) f := by
  obtain ⟨g, found, standard⟩ := Option.map_eq_some_iff.mp first
  have token : g.token = f.token := by simpa using List.find?_some found
  rw [Recount.holdings, Holdings.balance, countsFind, found, ← ownedSame token standard]
  simp [Holdings.fresh]

theorem balanceSmall (h : Holdings) (t : Token) : (h.balance t).toNat ≤ UInt64.size - 1 :=
  Nat.le_sub_one_of_lt (h.balance t).toNat_lt

def passed (balance amount : Nat) (sends receives : Prop) [Decidable sends] [Decidable receives] : Nat :=
  min (balance - (if sends then min amount (UInt64.size - 1) else 0) +
    (if receives then min amount (UInt64.size - 1) else 0)) (UInt64.size - 1)

theorem passedNothing (h : Holdings) (t : Token) (sends receives : Prop) [Decidable sends] [Decidable receives] :
    passed (h.balance t).toNat 0 sends receives = (h.balance t).toNat := by
  rw [passed, Nat.zero_min, ite_self, ite_self, Nat.sub_zero, Nat.add_zero, Nat.min_eq_left (balanceSmall h t)]

theorem sharePassed (h : Holdings) (t u : Token) (w : Word) (sender? receiver? : Option String) (id : String) :
    ((h.apply (share sender? receiver? id [(moved u w).1] [(moved u w).2])).balance t).toNat =
      passed (h.balance t).toNat (if t = u then w.toNat else 0) (sender? = some id) (receiver? = some id) := by
  rw [shareMoved]
  split
  next => rw [clampNat, passed]
  next => rw [passedNothing]

theorem shareAmount (divisible : f.standard ≠ .erc721) (agrees : m.Agrees f) (id : String) :
    ∃ sender receiver given taken, m.event.endpoints? = some (sender, receiver) ∧
      changes m.contract m.event = (given, taken) ∧ given ≠ [] ∧ taken ≠ [] ∧
      ∀ (h : Holdings) (sender? receiver? : Option String),
        ((h.apply (share sender? receiver? id given taken)).balance f.token).toNat =
          passed (h.balance f.token).toNat (m.amountOf f.token) (sender? = some id) (receiver? = some id) := by
  obtain ⟨k, kind, own⟩ := agrees
  unfold Mined.amountOf
  cases event : m.event with
  | erc20 sender receiver amount =>
    exact ⟨sender, receiver, _, _, rfl, rfl, by simp, by simp, fun h sender? receiver? =>
      sharePassed h f.token (.fungible m.contract) amount sender? receiver? id⟩
  | erc721 sender receiver i =>
    cases event ▸ kind
    have elsewhere : f.token ≠ ⟨m.contract, i⟩ := fun same =>
      divisible (own (congrArg Token.contract same).symm).symm
    refine ⟨sender, receiver, _, _, rfl, rfl, by simp, by simp, fun h sender? receiver? => ?_⟩
    rw [shareSet, if_neg elsewhere, passedNothing]
  | erc1155 sender receiver i amount =>
    exact ⟨sender, receiver, _, _, rfl, rfl, by simp, by simp, fun h sender? receiver? =>
      sharePassed h f.token ⟨m.contract, i⟩ amount sender? receiver? id⟩
  | erc1155Batch => simp [event, Event.standard?] at kind
  | unknown => simp [event, Event.standard?] at kind

theorem transferBalance (divisible : f.standard ≠ .erc721) (agrees : m.Agrees f) (readable : Readable s)
    (found : s.holdings.get? id = some (.ok h)) (recent : h.block ≤ m.block) :
    ∃ sender receiver next, m.event.endpoints? = some (sender, receiver) ∧
      (applyTransfer m s).2.holdings.get? id = some (.ok next) ∧
      (next.balance f.token).toNat = passed (h.balance f.token).toNat (m.amountOf f.token)
        (userAt? s sender = some id) (userAt? s receiver = some id) := by
  obtain ⟨sender, receiver, given, taken, ends, changed, gives, takes, moves⟩ := shareAmount divisible agrees id
  rcases applyTransferStore (s := s) ends changed gives takes with ⟨unreadable, _⟩ | ⟨_, same⟩
  · exact absurd unreadable (readable _)
  · rw [same, deliverBoth, found, exchange]
    by_cases has : userAt? s sender = some id ∨ userAt? s receiver = some id
    · rw [if_pos has, receive, if_neg (UInt64.not_lt.mpr recent)]
      exact ⟨sender, receiver, _, ends, rfl, moves h _ _⟩
    · have nothing : share (userAt? s sender) (userAt? s receiver) id given taken = [] := by
        rw [share, if_neg fun gives => has (.inl gives), if_neg fun takes => has (.inr takes)]
        rfl
      have kept := moves h (userAt? s sender) (userAt? s receiver)
      rw [nothing, Holdings.applyNil] at kept
      rw [if_neg has]
      exact ⟨sender, receiver, h, ends, rfl, kept⟩

theorem mirroredReadable (m : s.Mirrored) : Readable s := by
  rintro _ ⟨user, fault, rfl, failed⟩
  obtain ⟨_, _, same, _⟩ := m.holdings user _ failed
  cases same

theorem mirroredUserAt (mirrored : s.Mirrored) (known : s.user id = .ok user) (a : Address) :
    userAt? s a = some id ↔ a ∈ user.wallets.map Wallet.address ∧ a ≠ .zero := by
  rw [memAccounts, userAt?]
  split
  next none => simp [none]
  next some => rw [mirrored.owner, Store.Mirrored.listed (Store.foundOk.mp known), and_iff_left some]

theorem mirroredOnce (mirrored : s.Mirrored) (known : s.user id = .ok user) :
    (user.wallets.map Wallet.address).Nodup := by
  obtain ⟨_, same, _, _, once⟩ := mirrored.users id _ (Store.foundOk.mp known)
  cases same
  exact addressesOnce once

/-- What a record comes to that counted a total, and of which the difference to a later total is then moved. -/
def remembered (total later : Nat) : Nat :=
  if UInt64.size - 1 < total ∧ later < total then UInt64.size - 1 - (total - later) else min later (UInt64.size - 1)

theorem passedTotal {total later amount : Nat} {p q : Prop} [Decidable p] [Decidable q]
    (law : later + (if p then amount else 0) = total + (if q then amount else 0)) (enough : p → amount ≤ total) :
    passed (min total (UInt64.size - 1)) amount p q = remembered total later := by
  unfold passed remembered
  by_cases sends : p <;> by_cases receives : q
  all_goals
    simp only [sends, receives, if_true, if_false, forall_const, false_implies] at law enough ⊢
    grind

theorem rememberedRight {total later : Nat} : remembered total later = min later (UInt64.size - 1) ↔
    ¬ (UInt64.size - 1 < total ∧ 0 < later ∧ later < total) := by
  have size : UInt64.size = 2 ^ 64 := rfl
  unfold remembered
  split <;> omega

def recorded? (s : Store) (id : String) (t : Token) : Option UInt64 :=
  ((s.holdings.get? id).bind Except.toOption).map (·.balance t)

def countedBefore (chain : Reader) (m : Mined) (id : String) (t : Token) (s : Store) : Option UInt64 :=
  match recount chain id s with
  | .ok (_, counted) => recorded? (applyTransfer m counted).2 id t
  | .error _ => none

def countedAfter (chain : Reader) (id : String) (t : Token) (s : Store) : Option UInt64 :=
  match recount chain id s with
  | .ok (_, counted) => recorded? counted id t
  | .error _ => none

def holding (l : Accounts) (user : User) (f : Feature) : Nat :=
  l.total (user.wallets.map Wallet.address) f.standard f.token

structure Around (s : Store) (id : String) (user : User) (features : List Feature) (f : Feature) (l : Accounts)
    (m : Mined) (before after : Reader) : Prop where
  known : s.user id = .ok user
  listed : s.allFeatures = .ok features
  divisible : f.standard ≠ .erc721
  first : (features.find? (·.token = f.token)).map Feature.standard = some f.standard
  agrees : m.Agrees f
  valid : l.Valid m
  past : ∃ block, before.block = .ok block ∧ block ≤ m.block
  later : ∃ block, after.block = .ok block
  tellsBefore : Tells before l (user.wallets.map Wallet.address) f
  tellsAfter : Tells after (l.settled m) (user.wallets.map Wallet.address) f

/-- A count after a transfer is of the total then, stopped at the greatest amount. A count before it that the
transfer is then applied to is the same, but where it had stopped at the greatest amount and the transfer takes
some of the total and not all of it. -/
theorem countThenTransfer (mirrored : s.Mirrored) (around : Around s id user features f l m before after) :
    ∃ early late, countedBefore before m id f.token s = some early ∧ countedAfter after id f.token s = some late ∧
      late.toNat = min (holding (l.settled m) user f) (UInt64.size - 1) ∧
      early.toNat = remembered (holding l user f) (holding (l.settled m) user f) ∧
      (early = late ↔ ¬ (UInt64.size - 1 < holding l user f ∧ 0 < holding (l.settled m) user f ∧
        holding (l.settled m) user f < holding l user f)) := by
  obtain ⟨start, begun, recent⟩ := around.past
  obtain ⟨stop, ended⟩ := around.later
  have counted := recountRun around.known around.listed begun
  have recounted := recountRun around.known around.listed ended
  have held : ((Recount.holdings ⟨user, id, features⟩ before start).balance f.token).toNat =
      min (holding l user f) (UInt64.size - 1) :=
    (congrArg UInt64.toNat (firstBalance around.first)).trans (ownedDivisible around.tellsBefore around.divisible)
  have late : ((Recount.holdings ⟨user, id, features⟩ after stop).balance f.token).toNat =
      min (holding (l.settled m) user f) (UInt64.size - 1) :=
    (congrArg UInt64.toNat (firstBalance around.first)).trans (ownedDivisible around.tellsAfter around.divisible)
  have written : ∀ h, (s.putHoldings id h).holdings.get? id = some (.ok h) := fun h => by simp [Store.putHoldings]
  obtain ⟨sender, receiver, next, ends, found, moved⟩ :=
    transferBalance around.divisible around.agrees (readablePut (mirroredReadable mirrored) id _) (written _)
      ((holdingsBlock ⟨user, id, features⟩ before start).1 ▸ recent)
  have whose : ∀ a, userAt? (s.putHoldings id (Recount.holdings ⟨user, id, features⟩ before start)) a = some id ↔
      a ∈ user.wallets.map Wallet.address ∧ a ≠ .zero := fun a =>
    (mirroredUserAt mirrored around.known a : userAt? s a = some id ↔ _)
  obtain ⟨law, enough⟩ := settledTotal (mirroredOnce mirrored around.known) around.valid around.divisible
    around.agrees ends
  simp only [← whose] at law enough
  have early : (next.balance f.token).toNat = remembered (holding l user f) (holding (l.settled m) user f) := by
    rw [moved, held]
    exact passedTotal law enough
  refine ⟨_, _, ?before, ?after, late, early, ?_⟩
  case before => simp only [countedBefore, counted, recorded?, found, Option.bind_some, Except.toOption, Option.map_some]
  case after => simp only [countedAfter, recounted, recorded?, written, Option.bind_some, Except.toOption, Option.map_some]
  rw [← UInt64.toNat_inj, early, late, rememberedRight]

def hoarder : User := ⟨"u", none, none, [purse], ⟨0, 0⟩, ⟨0, 0⟩⟩

def hoarderStore (features : List Feature) : Store :=
  (((Store.empty.own purse "u").putUser "u" hoarder).seed features).2

def hoard (amount : Nat) : Accounts where
  fungible c a := if c = 1 ∧ a = 1 then amount else 0
  multi _ _ _ := 0
  owner _ _ := none

def hoardReads (block : UInt64) (amount : Word) : Reader where
  block := .ok block
  fungible c a := .ok (if c = 1 ∧ a = 1 then amount else 0)
  owner _ _ := .ok .zero
  multi _ _ _ := .ok 0

def sale (amount : Word) : Mined := ⟨1, 101, none, .erc20 1 2 amount⟩

theorem hoarderMirrored : (hoarderStore [coin]).Mirrored := by
  have joined : ((Store.empty.own purse hoarder.id).putUser hoarder.id hoarder).Mirrored :=
    Store.mirroredJoin Store.mirroredEmpty rfl (by simp [hoarder]) fun v => by
      simp [hoarder, Store.Lists, Store.empty]
  exact joined.keep rfl rfl rfl rfl

theorem saleAround (held sent : Word) (enough : sent ≤ held) :
    Around (hoarderStore [coin]) "u" hoarder [coin] coin (hoard held.toNat) (sale sent) (hoardReads 100 held)
      (hoardReads 101 (held - sent)) where
  known := by decide
  listed := rfl
  divisible := by decide
  first := rfl
  agrees := ⟨.erc20, rfl, fun _ => rfl⟩
  valid := .inr enough
  past := ⟨100, rfl, show (100 : UInt64) ≤ 101 by decide⟩
  later := ⟨101, rfl⟩
  tellsBefore a member := by
    have own : a = 1 := by simpa [hoarder, purse] using member
    subst own
    exact ⟨held, rfl, rfl⟩
  tellsAfter a member := by
    have own : a = 1 := by simpa [hoarder, purse] using member
    subst own
    exact ⟨held - sent, rfl, BitVec.toNat_sub_of_le enough⟩

theorem countThenTransferOfAll :
    (hoarderStore [coin]).Mirrored ∧
    Around (hoarderStore [coin]) "u" hoarder [coin] coin (hoard 40000000000000000000) (sale 40000000000000000000)
      (hoardReads 100 40000000000000000000) (hoardReads 101 0) ∧
    countedBefore (hoardReads 100 40000000000000000000) (sale 40000000000000000000) "u" coin.token
      (hoarderStore [coin]) = countedAfter (hoardReads 101 0) "u" coin.token (hoarderStore [coin]) := by
  have around := saleAround 40000000000000000000 40000000000000000000 (by decide)
  obtain ⟨early, late, first, second, _, _, same⟩ := countThenTransfer hoarderMirrored around
  refine ⟨hoarderMirrored, around, first.trans (.trans (congrArg some (same.mpr ?_)) second.symm)⟩
  decide +kernel

def mistaken : Feature := ⟨"badge", ⟨1, 0⟩, 1, .erc721⟩

def gift : Mined := ⟨1, 101, none, .erc20 .zero 1 3⟩

/-- Whoever sells half of that is left with nothing by one order: the count that the sale is applied to had stopped
at the greatest amount. And where another feature of the token, by an earlier name, is of a standard that its contract
does not follow, a gift is all that one order records, and the other records nothing. -/
theorem saleOfHalfTakesAll :
    (hoarderStore [coin]).Mirrored ∧
    Around (hoarderStore [coin]) "u" hoarder [coin] coin (hoard 40000000000000000000) (sale 20000000000000000000)
      (hoardReads 100 40000000000000000000) (hoardReads 101 20000000000000000000) ∧
    countedBefore (hoardReads 100 40000000000000000000) (sale 20000000000000000000) "u" coin.token
      (hoarderStore [coin]) = some 0 ∧
    countedAfter (hoardReads 101 20000000000000000000) "u" coin.token (hoarderStore [coin]) =
      some 18446744073709551615 ∧
    (hoard 5).Valid gift ∧
    countedBefore (hoardReads 100 5) gift "u" coin.token (hoarderStore [mistaken, coin]) = some 3 ∧
    countedAfter (hoardReads 101 8) "u" coin.token (hoarderStore [mistaken, coin]) = some 0 :=
  ⟨hoarderMirrored, saleAround 40000000000000000000 20000000000000000000 (by decide),
    by decide +kernel, by decide +kernel, .inl rfl, by decide +kernel, by decide +kernel⟩

end Sync
end HolderGate
