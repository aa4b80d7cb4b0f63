import HolderGate.Proofs.AddressText
import HolderGate.Proofs.FullCount
import HolderGate.Proofs.TransferStep

/-! A full count, kept up to date by transfers. After every transfer that the chain allows the record of a
user is what a new count would record, and of the block of the last transfer that the user had a part in. -/
namespace HolderGate.Sync
open Access Chain Identity

def applyAll (events : List Mined) (s : Store) : Store := events.foldl (fun s m => (applyTransfer m s).2) s

def touches (accounts : List Address) (m : Mined) : Bool :=
  match m.event.endpoints? with
  | some (sender, receiver) => accounts.contains sender || accounts.contains receiver
  | none => false

def lastBlock (accounts : List Address) (start : UInt64) (events : List Mined) : UInt64 :=
  ((events.filter (touches accounts)).getLast?.map Mined.block).getD start

def Counts (features : List Feature) (accounts : List Address) (l : Accounts) (h : Holdings) : Prop :=
  ∀ f ∈ features, (h.balance f.token).toNat = l.total accounts f.standard f.token

structure Tracked (id : String) (features : List Feature) (accounts : List Address) (s : Store)
    (l : Accounts) (block : UInt64) : Prop where
  document : ∃ h, s.holdings.get? id = some (.ok h) ∧ h.block = block ∧ Counts features accounts l h
  linked : ∀ a, userAt? s a = some id ↔ a ∈ accounts
  readable : Readable s

variable {id : String} {features : List Feature} {accounts : List Address}
  {s : Store} {l : Accounts} {block : UInt64} {m : Mined} {h : Holdings} {t u : Token} {w : Word}
  {sender receiver : Address} {sender? receiver? : Option String} {given taken : List Delta} {f : Feature}

structure Watched (accounts : List Address) : Prop where
  once : accounts.Nodup
  zero : .zero ∉ accounts

def Names (features : List Feature) (contract : Address) (k : Standard) : Prop :=
  ∀ f ∈ features, f.token.contract = contract → f.standard = k

def Single (features : List Feature) (m : Mined) : Prop :=
  ∃ k, m.event.standard? = some k ∧ Names features m.contract k

def Bounded (features : List Feature) (accounts : List Address) (l : Accounts) : Prop :=
  ∀ f ∈ features, l.total accounts f.standard f.token ≤ UInt64.size - 1

theorem shareMoved (h : Holdings) (t u : Token) (w : Word) :
    ((h.apply (share sender? receiver? id [(moved u w).1] [(moved u w).2])).balance t).toNat =
      if t = u then
        min ((h.balance t).toNat - (if sender? = some id then w.clamp.toNat else 0) +
          (if receiver? = some id then w.clamp.toNat else 0)) (UInt64.size - 1)
      else (h.balance t).toNat := by
  have small := (h.balance t).toNat_lt
  have size : UInt64.size = 2 ^ 64 := rfl
  unfold share moved
  by_cases gives : sender? = some id <;> by_cases takes : receiver? = some id <;> by_cases same : t = u
  all_goals simp only [gives, takes, same, ↓reduceIte, List.nil_append, List.append_nil, List.cons_append,
    Holdings.applyCons, Holdings.applyNil, Holdings.changeBalance, Change.increaseNat, Change.decreaseNat]
  all_goals subst_vars; omega

theorem shareSet (h : Holdings) (t u : Token) :
    ((h.apply (share sender? receiver? id [⟨u, .set 0⟩] [⟨u, .set 1⟩])).balance t).toNat =
      if t = u then
        if receiver? = some id then 1 else if sender? = some id then 0 else (h.balance t).toNat
      else (h.balance t).toNat := by
  unfold share
  by_cases gives : sender? = some id <;> by_cases takes : receiver? = some id <;> by_cases same : t = u
  all_goals simp only [gives, takes, same, ↓reduceIte, List.nil_append, List.append_nil, List.cons_append,
    Holdings.applyCons, Holdings.applyNil, Holdings.changeBalance, Change.apply]
  all_goals rfl

theorem movedTotal {before later amount greatest : Nat} {p q : Prop} [Decidable p] [Decidable q]
    (law : later + (if p then amount else 0) = before + (if q then amount else 0)) (enough : p → amount ≤ before)
    (bound : before ≤ greatest) (next : later ≤ greatest) :
    min (before - (if p then min amount greatest else 0) + (if q then min amount greatest else 0)) greatest =
      later := by
  by_cases sends : p <;> by_cases receives : q
  all_goals
    simp only [sends, receives, if_true, if_false, forall_const, false_implies] at law enough ⊢
    omega

theorem tokenFungible (standard : f.standard = .erc20) : f.token = .fungible f.token.contract := by
  unfold Feature.token
  rw [standard]
  rfl

theorem countsMoved (counts : Counts features accounts l h)
    (gives : sender? = some id ↔ sender ∈ accounts) (takes : receiver? = some id ↔ receiver ∈ accounts)
    (law : ∀ f ∈ features, if f.token = u then
      (l.execute m).total accounts f.standard f.token + (if sender ∈ accounts then w.toNat else 0) =
        l.total accounts f.standard f.token + (if receiver ∈ accounts then w.toNat else 0) ∧
      (sender ∈ accounts → w.toNat ≤ l.total accounts f.standard f.token)
      else (l.execute m).total accounts f.standard f.token = l.total accounts f.standard f.token)
    (before : Bounded features accounts l) (later : Bounded features accounts (l.execute m)) :
    Counts features accounts (l.execute m)
      (h.apply (share sender? receiver? id [(moved u w).1] [(moved u w).2])) := by
  intro f member
  have law := law f member
  rw [shareMoved, counts f member]
  simp only [gives, takes, clampNat]
  split
  next same =>
    rw [if_pos same] at law
    exact movedTotal law.1 law.2 (before f member) (later f member)
  next other =>
    rw [if_neg other] at law
    exact law.symm

theorem countsFungible (watched : Watched accounts) (valid : l.Valid m)
    (event : m.event = .erc20 sender receiver w) (named : Names features m.contract .erc20)
    (counts : Counts features accounts l h) (before : Bounded features accounts l)
    (later : Bounded features accounts (l.execute m))
    (gives : sender? = some id ↔ sender ∈ accounts) (takes : receiver? = some id ↔ receiver ∈ accounts) :
    Counts features accounts (l.execute m) (h.apply (share sender? receiver? id
      [(moved (.fungible m.contract) w).1] [(moved (.fungible m.contract) w).2])) := by
  refine countsMoved counts gives takes (fun f member => ?_) before later
  by_cases own : f.token.contract = m.contract
  · have standard := named f member own
    have token : f.token = .fungible m.contract := by rw [← own, ← tokenFungible standard]
    rw [if_pos token, standard]
    exact Accounts.totalFungible l watched.once watched.zero valid event own
  · have other : f.token ≠ .fungible m.contract := fun same => own (congrArg Token.contract same)
    rw [if_neg other]
    exact Accounts.totalElsewhere l accounts f.standard own

theorem countsMulti {i : Word} (watched : Watched accounts) (valid : l.Valid m)
    (event : m.event = .erc1155 sender receiver i w) (named : Names features m.contract .erc1155)
    (counts : Counts features accounts l h) (before : Bounded features accounts l)
    (later : Bounded features accounts (l.execute m))
    (gives : sender? = some id ↔ sender ∈ accounts) (takes : receiver? = some id ↔ receiver ∈ accounts) :
    Counts features accounts (l.execute m) (h.apply (share sender? receiver? id
      [(moved ⟨m.contract, i⟩ w).1] [(moved ⟨m.contract, i⟩ w).2])) := by
  refine countsMoved counts gives takes (fun f member => ?_) before later
  by_cases own : f.token.contract = m.contract
  · have standard := named f member own
    rw [standard]
    split
    next same => exact Accounts.totalMulti l watched.once watched.zero valid event same
    next other => exact Accounts.totalMultiOther l accounts event other
  · have other : f.token ≠ ⟨m.contract, i⟩ := fun same => own (congrArg Token.contract same)
    rw [if_neg other]
    exact Accounts.totalElsewhere l accounts f.standard own

theorem countsUnique {i : Word} (watched : Watched accounts) (valid : l.Valid m)
    (event : m.event = .erc721 sender receiver i) (named : Names features m.contract .erc721)
    (counts : Counts features accounts l h)
    (gives : sender? = some id ↔ sender ∈ accounts) (takes : receiver? = some id ↔ receiver ∈ accounts) :
    Counts features accounts (l.execute m) (h.apply (share sender? receiver? id
      [⟨⟨m.contract, i⟩, .set 0⟩] [⟨⟨m.contract, i⟩, .set 1⟩])) := by
  intro f member
  rw [shareSet, counts f member]
  simp only [gives, takes]
  by_cases own : f.token.contract = m.contract
  · have standard := named f member own
    rw [standard]
    split
    next same =>
      obtain ⟨next, last⟩ := Accounts.totalUnique l watched.zero valid event same
      rw [next, last]
      by_cases sends : sender ∈ accounts <;> by_cases receives : receiver ∈ accounts <;>
        simp [sends, receives]
    next other => exact (Accounts.totalUniqueOther l accounts event other).symm
  · have other : f.token ≠ ⟨m.contract, i⟩ := fun same => own (congrArg Token.contract same)
    rw [if_neg other]
    exact (Accounts.totalElsewhere l accounts f.standard own).symm

theorem countsStep (watched : Watched accounts) (valid : l.Valid m) (single : Single features m)
    (linked : ∀ a, userAt? s a = some id ↔ a ∈ accounts)
    (counts : Counts features accounts l h) (before : Bounded features accounts l)
    (later : Bounded features accounts (l.execute m)) :
    ∃ sender receiver given taken, m.event.endpoints? = some (sender, receiver) ∧
      changes m.contract m.event = (given, taken) ∧ given ≠ [] ∧ taken ≠ [] ∧
      Counts features accounts (l.execute m)
        (h.apply (share (userAt? s sender) (userAt? s receiver) id given taken)) := by
  obtain ⟨k, kind, named⟩ := single
  cases event : m.event with
  | erc20 sender receiver w =>
    cases event ▸ kind
    exact ⟨sender, receiver, _, _, rfl, rfl, by simp, by simp, countsFungible watched valid event
      named counts before later (linked sender) (linked receiver)⟩
  | erc721 sender receiver i =>
    cases event ▸ kind
    exact ⟨sender, receiver, _, _, rfl, rfl, by simp, by simp, countsUnique watched valid event
      named counts (linked sender) (linked receiver)⟩
  | erc1155 sender receiver i w =>
    cases event ▸ kind
    exact ⟨sender, receiver, _, _, rfl, rfl, by simp, by simp, countsMulti watched valid event
      named counts before later (linked sender) (linked receiver)⟩
  | erc1155Batch => simp [event, Event.standard?] at kind
  | unknown => simp [event, Event.standard?] at kind

theorem trackedStep (watched : Watched accounts) (valid : l.Valid m) (single : Single features m)
    (order : block ≤ m.block)
    (before : Bounded features accounts l) (later : Bounded features accounts (l.execute m))
    (tracked : Tracked id features accounts s l block) :
    Tracked id features accounts (applyTransfer m s).2 (l.execute m)
      (if touches accounts m then m.block else block) := by
  obtain ⟨⟨h, found, current, counts⟩, linked, readable⟩ := tracked
  obtain ⟨sender, receiver, given, taken, ends, changed, gives, takes, next⟩ :=
    countsStep watched valid single linked counts before later
  rcases applyTransferStore ends changed gives takes with ⟨unreadable, _⟩ | ⟨_, same⟩
  · exact absurd unreadable (readable _)
  · refine ⟨?document, ?linked, readableTransfer readable m⟩
    all_goals rw [same]
    case document =>
      have part : touches accounts m = true ↔ userAt? s sender = some id ∨ userAt? s receiver = some id := by
        simp [touches, ends, linked]
      rw [deliverBoth, found, exchange]
      by_cases has : userAt? s sender = some id ∨ userAt? s receiver = some id
      · have fresh : ¬ m.block < h.block := by
          rw [current]
          exact UInt64.not_lt.mpr order
        rw [if_pos has, if_pos (part.mpr has), receive, if_neg fresh]
        exact ⟨_, rfl, rfl, next⟩
      · have nothing : share (userAt? s sender) (userAt? s receiver) id given taken = [] := by
          rw [share, if_neg fun gives => has (.inl gives), if_neg fun takes => has (.inr takes)]
          rfl
        rw [nothing, Holdings.applyNil] at next
        rw [if_neg has, if_neg (mt part.mp has)]
        exact ⟨h, rfl, current, next⟩
    case linked =>
      intro a
      rw [deliverUserAt, deliverUserAt]
      exact linked a

structure History (features : List Feature) (accounts : List Address) (l : Accounts) (start : UInt64)
    (events : List Mined) : Prop where
  valid : ∀ before m after, events = before ++ m :: after → (l.run before).Valid m
  single : ∀ m ∈ events, Single features m
  recent : ∀ m ∈ events, start ≤ m.block
  ordered : events.Pairwise (fun m n => m.block ≤ n.block)
  bounded : ∀ before after, events = before ++ after → Bounded features accounts (l.run before)

variable {start : UInt64} {events before after : List Mined}

theorem History.prior (history : History features accounts l start (before ++ after)) :
    History features accounts l start before where
  valid first m rest same := history.valid first m (rest ++ after) (by simp [same])
  single m member := history.single m (List.mem_append_left _ member)
  recent m member := history.recent m (List.mem_append_left _ member)
  ordered := (List.pairwise_append.mp history.ordered).1
  bounded first rest same := history.bounded first (rest ++ after) (by simp [same])

theorem History.tail (history : History features accounts l start (m :: events)) :
    History features accounts (l.execute m) (if touches accounts m then m.block else start) events where
  valid first n rest same := history.valid (m :: first) n rest (by simp [same])
  single n member := history.single n (List.mem_cons_of_mem _ member)
  recent n member := by
    split
    next => exact (List.pairwise_cons.mp history.ordered).1 n member
    next => exact history.recent n (List.mem_cons_of_mem _ member)
  ordered := (List.pairwise_cons.mp history.ordered).2
  bounded first rest same := history.bounded (m :: first) rest (by simp [same])

theorem historyNil (bounded : Bounded features accounts l) :
    History features accounts l start [] where
  valid first n rest same := by simp at same
  single n member := by simp at member
  recent n member := by simp at member
  ordered := .nil
  bounded first rest same := by
    obtain ⟨rfl, _⟩ := List.append_eq_nil_iff.mp same.symm
    exact bounded

theorem historyCons (valid : l.Valid m) (single : Single features m)
    (recent : start ≤ m.block) (bounded : Bounded features accounts l)
    (rest : History features accounts (l.execute m) m.block events) :
    History features accounts l start (m :: events) where
  valid first n others same := by
    cases first with
    | nil =>
      cases same
      exact valid
    | cons head first =>
      cases same
      exact rest.valid first n others rfl
  single n member := by
    rcases List.mem_cons.mp member with rfl | later
    · exact single
    · exact rest.single n later
  recent n member := by
    rcases List.mem_cons.mp member with rfl | later
    · exact recent
    · exact UInt64.le_trans recent (rest.recent n later)
  ordered := List.pairwise_cons.mpr ⟨rest.recent, rest.ordered⟩
  bounded first others same := by
    cases first with
    | nil => exact bounded
    | cons head first =>
      cases same
      exact rest.bounded first others rfl

theorem lastBlockCons (accounts : List Address) (start : UInt64) (m : Mined) (events : List Mined) :
    lastBlock accounts start (m :: events) =
      lastBlock accounts (if touches accounts m then m.block else start) events := by
  unfold lastBlock
  rw [List.filter_cons]
  split
  next =>
    rw [List.getLast?_cons]
    cases (events.filter (touches accounts)).getLast? <;> rfl
  next => rfl

theorem trackedRun (watched : Watched accounts)
    (history : History features accounts l start events)
    (tracked : Tracked id features accounts s l start) :
    Tracked id features accounts (applyAll events s) (l.run events) (lastBlock accounts start events) := by
  induction events generalizing s l start with
  | nil => exact tracked
  | cons m rest ih =>
    have bounded : Bounded features accounts l := history.bounded [] (m :: rest) rfl
    have later : Bounded features accounts (l.execute m) := history.bounded [m] rest rfl
    -- The document is of the block of a transfer before, so the order of blocks lets this one through.
    have next := trackedStep watched (history.valid [] m rest rfl) (history.single m List.mem_cons_self)
      (history.recent m List.mem_cons_self) bounded later tracked
    rw [lastBlockCons]
    exact ih history.tail next

structure Counted (chain : Reader) (l : Accounts) (id : String) (user : User) (features : List Feature)
    (start : UInt64) (s : Store) : Prop where
  written : ∃ origin h later, origin.user id = .ok user ∧ origin.allFeatures = .ok features ∧
    recount chain id origin = .ok (h, later) ∧ s.holdings.get? id = some (.ok h)
  current : chain.block = .ok start
  tells : ∀ f ∈ features, Tells chain l (user.wallets.map Wallet.address) f

structure Linked (s : Store) (id : String) (user : User) : Prop where
  whose : ∀ w, s.owner? w = some id ↔ w ∈ user.wallets
  once : user.wallets.Nodup
  zero : .ofAddress .zero ∉ user.wallets

theorem memAccounts {user : User} {a : Address} :
    a ∈ user.wallets.map Wallet.address ↔ .ofAddress a ∈ user.wallets := by
  rw [List.mem_map]
  constructor
  · rintro ⟨w, member, rfl⟩
    rw [Wallet.ofAddressAddress]
    exact member
  · exact fun member => ⟨_, member, Wallet.addressOfAddress a⟩

theorem Linked.userAt {user : User} (linked : Linked s id user) (a : Address) :
    userAt? s a = some id ↔ a ∈ user.wallets.map Wallet.address := by
  rw [memAccounts, userAt?]
  split
  next none => simp [none, linked.zero]
  next => exact linked.whose _

theorem addressesOnce {wallets : List Wallet} (once : wallets.Nodup) : (wallets.map Wallet.address).Nodup := by
  refine List.Pairwise.map Wallet.address (fun v w differ same => differ ?_) once
  rw [← Wallet.ofAddressAddress v, same, Wallet.ofAddressAddress]

theorem Linked.accountsOnce {user : User} (linked : Linked s id user) :
    (user.wallets.map Wallet.address).Nodup := addressesOnce linked.once

theorem countedTracked {chain : Reader} {user : User} (counted : Counted chain l id user features start s)
    (linked : Linked s id user) (watched : Watched (user.wallets.map Wallet.address)) (readable : Readable s)
    (named : ∀ c, ∃ k, Names features c k)
    (bounded : Bounded features (user.wallets.map Wallet.address) l) :
    Tracked id features (user.wallets.map Wallet.address) s l start := by
  obtain ⟨origin, h, later, known, listed, ran, found⟩ := counted.written
  rw [recountRun known listed counted.current] at ran
  cases ran
  have agree : ∀ f ∈ features, ∀ g ∈ features, f.token = g.token → f.standard = g.standard := by
    intro f hf g hg same
    obtain ⟨k, named⟩ := named f.token.contract
    rw [named f hf rfl, named g hg (by rw [same])]
  refine ⟨⟨_, found, (holdingsBlock _ _ _).1, ?_⟩, linked.userAt, readable⟩
  intro f member
  rw [holdingsBalance _ _ _ agree member, ownedTotal (counted.tells f member) watched.zero]
  exact Nat.min_eq_left (bounded f member)

/-- A full count and the transfers after it have, at every point, what the accounts of the user have. -/
theorem transfersKeepCount {chain : Reader} {user : User}
    (counted : Counted chain l id user features start s) (linked : Linked s id user) (readable : Readable s)
    (named : ∀ c, ∃ k, Names features c k)
    (history : History features (user.wallets.map Wallet.address) l start events) :
    ∀ before after, events = before ++ after →
      ∃ h, (applyAll before s).holdings.get? id = some (.ok h) ∧
        (∀ f ∈ features, (h.balance f.token).toNat =
          (l.run before).total (user.wallets.map Wallet.address) f.standard f.token) ∧
        h.block = lastBlock (user.wallets.map Wallet.address) start before := by
  rintro before after rfl
  have watched : Watched (user.wallets.map Wallet.address) :=
    ⟨linked.accountsOnce, mt memAccounts.mp linked.zero⟩
  have tracked := countedTracked counted linked watched readable named (history.bounded [] _ rfl)
  obtain ⟨⟨h, found, block, counts⟩, _, _⟩ := trackedRun watched history.prior tracked
  exact ⟨h, found, counts, block⟩

def coin : Feature := ⟨"coin", ⟨1, 0⟩, 1, .erc20⟩

def deed : Feature := ⟨"deed", ⟨2, 7⟩, 1, .erc721⟩

def purse : Wallet := .ofAddress 1

def safe : Wallet := .ofAddress 2

def holder : User := ⟨"u", none, none, [purse, safe], ⟨0, 0⟩, ⟨0, 0⟩⟩

def holderAccounts : Accounts where
  fungible c a := if c = 1 ∧ a = 1 then 5 else 0
  multi _ _ _ := 0
  owner c i := if c = 2 ∧ i = 7 then some 2 else none

def holderReads : Reader where
  block := .ok 10
  fungible c a := .ok (if c = 1 ∧ a = 1 then 5 else 0)
  owner _ _ := .ok 2
  multi _ _ _ := .ok 0

def holderStore : Store :=
  { (Store.empty.own purse "u").own safe "u" with
    users := .insert .empty "u" (.ok holder)
    features := .insert (.insert .empty "coin" (.ok coin)) "deed" (.ok deed) }

def coinsThenDeed : List Mined := [⟨1, 11, none, .erc20 1 2 2⟩, ⟨2, 12, none, .erc721 2 3 7⟩]

def holderCounted : Store :=
  holderStore.putHoldings "u" (Recount.holdings ⟨holder, "u", [coin, deed]⟩ holderReads 10)

def follows (c : Address) : Standard := if c = 1 then .erc20 else .erc721

theorem holderNames (c : Address) : Names [coin, deed] c (follows c) := by
  rintro f member rfl
  rcases List.mem_cons.mp member with rfl | member
  · rfl
  · cases List.mem_singleton.mp member
    rfl

theorem holderCounts : Counted holderReads holderAccounts "u" holder [coin, deed] 10 holderCounted where
  written := by
    have known : holderStore.user "u" = .ok holder := by
      simp [Store.user, Store.found, holderStore, Store.opened]
    have listed : holderStore.allFeatures = .ok [coin, deed] := by rfl
    exact ⟨holderStore, _, _, known, listed, recountRun known listed rfl, by simp [holderCounted, Store.putHoldings]⟩
  current := rfl
  tells f member := by
    rcases List.mem_cons.mp member with rfl | member
    · intro a _
      refine ⟨_, rfl, ?_⟩
      simp only [holderAccounts]
      split <;> rfl
    · cases List.mem_singleton.mp member
      rfl

theorem holderLinked : Linked holderCounted "u" holder where
  whose w := by
    have owner : holderCounted.owner? w = some "u" ↔ w.text = safe.text ∨ w.text = purse.text := by
      simp only [Store.owner?, holderCounted, holderStore, Store.putHoldings, Store.own, SortedMap.getInsert]
      by_cases second : w.text = safe.text <;> by_cases first : w.text = purse.text <;>
        simp [first, second, Store.empty]
    have same : ∀ v : Wallet, w.text = v.text ↔ w = v := fun v => ⟨Wallet.same, congrArg Wallet.text⟩
    rw [owner, same, same]
    simp [holder, or_comm]
  once := by decide
  zero := by decide

theorem holderWallets : holder.wallets.map Wallet.address = [1, 2] := by simp [holder, purse, safe]

theorem holderHistory :
    History [coin, deed] (holder.wallets.map Wallet.address) holderAccounts 10 coinsThenDeed := by
  rw [holderWallets]
  have bounded : ∀ l : Accounts, l.total [1, 2] .erc20 coin.token ≤ 5 → Bounded [coin, deed] [1, 2] l := by
    intro l few f member
    rcases List.mem_cons.mp member with rfl | member
    · exact Nat.le_trans few (by decide)
    · cases List.mem_singleton.mp member
      exact Nat.le_trans (l.totalUniqueSmall _ _) (by decide)
  refine historyCons (.inr (by decide)) ⟨.erc20, rfl, holderNames 1⟩ (by decide) (bounded _ (by decide)) ?_
  refine historyCons rfl ⟨.erc721, rfl, holderNames 2⟩ (by decide) (bounded _ (by decide)) ?_
  exact historyNil (bounded _ (by decide))

theorem transfersKeepCountOfTwo :
    Counted holderReads holderAccounts "u" holder [coin, deed] 10 holderCounted ∧
      Linked holderCounted "u" holder ∧
      History [coin, deed] (holder.wallets.map Wallet.address) holderAccounts 10 coinsThenDeed ∧
      ∃ h, (applyAll coinsThenDeed holderCounted).holdings.get? "u" = some (.ok h) ∧
        (h.balance coin.token).toNat = 5 ∧ (h.balance deed.token).toNat = 0 ∧ h.block = 12 := by
  have none : Readable holderStore := by
    rintro _ ⟨other, fault, _, failed⟩
    simp [holderStore, Store.own, Store.empty] at failed
  have readable : Readable holderCounted := readablePut none "u" _
  obtain ⟨h, found, counts, block⟩ :=
    transfersKeepCount holderCounts holderLinked readable (fun c => ⟨follows c, holderNames c⟩) holderHistory
      coinsThenDeed [] rfl
  rw [holderWallets] at counts block
  refine ⟨holderCounts, holderLinked, holderHistory, h, found, ?_, ?_, ?_⟩
  · rw [counts coin (by simp)]
    decide
  · rw [counts deed (by simp)]
    decide
  · rw [block]
    decide

end HolderGate.Sync
