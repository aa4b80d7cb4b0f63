import HolderGate.Proofs.ChainTotals
import HolderGate.Proofs.HoldingsChange
import HolderGate.Sync.Recount

/-! What a full count records. Where every read succeeds it is the total of the accounts for each gated
token, as far as a record counts. -/
namespace HolderGate.Sync
open Access Chain Identity

def Tells (chain : Reader) (l : Accounts) (accounts : List Address) (f : Feature) : Prop :=
  match f.standard with
  | .erc20 => ∀ a ∈ accounts, ∃ w, chain.fungible f.token.contract a = .ok w ∧
      w.toNat = l.fungible f.token.contract a
  | .erc1155 => ∀ a ∈ accounts, ∃ w, chain.multi f.token.contract f.token.id a = .ok w ∧
      w.toNat = l.multi f.token.contract f.token.id a
  | .erc721 => chain.owner f.token.contract f.token.id =
      .ok ((l.owner f.token.contract f.token.id).getD .zero)

variable {chain : Reader} {l : Accounts} {accounts : List Address} {f g : Feature} {features : List Feature}
  {r : Recount} {h : Holdings} {t : Token} {block : UInt64} {read : Address → Except ChainError Word}
  {balance : Address → Nat}

theorem saturatingNat (a b : Word) : (Word.saturatingAdd a b).toNat = min (a.toNat + b.toNat) (Word.limit - 1) := by
  have small : min (a.toNat + b.toNat) (Word.limit - 1) < 2 ^ 256 := by
    have : Word.limit = 2 ^ 256 := rfl
    omega
  rw [Word.saturatingAdd, BitVec.toNat_ofNat, Nat.mod_eq_of_lt small]

def adding (sum : Word) : Except ChainError Word → Word
  | .ok amount => Word.saturatingAdd sum amount
  | .error _ => sum

theorem totalAdding (reads : List (Except ChainError Word)) : Recount.total reads = reads.foldl adding 0 := rfl

def amount : Except ChainError Word → Nat
  | .ok w => w.toNat
  | .error _ => 0

theorem addingFrom (reads : List (Except ChainError Word)) (start : Word) :
    (reads.foldl adding start).toNat = min (start.toNat + (reads.map amount).sum) (Word.limit - 1) := by
  induction reads generalizing start with
  | nil =>
    have small := start.isLt
    have limit : Word.limit = 2 ^ 256 := rfl
    simp only [List.map_nil, List.foldl_nil, List.sum_nil]
    omega
  | cons read reads ih =>
    rw [List.foldl_cons, ih, List.map_cons, List.sum_cons]
    cases read with
    | ok w =>
      simp only [adding, amount, saturatingNat]
      omega
    | error e => simp only [adding, amount, Nat.zero_add]

theorem totalSum (reads : List (Except ChainError Word)) :
    (Recount.total reads).clamp.toNat = min (reads.map amount).sum (UInt64.size - 1) := by
  have sum := addingFrom reads 0
  have wider : UInt64.size - 1 ≤ Word.limit - 1 := by decide
  rw [clampNat, totalAdding, sum]
  simp only [BitVec.ofNat_eq_ofNat, BitVec.toNat_ofNat, Nat.zero_mod, Nat.zero_add]
  omega

theorem totalClamp (tells : ∀ a ∈ accounts, ∃ w, read a = .ok w ∧ w.toNat = balance a) :
    (Recount.total (accounts.map read)).clamp.toNat = min (accounts.map balance).sum (UInt64.size - 1) := by
  rw [totalSum, List.map_map]
  have told : ∀ a ∈ accounts, (amount ∘ read) a = balance a := by
    intro a member
    obtain ⟨w, succeeds, same⟩ := tells a member
    simp only [Function.comp_apply, succeeds, amount, same]
  rw [List.map_congr_left told]

theorem ownedDivisible (tells : Tells chain l accounts f) (divisible : f.standard ≠ .erc721) :
    (Recount.owned chain accounts f).toNat = min (l.total accounts f.standard f.token) (UInt64.size - 1) := by
  unfold Tells at tells
  unfold Recount.owned Accounts.total
  cases standard : f.standard with
  | erc20 => exact totalClamp (by simpa [standard] using tells)
  | erc1155 => exact totalClamp (by simpa [standard] using tells)
  | erc721 => exact absurd standard divisible

theorem ownedTotal (tells : Tells chain l accounts f) (zero : .zero ∉ accounts) :
    (Recount.owned chain accounts f).toNat = min (l.total accounts f.standard f.token) (UInt64.size - 1) := by
  by_cases divisible : f.standard = .erc721
  · unfold Tells at tells
    unfold Recount.owned Accounts.total
    simp only [divisible] at tells ⊢
    rw [tells]
    cases l.owner f.token.contract f.token.id with
    | none => simp [zero]
    | some holder =>
      by_cases member : holder ∈ accounts
      · simp [member]
      · simp [member]
  · exact ownedDivisible tells divisible

theorem ownedSame (token : f.token = g.token) (standard : f.standard = g.standard) :
    Recount.owned chain accounts f = Recount.owned chain accounts g := by
  unfold Recount.owned
  rw [token, standard]

theorem countOwned (h : Holdings) (f : Feature) (t : Token) :
    (Recount.count chain accounts h f).owned.get? t =
      if (h.owned.get? f.token).isNone ∧ t = f.token then some (Recount.owned chain accounts f)
      else h.owned.get? t := by
  unfold Recount.count SortedMap.contains
  cases found : h.owned.get? f.token <;> simp

theorem countHas (h : Holdings) (f : Feature) :
    ((Recount.count chain accounts h f).owned.get? f.token).isSome := by
  rw [countOwned]
  cases found : h.owned.get? f.token <;> simp

theorem countKeeps (f : Feature) (has : (h.owned.get? t).isSome) :
    ((Recount.count chain accounts h f).owned.get? t).isSome := by
  rw [countOwned]
  split
  next => rfl
  next => exact has

theorem countsHave (chain : Reader) (accounts : List Address) (features : List Feature) (h : Holdings)
    (has : (h.owned.get? t).isSome ∨ ∃ f ∈ features, f.token = t) :
    ((features.foldl (Recount.count chain accounts) h).owned.get? t).isSome := by
  induction features generalizing h with
  | nil =>
    rcases has with has | ⟨f, member, _⟩
    · exact has
    · simp at member
  | cons g rest ih =>
    refine ih _ ?_
    rcases has with has | ⟨f, member, rfl⟩
    · exact .inl (countKeeps g has)
    · rcases List.mem_cons.mp member with rfl | later
      · exact .inl (countHas h f)
      · exact .inr ⟨f, later, rfl⟩

def Recorded (chain : Reader) (accounts : List Address) (features : List Feature) (h : Holdings) : Prop :=
  ∀ f ∈ features, ∀ v, h.owned.get? f.token = some v → v = Recount.owned chain accounts f

theorem countRecorded (agree : ∀ f ∈ features, ∀ g ∈ features, f.token = g.token → f.standard = g.standard)
    (member : g ∈ features) (recorded : Recorded chain accounts features h) :
    Recorded chain accounts features (Recount.count chain accounts h g) := by
  intro f among v found
  rw [countOwned] at found
  split at found
  next own =>
    cases found
    exact ownedSame own.2.symm (agree g member f among own.2.symm)
  next => exact recorded f among v found

theorem countsRecorded (agree : ∀ f ∈ features, ∀ g ∈ features, f.token = g.token → f.standard = g.standard)
    {counted : List Feature} (members : ∀ f ∈ counted, f ∈ features) (h : Holdings)
    (recorded : Recorded chain accounts features h) :
    Recorded chain accounts features (counted.foldl (Recount.count chain accounts) h) := by
  induction counted generalizing h with
  | nil => exact recorded
  | cons g rest ih =>
    exact ih (fun f later => members f (List.mem_cons_of_mem _ later)) _
      (countRecorded agree (members g List.mem_cons_self) recorded)

theorem holdingsBalance (r : Recount) (chain : Reader) (block : UInt64)
    (agree : ∀ f ∈ r.features, ∀ g ∈ r.features, f.token = g.token → f.standard = g.standard)
    (member : f ∈ r.features) :
    (r.holdings chain block).balance f.token =
      Recount.owned chain (r.user.wallets.map Wallet.address) f := by
  have none : Recorded chain (r.user.wallets.map Wallet.address) r.features (.fresh r.id block) := by
    intro f _ v found
    simp [Holdings.fresh] at found
  have recorded := countsRecorded agree (fun f among => among) (.fresh r.id block) none
  have has := countsHave chain (r.user.wallets.map Wallet.address) r.features (.fresh r.id block)
    (.inr ⟨f, member, rfl⟩)
  obtain ⟨v, found⟩ := Option.isSome_iff_exists.mp has
  have value := recorded f member v found
  rw [Recount.holdings, Holdings.balance, found, Option.getD_some, value]

theorem holdingsBlock (r : Recount) (chain : Reader) (block : UInt64) :
    (r.holdings chain block).block = block ∧ (r.holdings chain block).user = r.id := by
  have kept : ∀ (features : List Feature) (h : Holdings),
      (features.foldl (Recount.count chain (r.user.wallets.map Wallet.address)) h).block = h.block ∧
      (features.foldl (Recount.count chain (r.user.wallets.map Wallet.address)) h).user = h.user := by
    intro features
    induction features with
    | nil => exact fun _ => ⟨rfl, rfl⟩
    | cons f rest ih =>
      intro h
      have same : (Recount.count chain (r.user.wallets.map Wallet.address) h f).block = h.block ∧
          (Recount.count chain (r.user.wallets.map Wallet.address) h f).user = h.user := by
        unfold Recount.count
        split <;> exact ⟨rfl, rfl⟩
      obtain ⟨block, user⟩ := ih (Recount.count chain (r.user.wallets.map Wallet.address) h f)
      exact ⟨block.trans same.1, user.trans same.2⟩
  exact kept r.features (.fresh r.id block)

theorem recountRun {s : Store} {id : String} {user : User} (known : s.user id = .ok user)
    (listed : s.allFeatures = .ok features) (current : chain.block = .ok block) :
    recount chain id s = .ok (Recount.holdings ⟨user, id, features⟩ chain block,
      s.putHoldings id (Recount.holdings ⟨user, id, features⟩ chain block)) := by
  have started : Recount.start id s = .ok ⟨user, id, features⟩ := by
    simp only [Recount.start, known, listed, bind, Except.bind]
  simp only [recount, started, Recount.finish, current, (holdingsBlock _ _ _).2]

end HolderGate.Sync
