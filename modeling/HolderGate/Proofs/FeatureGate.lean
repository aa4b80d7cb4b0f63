import HolderGate.Proofs.CountOrder
import HolderGate.Proofs.LiveDocument

/-! The features that a full count unlocks. A record is of a token, whatever its standard, so a feature is measured by
what the user has under the standard of the first feature of its token, which is mostly its own. -/
namespace HolderGate
open Access Chain Identity

namespace Store

def Catalogued (s : Store) : Prop := Named Feature.name s.features

variable {s later : Store} {f : Feature}

theorem cataloguedInsert (catalogued : s.Catalogued) (added : s.insertFeature f = .ok later) : later.Catalogued := by
  unfold insertFeature at added
  split at added
  next => contradiction
  next =>
    cases added
    exact catalogued.put f

theorem cataloguedSeed (catalogued : s.Catalogued) (features : List Feature) : (s.seed features).2.Catalogued := by
  unfold seed
  refine List.foldlRecOn (motive := fun seeded : Nat × Store => seeded.2.Catalogued) features _ catalogued ?_
  rintro ⟨added, between⟩ before f _
  simp only
  split
  next inserted => exact cataloguedInsert before inserted
  next => exact before

end Store

namespace Sync

variable {s : Store} {id : String} {user : User} {features : List Feature} {f g : Feature} {l : Accounts}
  {chain : Reader} {accounts : List Address} {block : UInt64}

def Reads (chain : Reader) (l : Accounts) (accounts : List Address) (f : Feature) : Prop :=
  Tells chain l accounts f ∧ (f.standard = .erc721 → (l.owner f.token.contract f.token.id).isSome)

def countedAs (features : List Feature) (f : Feature) : Standard :=
  ((features.find? (·.token = f.token)).map Feature.standard).getD f.standard

theorem countedAsOwn (agree : ∀ g ∈ features, g.token = f.token → g.standard = f.standard) :
    countedAs features f = f.standard := by
  unfold countedAs
  cases found : features.find? (·.token = f.token) with
  | none => rfl
  | some g => exact agree g (List.mem_of_find?_eq_some found) (by simpa using List.find?_some found)

theorem ownedReads (reads : Reads chain l accounts f) :
    (Recount.owned chain accounts f).toNat = min (l.total accounts f.standard f.token) (UInt64.size - 1) := by
  obtain ⟨tells, settled⟩ := reads
  by_cases divisible : f.standard = .erc721
  · obtain ⟨holder, owned⟩ := Option.isSome_iff_exists.mp (settled divisible)
    simp only [Tells, divisible, owned, Option.getD_some] at tells
    simp only [Recount.owned, Accounts.total, divisible, tells, owned]
    split <;> rfl
  · exact ownedDivisible tells divisible

theorem countedBalance (reads : ∀ g ∈ features, Reads chain l (user.wallets.map Wallet.address) g)
    (member : f ∈ features) :
    ((Recount.holdings ⟨user, id, features⟩ chain block).balance f.token).toNat =
      min (l.total (user.wallets.map Wallet.address) (countedAs features f) f.token) (UInt64.size - 1) := by
  have first : (features.find? (·.token = f.token)).isSome := List.find?_isSome.mpr ⟨f, member, by simp⟩
  obtain ⟨g, found⟩ := Option.isSome_iff_exists.mp first
  have token : g.token = f.token := by simpa using List.find?_some found
  have standard : countedAs features f = g.standard := by simp only [countedAs, found, Option.map_some, Option.getD_some]
  have counted := ownedReads (reads g (List.mem_of_find?_eq_some found))
  rw [standard, ← token, ← counted, firstBalance]
  simp only [token, found, Option.map_some]

theorem unlocksTotal {h : Holdings} {total : Nat} (balance : (h.balance f.token).toNat = min total (UInt64.size - 1)) :
    h.unlocks f = decide (f.threshold.toNat ≤ total) := by
  have small := f.threshold.toNat_lt
  have size : UInt64.size = 2 ^ 64 := rfl
  have reached : f.threshold ≤ h.balance f.token ↔ f.threshold.toNat ≤ total := by
    rw [UInt64.le_iff_toNat_le, balance]
    omega
  rw [Holdings.unlocks, decide_eq_decide]
  exact reached

/-- Where every read succeeds, a full count succeeds, and then unlocks the features of which the user has enough by
the standard of the first feature of the token. That is the feature's own unless features of one token differ. -/
theorem gatingByFirst (catalogued : s.Catalogued) (known : s.user id = .ok user) (current : chain.block = .ok block)
    (reads : ∀ f, s.feature f.name = .ok f → Reads chain l (user.wallets.map Wallet.address) f) :
    ∃ features h later, s.allFeatures = .ok features ∧
      features.Pairwise (fun f g => compare f.name g.name = .lt) ∧ (∀ f, f ∈ features ↔ s.feature f.name = .ok f) ∧
      recount chain id s = .ok (h, later) ∧
      later.featuresOf id = .ok (features.filter fun f =>
        f.threshold.toNat ≤ l.total (user.wallets.map Wallet.address) (countedAs features f) f.token) ∧
      ∀ f ∈ features, (∀ g ∈ features, g.token = f.token → g.standard = f.standard) →
        countedAs features f = f.standard := by
  obtain ⟨features, entries⟩ := catalogued.listed
  have listed : s.allFeatures = .ok features := Store.listedRead entries
  have member : ∀ f, f ∈ features ↔ s.feature f.name = .ok f := fun f =>
    (Store.listedMember entries).trans Store.foundOk.symm
  have all : ∀ g ∈ features, Reads chain l (user.wallets.map Wallet.address) g := fun g among =>
    reads g ((member g).mp among)
  refine ⟨features, _, _, listed, Store.listedAscending entries, member, recountRun known listed current, ?unlocked,
    fun f _ agree => countedAsOwn agree⟩
  case unlocked =>
    have found : (s.putHoldings id (Recount.holdings ⟨user, id, features⟩ chain block)).holdings.get? id =
        some (.ok (Recount.holdings ⟨user, id, features⟩ chain block)) := by simp [Store.putHoldings]
    have same : (s.putHoldings id (Recount.holdings ⟨user, id, features⟩ chain block)).allFeatures = .ok features :=
      listed
    simp only [Store.featuresOf, found, Store.opened, same, bind, Except.bind, Holdings.unlocked]
    exact congrArg Except.ok (List.filter_congr fun f among => unlocksTotal (countedBalance all among))

def landed : Accounts := { hoard 5 with owner := fun _ _ => some 9 }

def landedReads : Reader := { hoardReads 100 5 with owner := fun _ _ => .ok 9 }

theorem landedTells (f : Feature) : Reads landedReads landed (hoarder.wallets.map Wallet.address) f := by
  refine ⟨?_, fun _ => rfl⟩
  unfold Tells
  cases f.standard with
  | erc20 =>
    intro a _
    refine ⟨_, rfl, ?_⟩
    simp only [landed, hoard]
    split <;> rfl
  | erc1155 => exact fun a _ => ⟨0, rfl, rfl⟩
  | erc721 => rfl

theorem hoarderCatalogued (features : List Feature) : (hoarderStore features).Catalogued :=
  Store.cataloguedSeed (s := (Store.empty.own purse "u").putUser "u" hoarder) Store.namedEmpty features

theorem gatingByFirstOfCoin :
    (hoarderStore [coin, deed]).Catalogued ∧ (hoarderStore [coin, deed]).user "u" = .ok hoarder ∧
      landedReads.block = .ok 100 ∧
      (∀ f, Reads landedReads landed (hoarder.wallets.map Wallet.address) f) ∧
      ∃ h later, recount landedReads "u" (hoarderStore [coin, deed]) = .ok (h, later) ∧
        later.featuresOf "u" = .ok [coin] := by
  have known : (hoarderStore [coin, deed]).user "u" = .ok hoarder := by decide +kernel
  obtain ⟨features, h, later, listed, _, _, ran, unlocked, _⟩ :=
    gatingByFirst (hoarderCatalogued [coin, deed]) known (show landedReads.block = .ok 100 from rfl)
      fun f _ => landedTells f
  have all : (hoarderStore [coin, deed]).allFeatures = .ok [coin, deed] := rfl
  cases all.symm.trans listed
  refine ⟨hoarderCatalogued _, known, rfl, landedTells, h, later, ran, unlocked.trans ?_⟩
  decide +kernel

def crest : Feature := ⟨"crest", ⟨1, 0⟩, 1, .erc721⟩

theorem coinsUnlockCrest :
    (hoarderStore [coin, crest]).Catalogued ∧ (hoarderStore [coin, crest]).user "u" = .ok hoarder ∧
      (∀ f, Reads landedReads landed (hoarder.wallets.map Wallet.address) f) ∧
      (∃ h later, recount landedReads "u" (hoarderStore [coin, crest]) = .ok (h, later) ∧
        later.featuresOf "u" = .ok [coin, crest]) ∧
      holding landed hoarder crest < crest.threshold.toNat := by
  have known : (hoarderStore [coin, crest]).user "u" = .ok hoarder := by decide +kernel
  have listed : (hoarderStore [coin, crest]).allFeatures = .ok [coin, crest] := rfl
  have ran := recountRun known listed (show landedReads.block = .ok 100 from rfl)
  refine ⟨hoarderCatalogued _, known, landedTells, ⟨_, _, ran, ?_⟩, ?_⟩ <;> decide +kernel

end Sync
end HolderGate
