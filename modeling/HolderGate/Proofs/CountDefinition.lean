import Mathlib.Data.List.Nodup
import Mathlib.Data.Set.List
import HolderGate.Proofs.AccountHistory
import HolderGate.Proofs.FeatureGate

/-! A full count by its definition. It depends on the wallets of the user and on the features by name, and not on the
order in which either came, nor on what was counted before. -/
namespace HolderGate
open Access Chain Identity

namespace Store

structure Legible (s : Store) : Prop where
  users : ∀ {id document}, s.users.get? id = some document → ∃ u, document = .ok u
  features : ∀ {name document}, s.features.get? name = some document → ∃ f, document = .ok f

def FirstOf (s : Store) (t : Token) (f : Feature) : Prop :=
  ∃ name, s.feature name = .ok f ∧ f.token = t ∧
    ∀ other g, s.feature other = .ok g → g.token = t → (compare name other).isLE

variable {s : Store} {named : List (String × Feature)} {f : Feature} {t : Token} {name : String}

theorem Legible.catalogue (legible : s.Legible) : ∃ named : List (String × Feature),
    s.features.entries = named.map fun e => (e.1, .ok e.2) := by
  obtain ⟨named, same⟩ : s.features.entries ∈ Set.range (List.map fun e : String × Feature => (e.1, .ok e.2)) := by
    rw [Set.range_list_map]
    intro e listed
    obtain ⟨f, readable⟩ := legible.features (SortedMap.getSome.mpr listed)
    exact ⟨(e.1, f), Prod.ext rfl readable.symm⟩
  exact ⟨named, same.symm⟩

theorem catalogueRead (listed : s.features.entries = named.map fun e => (e.1, .ok e.2)) :
    s.allFeatures = .ok (named.map Prod.snd) := by
  have opened := openedAll (named.map Prod.snd)
  rw [List.map_map] at opened
  rw [allFeatures, SortedMap.values, listed, List.map_map]
  exact opened

theorem catalogueMember (listed : s.features.entries = named.map fun e => (e.1, .ok e.2)) :
    s.feature name = .ok f ↔ (name, f) ∈ named := by
  rw [feature, foundOk, SortedMap.getSome, listed]
  constructor
  · intro among
    obtain ⟨e, member, same⟩ := List.mem_map.mp among
    cases same
    exact member
  · exact fun member => List.mem_map.mpr ⟨_, member, rfl⟩

theorem firstFound (listed : s.features.entries = named.map fun e => (e.1, .ok e.2)) :
    (named.map Prod.snd).find? (·.token = t) = some f ↔ s.FirstOf t f := by
  have ascending : named.Pairwise fun a b => compare a.1 b.1 = .lt := by
    have ascending := s.features.ascending
    rwa [listed, List.pairwise_map] at ascending
  have first : ∀ g, (named.map Prod.snd).find? (·.token = t) = some g → s.FirstOf t g := by
    intro g found
    rw [List.find?_map] at found
    obtain ⟨e, earliest, rfl⟩ := Option.map_eq_some_iff.mp found
    obtain ⟨member, token, least⟩ := SortedMap.findLeast ascending earliest
    refine ⟨e.1, (catalogueMember listed).mpr member, by simpa using token, ?_⟩
    intro other g among same
    exact least (other, g) ((catalogueMember listed).mp among) (by simpa using same)
  constructor
  · exact first f
  · intro least
    obtain ⟨name, present, token, before⟩ := least
    have among : f ∈ named.map Prod.snd := List.mem_map.mpr ⟨_, (catalogueMember listed).mp present, rfl⟩
    cases found : (named.map Prod.snd).find? (·.token = t) with
    | none => exact absurd (by simpa using token) (List.find?_eq_none.mp found f among)
    | some g =>
      obtain ⟨other, stored, same, earliest⟩ := first g found
      have equal : name = other := Std.LawfulEqCmp.eq_of_compare
        (Std.OrientedCmp.isLE_antisymm (before other g stored same) (earliest name f present token))
      rw [equal, stored] at present
      cases present
      rfl

theorem firstExists (listed : s.features.entries = named.map fun e => (e.1, .ok e.2)) :
    (∃ f, s.FirstOf t f) ↔ ∃ name f, s.feature name = .ok f ∧ f.token = t := by
  constructor
  · intro first
    obtain ⟨f, name, present, token, _⟩ := first
    exact ⟨name, f, present, token⟩
  · intro some
    obtain ⟨name, f, present, token⟩ := some
    have among : f ∈ named.map Prod.snd := List.mem_map.mpr ⟨_, (catalogueMember listed).mp present, rfl⟩
    have found : ((named.map Prod.snd).find? (·.token = t)).isSome :=
      List.find?_isSome.mpr ⟨f, among, by simpa using token⟩
    obtain ⟨g, first⟩ := Option.isSome_iff_exists.mp found
    exact ⟨g, (firstFound listed).mp first⟩

theorem insertGet (added : Nat) (s : Store) (f : Feature) (name : String) :
    (match s.insertFeature f with
      | .ok s => (added + 1, s)
      | .error _ => (added, s)).2.features.get? name =
      (s.features.get? name).or (if f.name = name then some (.ok f) else none) := by
  unfold insertFeature SortedMap.contains
  by_cases own : f.name = name
  · subst own
    cases taken : s.features.get? f.name <;> simp [taken]
  · cases taken : s.features.get? f.name <;> simp [own, Ne.symm own]

theorem seedGet (features : List Feature) (s : Store) (name : String) : (s.seed features).2.features.get? name =
    (s.features.get? name).or ((features.find? (·.name = name)).map .ok) := by
  unfold seed
  show (features.foldl _ (0, s)).2.features.get? name = ((0, s).2.features.get? name).or _
  generalize (0, s) = start
  induction features generalizing start with
  | nil => simp
  | cons f features ih =>
    obtain ⟨added, s⟩ := start
    rw [List.foldl_cons, ih, List.find?_cons]
    refine (congrArg (Option.or · _) (insertGet added s f name)).trans ?_
    by_cases own : f.name = name
    · simp [own]
    · simp [own]

theorem seedSame {features others : List Feature} (same : features.Perm others)
    (distinct : (features.map Feature.name).Nodup) (s : Store) : (s.seed features).2 = (s.seed others).2 := by
  have rearranged : (others.map Feature.name).Nodup := (same.map Feature.name).nodup_iff.mp distinct
  have named : ∀ all : List Feature, (all.map Feature.name).Nodup → ∀ name f,
      all.find? (·.name = name) = some f ↔ f ∈ all ∧ f.name = name := by
    intro all apart name f
    constructor
    · intro found
      exact ⟨List.mem_of_find?_eq_some found, by simpa using List.find?_some found⟩
    · intro present
      obtain ⟨member, rfl⟩ := present
      have some : (all.find? (·.name = f.name)).isSome := List.find?_isSome.mpr ⟨f, member, by simp⟩
      obtain ⟨g, found⟩ := Option.isSome_iff_exists.mp some
      have own : g.name = f.name := by simpa using List.find?_some found
      rw [found, List.inj_on_of_nodup_map apart (List.mem_of_find?_eq_some found) member own]
  obtain ⟨table, seeded⟩ := Service.seedFeatures features s
  obtain ⟨other, reseeded⟩ := Service.seedFeatures others s
  have equal : table = other := by
    refine SortedMap.extensional fun name => ?_
    have one := seedGet features s name
    have two := seedGet others s name
    rw [seeded] at one
    rw [reseeded] at two
    have found : features.find? (·.name = name) = others.find? (·.name = name) := by
      refine Option.ext fun f => ?_
      rw [named features distinct, named others rearranged, same.mem_iff]
    rw [found] at one
    exact one.trans two.symm
  rw [seeded, reseeded, equal]

end Store

namespace Sync
variable {s : Store} {named : List (String × Feature)} {f : Feature} {t : Token} {chain : Reader} {id : String}
  {user other : User} {features : List Feature} {block : UInt64} {v : UInt64} {wallets others : List Address}

def counted (chain : Reader) (wallets : List Address) (f : Feature) : Nat :=
  match f.standard with
  | .erc20 => min ((wallets.map (chain.fungible f.token.contract)).map amount).sum (2 ^ 64 - 1)
  | .erc1155 => min ((wallets.map (chain.multi f.token.contract f.token.id)).map amount).sum (2 ^ 64 - 1)
  | .erc721 => ((chain.owner f.token.contract f.token.id).toOption.any (· ∈ wallets)).toNat

theorem ownedCounted (chain : Reader) (wallets : List Address) (f : Feature) :
    (Recount.owned chain wallets f).toNat = counted chain wallets f := by
  unfold Recount.owned counted
  cases f.standard with
  | erc20 => exact totalSum _
  | erc1155 => exact totalSum _
  | erc721 =>
    cases chain.owner f.token.contract f.token.id with
    | error e => rfl
    | ok holder =>
      by_cases own : holder ∈ wallets
      · simp [own, Except.toOption]
      · simp [own, Except.toOption]

theorem countedSame (same : wallets.Perm others) (chain : Reader) (f : Feature) :
    counted chain wallets f = counted chain others f := by
  unfold counted
  cases f.standard with
  | erc20 => simp only [((same.map _).map amount).sum_eq]
  | erc1155 => simp only [((same.map _).map amount).sum_eq]
  | erc721 => simp only [same.mem_iff]

theorem holdingsSame (same : other.wallets.Perm user.wallets) :
    Recount.holdings ⟨other, id, features⟩ chain block = Recount.holdings ⟨user, id, features⟩ chain block := by
  have owned : Recount.owned chain (other.wallets.map Wallet.address) =
      Recount.owned chain (user.wallets.map Wallet.address) := by
    funext f
    refine UInt64.toNat_inj.mp ?_
    rw [ownedCounted, ownedCounted, countedSame (same.map Wallet.address)]
  have count : Recount.count chain (other.wallets.map Wallet.address) =
      Recount.count chain (user.wallets.map Wallet.address) := by
    funext h f
    simp only [Recount.count, owned]
  simp only [Recount.holdings, count]

theorem recountUnknown (unknown : s.users.get? id = none) :
    recount chain id s = .error (.storage (.absent (Store.userText id))) := by
  simp [recount, Recount.start, Store.user, Store.found, unknown, bind, Except.bind]

theorem recountHeadless {e : ChainError} (known : s.user id = .ok user) (listed : s.allFeatures = .ok features)
    (headless : chain.block = .error e) : recount chain id s = .error (.chain e) := by
  simp [recount, Recount.start, Recount.finish, known, listed, headless, bind, Except.bind]

theorem holdingsOwned (listed : s.features.entries = named.map fun e => (e.1, .ok e.2)) :
    (Recount.holdings ⟨user, id, named.map Prod.snd⟩ chain block).owned.get? t = some v ↔
      ∃ f, s.FirstOf t f ∧ v.toNat = counted chain (user.wallets.map Wallet.address) f := by
  rw [Recount.holdings, countsFind]
  simp only [Holdings.fresh, SortedMap.getEmpty, Option.none_or, Option.map_eq_some_iff, Store.firstFound listed,
    ← UInt64.toNat_inj, ownedCounted]
  simp only [eq_comm]

theorem putAgain (s : Store) (id : String) (h g : Holdings) :
    (s.putHoldings id h).putHoldings id g = s.putHoldings id g := by
  have table : (s.holdings.insert id (.ok h)).insert id (.ok g) = s.holdings.insert id (.ok g) := by
    refine SortedMap.extensional fun user => ?_
    by_cases own : user = id <;> simp [own]
  simp only [Store.putHoldings, table]

/-- A count of a user who is not known, or at a block that cannot be read, fails and changes nothing. Any other puts
down what it counts for the first feature of each token and touches nothing else. It depends on the features by name, on
the wallets in any order and on the chain, and not on what was there before. -/
theorem recountDefined (legible : s.Legible) (chain : Reader) (id : String) :
    (s.users.get? id = none → recount chain id s = .error (.storage (.absent (Store.userText id))) ∧
      Service.recounted chain id s = s) ∧
    (∀ user e, s.user id = .ok user → chain.block = .error e → recount chain id s = .error (.chain e) ∧
      Service.recounted chain id s = s) ∧
    (∀ user block, s.user id = .ok user → chain.block = .ok block → ∃ h later,
      recount chain id s = .ok (h, later) ∧ Service.recounted chain id s = later ∧ h.user = id ∧ h.block = block ∧
      (∀ t, h.owned.contains t ↔ ∃ name f, s.feature name = .ok f ∧ f.token = t) ∧
      (∀ t v, h.owned.get? t = some v ↔
        ∃ f, s.FirstOf t f ∧ v.toNat = counted chain (user.wallets.map Wallet.address) f) ∧
      later.holdings.get? id = some (.ok h) ∧ s.SameBut later (· = id) ∧
      recount chain id later = .ok (h, later) ∧
      (∀ table, recount chain id { s with holdings := table } =
        .ok (h, Store.putHoldings { s with holdings := table } id h)) ∧
      (∀ other : User, other.wallets.Perm user.wallets →
        recount chain id (s.putUser id other) = .ok (h, (s.putUser id other).putHoldings id h))) ∧
    ∀ features others, features.Perm others → (features.map Feature.name).Nodup →
      recount chain id (s.seed features).2 = recount chain id (s.seed others).2 := by
  obtain ⟨named, entries⟩ := legible.catalogue
  have listed := Store.catalogueRead entries
  refine ⟨?unknown, ?headless, ?counted, ?seeded⟩
  case unknown =>
    intro unknown
    have failed : recount chain id s = _ := recountUnknown unknown
    exact ⟨failed, by simp only [Service.recounted, failed]⟩
  case headless =>
    intro user e known headless
    have failed := recountHeadless known listed headless
    exact ⟨failed, by simp only [Service.recounted, failed]⟩
  case counted =>
    intro user block known current
    have ran := recountRun known listed current
    obtain ⟨atBlock, own⟩ := holdingsBlock ⟨user, id, named.map Prod.snd⟩ chain block
    have values : ∀ t v, (Recount.holdings ⟨user, id, named.map Prod.snd⟩ chain block).owned.get? t = some v ↔ _ :=
      fun _ _ => holdingsOwned entries
    refine ⟨_, _, ran, by simp only [Service.recounted, ran], own, atBlock, ?keys, values, by simp [Store.putHoldings],
      s.sameButPut id _, ?again, ?anew, ?rearranged⟩
    case keys =>
      intro t
      rw [SortedMap.contains, Option.isSome_iff_exists, ← Store.firstExists entries]
      simp only [values]
      constructor
      · intro found
        obtain ⟨_, f, first, _⟩ := found
        exact ⟨f, first⟩
      · intro first
        obtain ⟨f, first⟩ := first
        exact ⟨_, f, first, ownedCounted chain _ f⟩
    case again =>
      have known : (s.putHoldings id (Recount.holdings ⟨user, id, named.map Prod.snd⟩ chain block)).user id = .ok user :=
        known
      have again := recountRun known listed current
      rwa [putAgain] at again
    case anew =>
      intro table
      have known : ({ s with holdings := table } : Store).user id = .ok user := known
      exact recountRun known listed current
    case rearranged =>
      intro other same
      have known : (s.putUser id other).user id = .ok other := by simp [Store.user, Store.putUser, Store.found, Store.opened]
      have again := recountRun known listed current
      rwa [holdingsSame same] at again
  case seeded =>
    intro features others same distinct
    rw [Store.seedSame same distinct]

def kept : Store := ((Store.empty.putUser "u" holder).seed [crest, coin]).2

def patchy : Reader where
  block := .ok 100
  fungible _ a := if a = 1 then .ok 5 else .error (.contract "no answer")
  owner _ _ := .ok 1
  multi _ _ _ := .error (.contract "no answer")

theorem keptListed : kept.features.entries = [("coin", coin), ("crest", crest)].map fun e => (e.1, .ok e.2) := by
  decide

theorem keptLegible : kept.Legible := by
  constructor
  · intro id document found
    rw [SortedMap.getSome, show kept.users.entries = [("u", .ok holder)] from rfl, List.mem_singleton] at found
    cases found
    exact ⟨holder, rfl⟩
  · intro name document found
    rw [SortedMap.getSome, keptListed] at found
    obtain ⟨e, _, same⟩ := List.mem_map.mp found
    cases same
    exact ⟨e.2, rfl⟩

theorem recountDefinedOfKept : kept.Legible ∧ ∃ h later, recount patchy "u" kept = .ok (h, later) ∧
    h.owned.get? ⟨1, 0⟩ = some 5 ∧ recount patchy "u" later = .ok (h, later) := by
  obtain ⟨_, _, counts, _⟩ := recountDefined keptLegible patchy "u"
  obtain ⟨h, later, ran, _, _, _, _, values, _, _, again, _⟩ := counts holder 100 rfl rfl
  have first : kept.FirstOf ⟨1, 0⟩ coin := (Store.firstFound keptListed).mp rfl
  exact ⟨keptLegible, h, later, ran, (values _ _).mpr ⟨coin, first, by decide⟩, again⟩

end Sync
end HolderGate
