import HolderGate.Proofs.GatedOperation
import HolderGate.Proofs.TransferStep

/-! Wallets and users in two tables that mirror each other, with the session keys and the holdings that refer to
them. Every document that is written keeps them so, and no wallet changes hands. -/
namespace HolderGate
open Identity Access Newest

namespace Store

def Lists (s : Store) (id : String) (w : Wallet) : Prop :=
  ∃ u, s.users.get? id = some (.ok u) ∧ w ∈ u.wallets

structure Mirrored (s : Store) : Prop where
  users : ∀ id document, s.users.get? id = some document →
    ∃ u, document = .ok u ∧ u.id = id ∧ u.wallets ≠ [] ∧ u.wallets.Nodup
  owners : ∀ text id, s.owners.get? text = some id ↔ ∃ w : Wallet, w.text = text ∧ s.Lists id w
  sessionKeys : ∀ k document, s.sessionKeys.get? k = some document →
    ∃ key, document = .ok key ∧ k = filing key ∧ ∃ id, s.owner? key.wallet = some id
  holdings : ∀ id document, s.holdings.get? id = some document →
    ∃ h u, document = .ok h ∧ h.user = id ∧ s.users.get? id = some (.ok u)

structure Succeeds (s : Store) (given : Option String) (later : Store) : Prop where
  mirrored : later.Mirrored
  nonces : Filed later.nonces
  kept : ∀ w id, s.owner? w = some id → later.owner? w = some id
  users : ∀ id, s.users.get? id = none → given ≠ some id → later.users.get? id = none

variable {s later : Store} {id : String} {w : Wallet} {u : User} {h : Holdings} {key : SessionKey}
  {given : Option String}

theorem mirroredEmpty : Mirrored .empty where
  users _ _ found := by simp [empty] at found
  owners _ _ := by simp [empty, Lists]
  sessionKeys _ _ found := by simp [empty] at found
  holdings _ _ found := by simp [empty] at found

theorem Mirrored.owner (m : s.Mirrored) : s.owner? w = some id ↔ s.Lists id w := by
  rw [owner?, m.owners]
  constructor
  · rintro ⟨v, text, listed⟩
    exact Wallet.same text ▸ listed
  · exact fun listed => ⟨w, rfl, listed⟩

theorem Mirrored.indexed (m : s.Mirrored) (nonces : Filed s.nonces) : s.Indexed where
  users id document found := by
    obtain ⟨u, same, own, _⟩ := m.users id document found
    exact ⟨u, same, own⟩
  owners text id found := by
    obtain ⟨_, _, u, present, _⟩ := (m.owners text id).mp found
    exact ⟨u, present⟩
  nonces := nonces

theorem Mirrored.keysFiled (m : s.Mirrored) : Filed s.sessionKeys := by
  intro k document found
  obtain ⟨key, same, stands, _⟩ := m.sessionKeys k document found
  exact ⟨key, same, stands⟩

theorem Mirrored.own (m : s.Mirrored) (present : s.users.get? id = some (.ok u)) : u.id = id := by
  obtain ⟨_, same, own, _⟩ := m.users id _ present
  cases same
  exact own

theorem Mirrored.holder (m : s.Mirrored) (found : s.userOf w = .ok u) :
    s.users.get? u.id = some (.ok u) ∧ s.owner? w = some u.id := by
  unfold userOf at found
  split at found
  next id owned =>
    obtain ⟨v, present, _⟩ := m.owner.mp owned
    cases present.symm.trans (foundOk.mp found)
    have own := m.own present
    subst own
    exact ⟨present, owned⟩
  next => contradiction

theorem Mirrored.keep (m : s.Mirrored) (users : later.users = s.users) (owners : later.owners = s.owners)
    (sessionKeys : later.sessionKeys = s.sessionKeys) (holdings : later.holdings = s.holdings) :
    later.Mirrored where
  users := users ▸ m.users
  owners text id := by
    simp only [owners, Lists, users]
    exact m.owners text id
  sessionKeys := by
    simp only [sessionKeys, owner?, owners]
    exact m.sessionKeys
  holdings := by
    simp only [holdings, users]
    exact m.holdings

theorem mirroredSessionKey (m : s.Mirrored) (owned : ∃ id, s.owner? key.wallet = some id) :
    (s.insertSessionKey key).Mirrored where
  users := m.users
  owners := m.owners
  sessionKeys k document found := by
    simp only [insertSessionKey, SortedMap.getInsert] at found
    split at found
    next same =>
      cases found
      exact ⟨key, rfl, same, owned⟩
    next => exact m.sessionKeys k document found
  holdings := m.holdings

theorem mirroredHoldings (m : s.Mirrored) (own : h.user = id) (present : s.users.get? id = some (.ok u)) :
    (s.putHoldings id h).Mirrored where
  users := m.users
  owners := m.owners
  sessionKeys := m.sessionKeys
  holdings other document found := by
    simp only [putHoldings, SortedMap.getInsert] at found
    split at found
    next same =>
      cases found
      subst same
      exact ⟨h, u, rfl, own, present⟩
    next => exact m.holdings other document found

theorem listsPut (s : Store) (u : User) {v : Wallet} :
    (s.putUser u.id u).Lists id v ↔ if id = u.id then v ∈ u.wallets else s.Lists id v := by
  unfold Lists
  simp only [putUser, SortedMap.getInsert]
  split
  next => simp
  next => rfl

theorem ownerOwn (s : Store) (w v : Wallet) (id : String) :
    (s.own w id).owner? v = if v = w then some id else s.owner? v := by
  have same : v.text = w.text ↔ v = w := ⟨Wallet.same, congrArg Wallet.text⟩
  simp only [owner?, own, SortedMap.getInsert, same]

theorem mirroredJoin (m : s.Mirrored) (free : s.owner? w = none) (once : u.wallets.Nodup)
    (lists : ∀ v, v ∈ u.wallets ↔ s.Lists u.id v ∨ v = w) : ((s.own w u.id).putUser u.id u).Mirrored where
  users id document found := by
    simp only [putUser, own, SortedMap.getInsert] at found
    split at found
    next same =>
      cases found
      exact ⟨u, rfl, same.symm, List.ne_nil_of_mem ((lists w).mpr (.inr rfl)), once⟩
    next => exact m.users id document found
  owners text id := by
    simp only [listsPut]
    have before := m.owners text id
    have unlisted : ¬ s.Lists id w := fun listed => by simp [m.owner.mpr listed] at free
    show (s.own w u.id).owners.get? text = some id ↔ _
    simp only [Store.own, SortedMap.getInsert]
    by_cases own : id = u.id
    · subst own
      simp only [lists, if_true]
      split
      next same => exact iff_of_true rfl ⟨w, same.symm, .inr rfl⟩
      next differ =>
        rw [before]
        refine exists_congr fun v => and_congr_right fun text => ⟨.inl, fun either => either.resolve_right ?_⟩
        rintro rfl
        exact differ text.symm
    · simp only [if_neg own]
      split
      next same =>
        refine iff_of_false (fun equal => own (Option.some.inj equal).symm) ?_
        rintro ⟨v, text, listed⟩
        exact unlisted (Wallet.same (text.trans same) ▸ listed)
      next => exact before
  sessionKeys k document found := by
    obtain ⟨key, same, filed, id, owned⟩ := m.sessionKeys k document found
    have owner : ((s.own w u.id).putUser u.id u).owner? key.wallet = (s.own w u.id).owner? key.wallet := rfl
    refine ⟨key, same, filed, ?_⟩
    rw [owner, ownerOwn]
    split
    next => exact ⟨u.id, rfl⟩
    next => exact ⟨id, owned⟩
  holdings id document found := by
    obtain ⟨h, v, same, own, present⟩ := m.holdings id document found
    simp only [putUser, SortedMap.getInsert]
    split
    next => exact ⟨h, u, same, own, rfl⟩
    next => exact ⟨h, v, same, own, present⟩

theorem Mirrored.listed (present : s.users.get? id = some (.ok u)) : s.Lists id w ↔ w ∈ u.wallets := by
  simp [Lists, present]

theorem mirroredProfile {next : User} (m : s.Mirrored) (present : s.users.get? next.id = some (.ok u))
    (wallets : next.wallets = u.wallets) : (s.putUser next.id next).Mirrored where
  users id document found := by
    simp only [putUser, SortedMap.getInsert] at found
    split at found
    next same =>
      obtain ⟨v, stored, _, some, once⟩ := m.users next.id _ present
      cases stored
      cases found
      exact ⟨next, rfl, same.symm, wallets ▸ some, wallets ▸ once⟩
    next => exact m.users id document found
  owners text id := by
    simp only [listsPut, wallets]
    split
    next same =>
      subst same
      simp only [← Mirrored.listed present]
      exact m.owners text next.id
    next => exact m.owners text id
  sessionKeys := m.sessionKeys
  holdings id document found := by
    obtain ⟨h, v, same, own, there⟩ := m.holdings id document found
    simp only [putUser, SortedMap.getInsert]
    split
    next => exact ⟨h, next, same, own, rfl⟩
    next => exact ⟨h, v, same, own, there⟩

theorem succeedsSame (m : later.Mirrored) (nonces : Filed later.nonces) (users : later.users = s.users)
    (owners : later.owners = s.owners) : s.Succeeds given later where
  mirrored := m
  nonces := nonces
  kept w id owned := by rwa [owner?, owners]
  users id absent _ := by rwa [users]

theorem Succeeds.then {mid : Store} {more : Option String} (first : s.Succeeds more mid)
    (next : mid.Succeeds given later) (either : ∀ id, more = some id → given = some id) :
    s.Succeeds given later where
  mirrored := next.mirrored
  nonces := next.nonces
  kept w id owned := next.kept w id (first.kept w id owned)
  users id absent other := next.users id (first.users id absent (fun own => other (either id own))) other

theorem succeedsHoldings (m : s.Mirrored) (nonces : Filed s.nonces) (own : h.user = id)
    (present : s.users.get? id = some (.ok u)) : s.Succeeds given (s.putHoldings id h) :=
  succeedsSame (mirroredHoldings m own present) nonces rfl rfl

theorem succeedsSessionKey (m : s.Mirrored) (nonces : Filed s.nonces) (owned : s.owner? key.wallet = some id) :
    s.Succeeds given (s.insertSessionKey key) :=
  succeedsSame (mirroredSessionKey m ⟨id, owned⟩) nonces rfl rfl

theorem succeedsProfile (m : s.Mirrored) (nonces : Filed s.nonces) (present : s.users.get? u.id = some (.ok u))
    (next : User) (own : next.id = u.id) (wallets : next.wallets = u.wallets) :
    s.Succeeds given (s.putUser u.id next) where
  mirrored := own ▸ mirroredProfile m (own ▸ present) wallets
  nonces := nonces
  kept _ _ owned := owned
  users id absent _ := by
    simp only [putUser, SortedMap.getInsert]
    split
    next same => exact absurd (present.symm.trans (same ▸ absent)) (by simp)
    next => exact absent

theorem succeedsJoin (m : s.Mirrored) (nonces : Filed s.nonces) (free : s.owner? w = none)
    (once : u.wallets.Nodup) (lists : ∀ v, v ∈ u.wallets ↔ s.Lists u.id v ∨ v = w)
    (known : s.users.get? u.id = none → given = some u.id) :
    s.Succeeds given ((s.own w u.id).putUser u.id u) where
  mirrored := mirroredJoin m free once lists
  nonces := nonces
  kept v id owned := by
    show (s.own w u.id).owner? v = some id
    rw [ownerOwn, if_neg]
    · exact owned
    · rintro rfl
      simp [free] at owned
  users id absent other := by
    simp only [putUser, SortedMap.getInsert]
    split
    next same =>
      subst same
      exact absurd (known absent) other
    next => exact absent

theorem succeedsOpened (m : s.Mirrored) (nonces : Filed s.nonces) (free : s.owner? w = none)
    (absent : s.users.get? u.id = none) (wallets : u.wallets = [w]) (own : key.wallet = w) :
    s.Succeeds (some u.id) (((s.own w u.id).putUser u.id u).insertSessionKey key) := by
  have unlisted : ∀ v, ¬ s.Lists u.id v := by
    rintro v ⟨_, present, _⟩
    simp [absent] at present
  have joined : s.Succeeds (some u.id) ((s.own w u.id).putUser u.id u) :=
    succeedsJoin m nonces free (by simp [wallets]) (by simp [wallets, unlisted]) (fun _ => rfl)
  have owned : ((s.own w u.id).putUser u.id u).owner? key.wallet = some u.id := by
    rw [joined.mirrored.owner, listsPut, if_pos rfl, wallets, own]
    exact List.mem_singleton_self w
  exact joined.then (succeedsSessionKey joined.mirrored joined.nonces owned) (fun _ same => same)

theorem succeedsLinked (m : s.Mirrored) (nonces : Filed s.nonces) (found : s.users.get? u.id = some (.ok u))
    (now : Time.Timestamp) : s.Succeeds given (s.linked u w now) := by
  unfold linked
  split
  next => exact succeedsSame m nonces rfl rfl
  next free =>
    have unowned : s.owner? w = none := by simpa using free
    have unlisted : w ∉ u.wallets := fun listed => by
      simp [m.owner.mpr ((Mirrored.listed found).mpr listed)] at free
    obtain ⟨_, stored, _, _, once⟩ := m.users u.id _ found
    cases stored
    refine succeedsJoin (u := joined u w now) m nonces unowned ?once ?lists (fun absent => ?known)
    case once =>
      have apart : ∀ v ∈ u.wallets, v ≠ w := fun v listed same => unlisted (same ▸ listed)
      simpa [joined, List.nodup_append, once] using apart
    case lists =>
      intro v
      rw [show (joined u w now).id = u.id from rfl, Mirrored.listed found]
      simp [joined]
    case known => exact absurd (found.symm.trans absent) (by simp)

end Store
end HolderGate
