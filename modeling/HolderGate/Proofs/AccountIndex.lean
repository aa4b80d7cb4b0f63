import HolderGate.Proofs.SignatureCheck

/-! The index from wallets to users. No wallet is left with a user who is not there, so a wallet
either has a user or is free, and the steps that give a wallet to a user cannot fail. -/
namespace HolderGate
open Identity Newest

namespace Store

structure Indexed (s : Store) : Prop where
  users : ∀ id document, s.users.get? id = some document → ∃ u, document = .ok u ∧ u.id = id
  owners : ∀ text id, s.owners.get? text = some id → ∃ u, s.users.get? id = some (.ok u)
  nonces : Filed s.nonces

variable {s later : Store} {w : Wallet} {u : User} {now : Time.Timestamp}

theorem indexedEmpty : Indexed .empty where
  users _ _ found := by simp [empty] at found
  owners _ _ found := by simp [empty] at found
  nonces := filedEmpty

theorem Indexed.keep (h : Indexed s) (users : later.users = s.users) (owners : later.owners = s.owners)
    (nonces : Filed later.nonces) : Indexed later where
  users := users ▸ h.users
  owners := owners ▸ users ▸ h.owners
  nonces := nonces

theorem Indexed.userOf (h : Indexed s) (w : Wallet) :
    (∃ u, s.owner? w = some u.id ∧ s.user u.id = .ok u ∧ s.userOf w = .ok u) ∨
    (s.owner? w = none ∧ s.userOf w = .error (.absent (ownerText w))) := by
  unfold Store.userOf
  cases owned : s.owner? w with
  | none => exact .inr ⟨rfl, rfl⟩
  | some id =>
    obtain ⟨u, present⟩ := h.owners w.text id owned
    obtain ⟨_, same, rfl⟩ := h.users id _ present
    cases same
    have opened : s.user u.id = .ok u := by simp only [user, found, present, Store.opened]
    exact .inl ⟨u, rfl, opened, opened⟩

theorem indexedPutUser (h : Indexed s) : Indexed (s.putUser u.id u) where
  users id document found := by
    rw [putUser, SortedMap.getInsert] at found
    split at found
    next same => exact ⟨u, (Option.some.inj found).symm, same.symm⟩
    next => exact h.users id document found
  owners text id found := by
    rw [putUser, SortedMap.getInsert]
    split
    next => exact ⟨u, rfl⟩
    next => exact h.owners text id found
  nonces := h.nonces

theorem indexedOwn (h : Indexed s) (w : Wallet) : Indexed ((s.own w u.id).putUser u.id u) where
  users := (indexedPutUser (u := u) h).users
  owners text id found := by
    simp only [putUser, own, SortedMap.getInsert] at found ⊢
    split
    next => exact ⟨u, rfl⟩
    next differ =>
      split at found
      next => exact absurd (Option.some.inj found).symm differ
      next => exact h.owners text id found
  nonces := h.nonces

theorem createUserFree (wallets : u.wallets = [w]) (free : s.owner? w = none) :
    s.createUser u = .ok ((s.own w u.id).putUser u.id u) := by
  simp [createUser, wallets, free]

def joined (u : User) (w : Wallet) (now : Time.Timestamp) : User :=
  { u with wallets := u.wallets ++ [w], updatedAt := now }

def linked (s : Store) (u : User) (w : Wallet) (now : Time.Timestamp) : Store :=
  if (s.owner? w).isSome then s else (s.own w u.id).putUser u.id (joined u w now)

theorem linkWalletOwn (now : Time.Timestamp) (present : s.user u.id = .ok u)
    (own : ∀ id, s.owner? w = some id → id = u.id) :
    ∃ next, s.linkWallet u.id w now = .ok (next, s.linked u w now) := by
  unfold linkWallet linked
  simp only [present, bind, Except.bind]
  cases owned : s.owner? w with
  | none => exact ⟨joined u w now, rfl⟩
  | some id => exact ⟨u, if_pos (own id owned)⟩

theorem indexedLinked (h : Indexed s) : Indexed (s.linked u w now) := by
  unfold linked
  split
  next => exact h
  next => exact indexedOwn (u := joined u w now) h w

end Store

namespace Auth.Account

variable {s : Store} {w : Wallet}

theorem accountCases (h : s.Indexed) (w : Wallet) :
    (∃ u, s.owner? w = some u.id ∧ s.user u.id = .ok u ∧ s.userOf w = .ok u ∧
      userOf? w s = (.ok (some u), s)) ∨
    (s.owner? w = none ∧ userOf? w s = (.ok none, s)) := by
  rcases h.userOf w with ⟨u, owned, present, found⟩ | ⟨free, absent⟩
  · exact .inl ⟨u, owned, present, found, Action.readOk (by rw [found])⟩
  · exact .inr ⟨free, Action.readOk (by rw [absent])⟩

theorem accountHolder (h : s.Indexed) (w : Wallet) :
    ∃ holder, userOf? w s = (.ok holder, s) ∧ s.owner? w = holder.map (·.id) := by
  rcases accountCases h w with ⟨u, owned, _, _, known⟩ | ⟨free, unknown⟩
  · exact ⟨some u, known, owned⟩
  · exact ⟨none, unknown, free⟩

theorem requireSome {u : User} (h : userOf? w s = (.ok (some u), s)) :
    requireUser w s = (.ok u, s) := by
  unfold requireUser
  rw [Action.bindOk h]
  rfl

theorem requireNone (h : userOf? w s = (.ok none, s)) :
    requireUser w s = (.error (.userNotFound w), s) := by
  unfold requireUser
  rw [Action.bindOk h]
  rfl

theorem updateStore (h : s.Indexed) (supply : Supply) (session : Wallet) (username bio : Option String) :
    (update supply session username bio s).2 = s ∨ ∃ u, s.userOf session = .ok u ∧
      (update supply session username bio s).2 = s.putUser u.id
        { u with username := username <|> u.username, bio := bio <|> u.bio, updatedAt := (supply 0).now } := by
  unfold update
  rcases accountCases h session with ⟨u, _, present, found, known⟩ | ⟨_, unknown⟩
  · refine .inr ⟨u, found, ?_⟩
    rw [Action.bindOk (requireSome known)]
    simp only [Action.transact, Store.updateProfile, present, bind, Except.bind]
  · rw [Action.bindError (requireNone unknown)]
    exact .inl rfl

end Auth.Account
end HolderGate
