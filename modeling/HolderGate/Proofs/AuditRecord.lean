import HolderGate.Proofs.AccountHistory

/-! Audit records of good signatures, and what is granted on them. Each such record is of a nonce that is spent, so no
two are of one, and every wallet of a user and every session has records behind it. -/
namespace HolderGate
open Identity Auth Newest

namespace Store

def Logged (s : Store) (a : Attempt) : Prop := s.attempts.get? a.id = some (.ok a)

def Passed (s : Store) (a : Attempt) : Prop := s.Logged a ∧ a.signatureValid = true

def tally {κ α : Type} [Ord κ] (p : α → Bool) (table : SortedMap κ (Stored α)) : Nat :=
  table.entries.countP (fun e => e.2.toOption.any p)

def sessions (s : Store) (w : Wallet) : Nat := tally (·.wallet = w) s.sessionKeys

def passes (s : Store) (w : Wallet) : Nat := tally (fun a => a.wallet = w ∧ a.signatureValid) s.attempts

structure Vouched (scheme : Scheme) (s : Store) : Prop where
  attempts : Named Attempt.id s.attempts
  single : ∀ n m, Holds s.nonces n → Holds s.nonces m → n.value = m.value → n = m
  signed : ∀ a, s.Passed a → verify scheme a.signature (utf8 a.nonceValue) a.wallet = .ok true
  spent : ∀ a, s.Passed a → ∃ n, Holds s.nonces n ∧ n.value = a.nonceValue ∧ Outdone s.nonces n
  once : ∀ a b, s.Passed a → s.Passed b → a.nonceValue = b.nonceValue → a = b

structure Backed (s : Store) : Prop where
  lists : ∀ id w, s.Lists id w → ∃ a, s.Passed a ∧ a.wallet = w
  sessions : ∀ w, s.sessions w ≤ s.passes w

variable {s later : Store} {scheme : Scheme} {a b : Attempt} {n : Nonce} {w : Wallet} {id : String}
  {op : Gated} {supply : Supply} {u : User}

theorem vouchedEmpty : Vouched scheme .empty where
  attempts := namedEmpty
  single _ _ held := by simp [Holds, empty] at held
  signed _ passed := by simp [Passed, Logged, empty] at passed
  spent _ passed := by simp [Passed, Logged, empty] at passed
  once _ _ passed := by simp [Passed, Logged, empty] at passed

theorem backedEmpty : Backed .empty where
  lists _ _ listed := by simp [Lists, empty] at listed
  sessions _ := Nat.le_refl 0

theorem tallyPut {κ α : Type} [Ord κ] [Std.TransOrd κ] [Std.LawfulEqOrd κ] (p : α → Bool)
    (table : SortedMap κ (Stored α)) (key : κ) (d : α) :
    tally p (table.insert key (.ok d)) ≤ tally p table + if p d then 1 else 0 :=
  SortedMap.countPlaceLe _ key _ table.entries

theorem tallyNew {κ α : Type} [Ord κ] [Std.TransOrd κ] [Std.LawfulEqOrd κ] (p : α → Bool)
    {table : SortedMap κ (Stored α)} {key : κ} (absent : table.get? key = none) (d : α) :
    tally p (table.insert key (.ok d)) = tally p table + if p d then 1 else 0 :=
  SortedMap.countPlace _ absent

theorem passesRecord (absent : s.attempts.get? a.id = none) (valid : a.signatureValid = true) (w : Wallet) :
    (s.recordAttempt a).passes w = s.passes w + if a.wallet = w then 1 else 0 := by
  rw [passes, recordAttempt, tallyNew _ absent, passes]
  simp [valid]

theorem passesGrow (absent : s.attempts.get? a.id = none) (w : Wallet) :
    s.passes w ≤ (s.recordAttempt a).passes w := by
  rw [passes, passes, recordAttempt, tallyNew _ absent]
  exact Nat.le_add_right _ _

theorem loggedRecord (absent : s.attempts.get? a.id = none) :
    (s.recordAttempt a).Logged b ↔ b = a ∨ s.Logged b := by
  simp only [Logged, recordAttempt, SortedMap.getInsert]
  split
  next same =>
    constructor
    · intro equal
      cases equal
      exact .inl rfl
    · rintro (rfl | logged)
      · rfl
      · simp [same, absent] at logged
  next differ =>
    refine (or_iff_right ?_).symm
    rintro rfl
    exact differ rfl

theorem passedRecord (absent : s.attempts.get? a.id = none) :
    (s.recordAttempt a).Passed b ↔ (b = a ∧ a.signatureValid = true) ∨ s.Passed b := by
  simp only [Passed, loggedRecord absent, or_and_right]
  refine or_congr_left ?_
  constructor <;> rintro ⟨rfl, valid⟩ <;> exact ⟨rfl, valid⟩

theorem Vouched.keep (vouched : s.Vouched scheme) (attempts : later.attempts = s.attempts)
    (nonces : later.nonces = s.nonces) : later.Vouched scheme := by
  obtain ⟨filed, single, signed, spent, once⟩ := vouched
  unfold Passed Logged at signed spent once
  rw [← nonces] at single
  rw [← attempts] at filed signed once
  simp only [← attempts, ← nonces] at spent
  exact ⟨filed, single, signed, spent, once⟩

theorem vouchedNonce (vouched : s.Vouched scheme)
    (novel : ∀ other, Holds s.nonces other → other.id ≠ n.id ∧ other.value ≠ n.value) :
    (s.insertNonce n).Vouched scheme where
  attempts := vouched.attempts
  single := by
    intro m k heldM heldK same
    rcases holdsPut.mp heldM with rfl | ⟨_, oldM⟩ <;> rcases holdsPut.mp heldK with rfl | ⟨_, oldK⟩
    · rfl
    · exact absurd same.symm (novel k oldK).2
    · exact absurd same (novel m oldM).2
    · exact vouched.single m k oldM oldK same
  signed := vouched.signed
  spent a passed := by
    obtain ⟨m, held, value, outdone⟩ := vouched.spent a passed
    have grown : Extends s.nonces (put s.nonces n) := extendsPut fun other held => (novel other held).1
    exact ⟨m, grown m held, value, outdoneStays grown outdone⟩
  once := vouched.once

theorem vouchedRejected (vouched : s.Vouched scheme) (absent : s.attempts.get? a.id = none)
    (invalid : a.signatureValid = false) : (s.recordAttempt a).Vouched scheme := by
  have same : ∀ b, (s.recordAttempt a).Passed b ↔ s.Passed b := by
    intro b
    simp [passedRecord absent, invalid]
  refine ⟨vouched.attempts.put a, vouched.single, ?_, ?_, ?_⟩ <;> simp only [same]
  · exact vouched.signed
  · exact vouched.spent
  · exact vouched.once

theorem vouchedPassed (vouched : s.Vouched scheme) (absent : s.attempts.get? a.id = none)
    (signed : verify scheme a.signature (utf8 a.nonceValue) a.wallet = .ok true)
    (held : Holds s.nonces n) (value : n.value = a.nonceValue) (outdone : Outdone s.nonces n)
    (unspent : ∀ b, s.Passed b → b.nonceValue ≠ a.nonceValue) : (s.recordAttempt a).Vouched scheme where
  attempts := vouched.attempts.put a
  single := vouched.single
  signed b passed := by
    rcases (passedRecord absent).mp passed with ⟨rfl, _⟩ | old
    · exact signed
    · exact vouched.signed b old
  spent b passed := by
    rcases (passedRecord absent).mp passed with ⟨rfl, _⟩ | old
    · exact ⟨n, held, value, outdone⟩
    · exact vouched.spent b old
  once b c passedB passedC same := by
    rcases (passedRecord absent).mp passedB with ⟨rfl, _⟩ | oldB <;>
      rcases (passedRecord absent).mp passedC with ⟨rfl, _⟩ | oldC
    · rfl
    · exact absurd same.symm (unspent c oldC)
    · exact absurd same (unspent b oldB)
    · exact vouched.once b c oldB oldC same

theorem Alike.backed (alike : s.Alike later) (backed : s.Backed) : later.Backed := by
  obtain ⟨lists, sessions⟩ := backed
  unfold Lists Passed Logged at lists
  unfold Store.sessions passes at sessions
  rw [← alike.users, ← alike.attempts] at lists
  rw [← alike.sessionKeys, ← alike.attempts] at sessions
  exact ⟨lists, sessions⟩

theorem backedProfile {next : User} (backed : s.Backed) (present : s.users.get? u.id = some (.ok u))
    (own : next.id = u.id) (wallets : next.wallets = u.wallets) : (s.putUser u.id next).Backed where
  lists id w listed := by
    rw [← own, listsPut] at listed
    split at listed
    next same =>
      have before : s.Lists id w := ⟨u, by rw [same, own, present], wallets ▸ listed⟩
      exact backed.lists id w before
    next => exact backed.lists id w listed
  sessions := backed.sessions

theorem backedRecord (backed : s.Backed) (absent : s.attempts.get? a.id = none) : (s.recordAttempt a).Backed where
  lists id w listed := by
    obtain ⟨b, passed, own⟩ := backed.lists id w listed
    exact ⟨b, (passedRecord absent).mpr (.inr passed), own⟩
  sessions w := Nat.le_trans (backed.sessions w) (passesGrow absent w)

theorem grantLists (present : ∀ session p, op = .addWallet session p → s.users.get? u.id = some (.ok u))
    (wallets : ∀ p, op = .create p → u.wallets = [p.wallet]) (listed : (op.grant supply u s).Lists id w) :
    s.Lists id w ∨ w = op.wallet := by
  cases op with
  | create p =>
    have joined : ((s.own p.wallet u.id).putUser u.id u).Lists id w := listed
    rw [listsPut] at joined
    split at joined
    next =>
      rw [wallets p rfl] at joined
      exact .inr (List.mem_singleton.mp joined)
    next => exact .inl joined
  | login p => exact .inl listed
  | addWallet session p =>
    simp only [Gated.grant, Store.linked] at listed
    split at listed
    next => exact .inl listed
    next =>
      have same : (joined u p.wallet (supply 2).now).id = u.id := rfl
      rw [← same, listsPut] at listed
      split at listed
      next own =>
        rcases List.mem_append.mp listed with before | new
        · exact .inl ⟨u, by rw [own, same, present session p rfl], before⟩
        · exact .inr (List.mem_singleton.mp new)
      next => exact .inl listed

theorem grantSessions (op : Gated) (supply : Supply) (u : User) (s : Store) (w : Wallet) :
    (op.grant supply u s).sessions w ≤ s.sessions w + if op.wallet = w then 1 else 0 := by
  have added : ∀ draw v, tally (·.wallet = w) (put s.sessionKeys (Gated.sessionKey draw v)) ≤
      s.sessions w + if v = w then 1 else 0 := by
    intro draw v
    refine (tallyPut _ s.sessionKeys _ (Gated.sessionKey draw v)).trans ?_
    by_cases mine : v = w <;> simp [sessions, Gated.sessionKey, mine]
  cases op with
  | create p => exact added (supply 3) p.wallet
  | login p => exact added (supply 2) p.wallet
  | addWallet session p =>
    have kept : ((Gated.addWallet session p).grant supply u s).sessionKeys = s.sessionKeys := by
      simp only [Gated.grant, Store.linked]
      split <;> rfl
    rw [sessions, kept]
    exact Nat.le_add_right _ _

theorem backedGrant (backed : s.Backed) (absent : s.attempts.get? a.id = none) (valid : a.signatureValid = true)
    (own : a.wallet = op.wallet)
    (present : ∀ session p, op = .addWallet session p → s.users.get? u.id = some (.ok u))
    (wallets : ∀ p, op = .create p → u.wallets = [p.wallet]) :
    (op.grant supply u (s.recordAttempt a)).Backed where
  lists id w listed := by
    have passed : ∀ b, (op.grant supply u (s.recordAttempt a)).Passed b ↔ (s.recordAttempt a).Passed b := by
      intro b
      rw [Passed, Logged, (Service.grantKeeps u).2, Passed, Logged]
    rcases grantLists (s := s.recordAttempt a) present wallets listed with before | rfl
    · obtain ⟨b, before, mine⟩ := backed.lists id w before
      exact ⟨b, (passed b).mpr ((passedRecord absent).mpr (.inr before)), mine⟩
    · exact ⟨a, (passed a).mpr ((passedRecord absent).mpr (.inl ⟨rfl, valid⟩)), own⟩
  sessions w := by
    have granted := grantSessions op supply u (s.recordAttempt a) w
    have before : (s.recordAttempt a).sessions w ≤ s.passes w := backed.sessions w
    have recorded := passesRecord absent valid w
    rw [own] at recorded
    rw [passes, (Service.grantKeeps u).2, ← passes]
    omega

theorem logRead (attempts : Named Attempt.id s.attempts) (w : Wallet) :
    ∃ log, s.attemptsOf w = .ok log ∧ log.Nodup ∧ (∀ a, a ∈ log ↔ s.Logged a ∧ a.wallet = w) ∧
      (log.filter (·.signatureValid)).length = s.passes w := by
  obtain ⟨all, listed⟩ := attempts.listed
  have single : all.Nodup := by
    refine (listedAscending listed).imp ?_
    rintro a _ less rfl
    simp at less
  have sorted := List.mergeSort_perm (all.filter (·.wallet = w)) (fun a b => decide (a.createdAt ≤ b.createdAt))
  refine ⟨(all.filter (·.wallet = w)).mergeSort (fun a b => a.createdAt ≤ b.createdAt), ?_, ?_, ?_, ?_⟩
  · rw [attemptsOf, listedRead listed]
    rfl
  · exact sorted.nodup_iff.mpr (single.filter _)
  · intro a
    rw [sorted.mem_iff, List.mem_filter, decide_eq_true_eq, Logged, listedMember listed]
  · rw [(sorted.filter _).length_eq, passes, tally, listed, List.countP_map, List.filter_filter,
      List.countP_eq_length_filter]
    congr 2
    funext a
    simp [and_comm, Except.toOption]

end Store
end HolderGate
