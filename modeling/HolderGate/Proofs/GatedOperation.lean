import HolderGate.Proofs.AccountIndex
import HolderGate.Service

/-! Operations that take a signature, and all that comes of them. One is refused before the signature
is looked at, or leaves no more than an audit record, or does the whole of what it is for. -/
namespace HolderGate
open Identity Auth Access

inductive Gated where
  | create (p : Proof)
  | login (p : Proof)
  | addWallet (session : Wallet) (p : Proof)

namespace Gated

def proof : Gated → Proof
  | create p => p
  | login p => p
  | addWallet _ p => p

def wallet (op : Gated) : Wallet := op.proof.wallet

def run (svc : Service) (supply : Supply) (caller : Caller) : Gated → Except AccountError Outcome × Service
  | create p => svc.create supply caller p
  | login p => svc.login supply caller p
  | addWallet session p => svc.addWallet supply caller session p

def refusal? (s : Store) : Gated → Option AccountError
  | create p => if (s.owner? p.wallet).isSome then some (.addressTaken p.wallet) else none
  | login p => if (s.owner? p.wallet).isSome then none else some (.userNotFound p.wallet)
  | addWallet session p =>
    match s.owner? session with
    | none => some (.userNotFound session)
    | some id => if (s.owner? p.wallet).any (· != id) then some (.addressTaken p.wallet) else none

def For (s : Store) (supply : Supply) (u : User) : Gated → Prop
  | create p => u = Account.newUser (supply 2) p.wallet
  | login p => s.userOf p.wallet = .ok u
  | addWallet session _ => s.userOf session = .ok u

def sessionKey (draw : Draw) (w : Wallet) : SessionKey := ⟨draw.id, w, draw.secret secretLength, draw.now⟩

def tokenUnder (issuer : Issuer) (k : SessionKey) : String :=
  issuer.sign k.secret (issuer.claims k.wallet k.createdAt)

def key? (supply : Supply) : Gated → Option SessionKey
  | create p => some (sessionKey (supply 3) p.wallet)
  | login p => some (sessionKey (supply 2) p.wallet)
  | addWallet _ _ => none

def grant (supply : Supply) (u : User) (s : Store) : Gated → Store
  | create p =>
    ((s.own p.wallet u.id).putUser u.id u).insertSessionKey (sessionKey (supply 3) p.wallet)
  | login p => s.insertSessionKey (sessionKey (supply 2) p.wallet)
  | addWallet _ p => s.linked u p.wallet (supply 2).now

def notification? (u : User) : Gated → Option Notification
  | create p => some ⟨u.id, .signup, some p.wallet⟩
  | login _ => none
  | addWallet _ p => some ⟨u.id, .addressAdded, some p.wallet⟩

def replacement (op : Gated) (supply : Supply) (s : Store) (live : Nonce) : Nonce :=
  Account.successor (supply 0) (s.owner? op.wallet) live

def record (op : Gated) (supply : Supply) (caller : Caller) (s : Store) (live : Option Nonce)
    (valid : Bool) : Attempt :=
  Account.attempt (supply 1) caller (s.owner? op.wallet) op.proof live valid

def checked (op : Gated) (supply : Supply) (caller : Caller) (s : Store) (live : Nonce) : Store :=
  (s.insertNonce (op.replacement supply s live)).recordAttempt (op.record supply caller s (some live) true)

def rejected (op : Gated) (supply : Supply) (caller : Caller) (svc : Service) (live : Option Nonce) :
    Except AccountError Outcome × Service :=
  (Account.denied (Account.verdict svc.scheme live op.proof) (.rejected op.wallet),
    { svc with store := svc.store.recordAttempt (op.record supply caller svc.store live false) })

def accepted (op : Gated) (supply : Supply) (caller : Caller) (svc : Service) (n : Nonce) (u : User) :
    Except AccountError Outcome × Service :=
  (.ok (.accepted op.wallet u.id ((op.key? supply).map (tokenUnder svc.issuer))),
    Service.announceAny { svc with store := op.grant supply u (op.checked supply caller svc.store n) }
      (op.notification? u))

variable {op : Gated} {svc : Service} {supply : Supply} {caller : Caller} {p : Proof} {s : Store}
  {live : Option Nonce} {session : Wallet} {u : User} {issuer : Issuer} {scheme : Scheme}

theorem createTaken (found : Account.userOf? p.wallet s = (.ok (some u), s)) :
    Account.create scheme issuer supply caller p s = (.error (.addressTaken p.wallet), s) := by
  unfold Account.create
  rw [Action.bindOk found]
  rfl

theorem createUnsigned (free : Account.userOf? p.wallet s = (.ok none, s))
    (found : s.liveNonce p.wallet = .ok live) (unsigned : ¬ Account.Signed scheme live p) :
    Account.create scheme issuer supply caller p s =
      (Account.denied (Account.verdict scheme live p) (.rejected p.wallet, none),
        s.recordAttempt (Account.attempt (supply 1) caller none p live false)) := by
  unfold Account.create
  rw [Action.bindOk free]
  exact Account.gateUnsigned (Account.checkUnsigned found unsigned)

theorem createSigned {n : Nonce} (free : Account.userOf? p.wallet s = (.ok none, s))
    (unowned : s.owner? p.wallet = none) (found : s.liveNonce p.wallet = .ok (some n))
    (own : n.wallet = p.wallet) (signed : Account.Signed scheme (some n) p) :
    Account.create scheme issuer supply caller p s =
      (.ok (.accepted p.wallet (supply 2).id
          (some (tokenUnder issuer (sessionKey (supply 3) p.wallet))),
          some ⟨(supply 2).id, .signup, some p.wallet⟩),
        (create p).grant supply (Account.newUser (supply 2) p.wallet)
          ((s.insertNonce (Account.successor (supply 0) none n)).recordAttempt
            (Account.attempt (supply 1) caller none p (some n) true))) := by
  unfold Account.create
  rw [Action.bindOk free]
  refine (Account.gateSigned (Account.checkSigned found own signed)).trans ?_
  have made := Store.createUserFree (u := Account.newUser (supply 2) p.wallet)
    (s := (s.insertNonce (Account.successor (supply 0) none n)).recordAttempt
      (Account.attempt (supply 1) caller none p (some n) true)) rfl unowned
  rw [Action.bindOk (Action.claimingOk (by rw [made]; rfl))]
  rfl

theorem loginUnknown (free : Account.userOf? p.wallet s = (.ok none, s)) :
    Account.login scheme issuer supply caller p s = (.error (.userNotFound p.wallet), s) := by
  unfold Account.login
  exact Action.bindError (Account.requireNone free)

theorem loginUnsigned (known : Account.userOf? p.wallet s = (.ok (some u), s))
    (found : s.liveNonce p.wallet = .ok live) (unsigned : ¬ Account.Signed scheme live p) :
    Account.login scheme issuer supply caller p s =
      (Account.denied (Account.verdict scheme live p) (.rejected p.wallet),
        s.recordAttempt (Account.attempt (supply 1) caller (some u.id) p live false)) := by
  unfold Account.login
  rw [Action.bindOk (Account.requireSome known)]
  exact Account.gateUnsigned (Account.checkUnsigned found unsigned)

theorem loginSigned {n : Nonce} (known : Account.userOf? p.wallet s = (.ok (some u), s))
    (found : s.liveNonce p.wallet = .ok (some n)) (own : n.wallet = p.wallet)
    (signed : Account.Signed scheme (some n) p) :
    Account.login scheme issuer supply caller p s =
      (.ok (.accepted p.wallet u.id (some (tokenUnder issuer (sessionKey (supply 2) p.wallet)))),
        (login p).grant supply u
          ((s.insertNonce (Account.successor (supply 0) (some u.id) n)).recordAttempt
            (Account.attempt (supply 1) caller (some u.id) p (some n) true))) := by
  unfold Account.login
  rw [Action.bindOk (Account.requireSome known)]
  exact Account.gateSigned (Account.checkSigned found own signed)

theorem addWalletUnknown (free : Account.userOf? session s = (.ok none, s)) :
    Account.addWallet scheme supply caller session p s = (.error (.userNotFound session), s) := by
  unfold Account.addWallet
  exact Action.bindError (Account.requireNone free)

theorem addWalletTaken {other : User} (known : Account.userOf? session s = (.ok (some u), s))
    (found : Account.userOf? p.wallet s = (.ok (some other), s)) (differ : other.id ≠ u.id) :
    Account.addWallet scheme supply caller session p s = (.error (.addressTaken p.wallet), s) := by
  unfold Account.addWallet
  rw [Action.bindOk (Account.requireSome known), Action.bindOk found]
  simp [differ]

theorem unclaimed {holder : Option User} (same : ∀ h, holder = some h → h.id = u.id) :
    (holder.map (·.id)).any (· != u.id) = false := by
  cases holder with
  | none => rfl
  | some h => simp [same h rfl]

theorem addWalletUnsigned {holder : Option User} (known : Account.userOf? session s = (.ok (some u), s))
    (found : Account.userOf? p.wallet s = (.ok holder, s)) (same : ∀ h, holder = some h → h.id = u.id)
    (current : s.liveNonce p.wallet = .ok live) (unsigned : ¬ Account.Signed scheme live p) :
    Account.addWallet scheme supply caller session p s =
      (Account.denied (Account.verdict scheme live p) (.rejected p.wallet, none),
        s.recordAttempt (Account.attempt (supply 1) caller (holder.map (·.id)) p live false)) := by
  unfold Account.addWallet
  rw [Action.bindOk (Account.requireSome known), Action.bindOk found]
  simp only [unclaimed same, Bool.false_eq_true, ↓reduceIte]
  exact Account.gateUnsigned (Account.checkUnsigned current unsigned)

theorem addWalletSigned {holder : Option User} {n : Nonce}
    (known : Account.userOf? session s = (.ok (some u), s))
    (found : Account.userOf? p.wallet s = (.ok holder, s)) (same : ∀ h, holder = some h → h.id = u.id)
    (present : s.user u.id = .ok u) (owned : ∀ id, s.owner? p.wallet = some id → id = u.id)
    (current : s.liveNonce p.wallet = .ok (some n)) (own : n.wallet = p.wallet)
    (signed : Account.Signed scheme (some n) p) :
    Account.addWallet scheme supply caller session p s =
      (.ok (.accepted p.wallet u.id none, some ⟨u.id, .addressAdded, some p.wallet⟩),
        (addWallet session p).grant supply u
          ((s.insertNonce (Account.successor (supply 0) (holder.map (·.id)) n)).recordAttempt
            (Account.attempt (supply 1) caller (holder.map (·.id)) p (some n) true))) := by
  unfold Account.addWallet
  rw [Action.bindOk (Account.requireSome known), Action.bindOk found]
  simp only [unclaimed same, Bool.false_eq_true, ↓reduceIte]
  refine (Account.gateSigned (Account.checkSigned current own signed)).trans ?_
  obtain ⟨next, linked⟩ := Store.linkWalletOwn (supply 2).now (w := p.wallet)
    (s := (s.insertNonce (Account.successor (supply 0) (holder.map (·.id)) n)).recordAttempt
      (Account.attempt (supply 1) caller (holder.map (·.id)) p (some n) true)) present owned
  rw [Action.bindOk (Action.claimingOk linked)]
  rfl

theorem performRun {α : Type} {a : Action α} {r : Except AccountError α} {later : Store}
    (h : a svc.store = (r, later)) : svc.perform a = (r, { svc with store := later }) := by
  simp only [Service.perform, h]

theorem performAndOk {α : Type} {a : Action (α × Option Notification)} {v : α} {n : Option Notification}
    {later : Store} (h : a svc.store = (.ok (v, n), later)) :
    svc.performAnd a = (.ok v, Service.announceAny { svc with store := later } n) := by
  simp only [Service.performAnd, performRun h]

theorem performAndError {α : Type} {a : Action (α × Option Notification)} {e : AccountError}
    {later : Store} (h : a svc.store = (.error e, later)) :
    svc.performAnd a = (.error e, { svc with store := later }) := by
  simp only [Service.performAnd, performRun h]

theorem performAndDenied {α : Type} {a : Action (α × Option Notification)} {r : α}
    {v : Except SignatureError Bool} {later : Store} (h : a svc.store = (Account.denied v (r, none), later)) :
    svc.performAnd a = (Account.denied v r, { svc with store := later }) := by
  cases v with
  | ok b => exact performAndOk h
  | error e => exact performAndError h

theorem outcomes (indexed : svc.store.Indexed) (op : Gated) (supply : Supply) (caller : Caller) :
    (∃ e, op.refusal? svc.store = some e ∧ op.run svc supply caller = (.error e, svc)) ∨
    op.refusal? svc.store = none ∧ ∃ live, svc.store.liveNonce op.wallet = .ok live ∧
      ((¬ Account.Signed svc.scheme live op.proof ∧
          op.run svc supply caller = op.rejected supply caller svc live) ∨
        (Account.Signed svc.scheme live op.proof ∧ ∃ n u, live = some n ∧ op.For svc.store supply u ∧
          op.run svc supply caller = op.accepted supply caller svc n u)) := by
  obtain ⟨live, current⟩ := Store.liveReadable indexed.nonces op.wallet
  cases op with
  | create p =>
    rcases Account.accountCases indexed p.wallet with ⟨u, owned, _, _, known⟩ | ⟨unowned, free⟩
    · exact .inl ⟨.addressTaken p.wallet, by simp [refusal?, owned], performAndError (createTaken known)⟩
    · refine .inr ⟨by simp [refusal?, unowned], live, current, ?_⟩
      by_cases signed : Account.Signed svc.scheme live p
      · have good := signed
        obtain ⟨n, rfl, _⟩ := good
        have own := ((Store.liveSome indexed.nonces).mp current).1
        refine .inr ⟨signed, n, _, rfl, rfl, ?_⟩
        simp only [accepted, checked, replacement, record, wallet, proof, unowned]
        exact performAndOk (createSigned free unowned current own signed)
      · refine .inl ⟨signed, ?_⟩
        simp only [rejected, record, wallet, proof, unowned]
        exact performAndDenied (createUnsigned free current signed)
  | login p =>
    rcases Account.accountCases indexed p.wallet with ⟨u, owned, _, found, known⟩ | ⟨unowned, free⟩
    · refine .inr ⟨by simp [refusal?, owned], live, current, ?_⟩
      by_cases signed : Account.Signed svc.scheme live p
      · have good := signed
        obtain ⟨n, rfl, _⟩ := good
        have own := ((Store.liveSome indexed.nonces).mp current).1
        refine .inr ⟨signed, n, u, rfl, found, ?_⟩
        simp only [accepted, checked, replacement, record, wallet, proof, owned]
        exact performRun (loginSigned known current own signed)
      · refine .inl ⟨signed, ?_⟩
        simp only [rejected, record, wallet, proof, owned]
        exact performRun (loginUnsigned known current signed)
    · exact .inl ⟨.userNotFound p.wallet, by simp [refusal?, unowned], performRun (loginUnknown free)⟩
  | addWallet session p =>
    rcases Account.accountCases indexed session with ⟨u, held, present, holding, known⟩ | ⟨unheld, free⟩
    · obtain ⟨holder, found, owned⟩ := Account.accountHolder indexed p.wallet
      by_cases same : ∀ h, holder = some h → h.id = u.id
      · have mine : ∀ id, svc.store.owner? p.wallet = some id → id = u.id := by
          intro id is
          rw [owned, Option.map_eq_some_iff] at is
          obtain ⟨h, some, rfl⟩ := is
          exact same h some
        have passed : (addWallet session p).refusal? svc.store = none := by
          cases holder with
          | none => simp [refusal?, held, owned]
          | some h => simp [refusal?, held, owned, same h rfl]
        refine .inr ⟨passed, live, current, ?_⟩
        by_cases signed : Account.Signed svc.scheme live p
        · have good := signed
          obtain ⟨n, rfl, _⟩ := good
          have own := ((Store.liveSome indexed.nonces).mp current).1
          refine .inr ⟨signed, n, u, rfl, holding, ?_⟩
          simp only [accepted, checked, replacement, record, wallet, proof, owned]
          exact performAndOk (addWalletSigned known found same present mine current own signed)
        · refine .inl ⟨signed, ?_⟩
          simp only [rejected, record, wallet, proof, owned]
          exact performAndDenied (addWalletUnsigned known found same current signed)
      · obtain ⟨other, rfl, differ⟩ : ∃ other, holder = some other ∧ other.id ≠ u.id := by
          simpa using same
        have refused : (addWallet session p).refusal? svc.store = some (.addressTaken p.wallet) := by
          simp [refusal?, held, owned, differ]
        exact .inl ⟨_, refused, performAndError (addWalletTaken known found differ)⟩
    · exact .inl ⟨.userNotFound session, by simp [refusal?, unheld],
        performAndError (addWalletUnknown free)⟩

theorem loginOwned {n : Nonce} {id : String} (indexed : svc.store.Indexed)
    (owned : svc.store.owner? p.wallet = some id) (live : svc.store.liveNonce p.wallet = .ok (some n))
    (signed : Account.Signed svc.scheme (some n) p) (supply : Supply) (caller : Caller) :
    (svc.login supply caller p).1 =
      .ok (.accepted p.wallet id (some (tokenUnder svc.issuer (sessionKey (supply 2) p.wallet)))) := by
  rcases Account.accountCases indexed p.wallet with ⟨u, owner, _, _, known⟩ | ⟨free, _⟩
  · cases owned.symm.trans owner
    have own := ((Store.liveSome indexed.nonces).mp live).1
    exact congrArg Prod.fst (performRun (loginSigned known live own signed))
  · simp [owned] at free

end Gated
end HolderGate
