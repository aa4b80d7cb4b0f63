import HolderGate.Proofs.CallEffect
import HolderGate.Proofs.SignedToken

/-! What an operation with a signature does to a service, whatever was called before: it is refused, or rejected with
an audit record and nothing else, or accepted with all that it is for. -/
namespace HolderGate
open Identity Auth Newest

namespace Service

structure Fresh (s : Store) (supply : Supply) : Prop where
  users : ∀ k, s.users.get? (supply k).id = none
  attempts : ∀ k, s.attempts.get? (supply k).id = none
  nonces : ∀ k n, Holds s.nonces n → n.id ≠ (supply k).id
  sessionKeys : ∀ k key, Holds s.sessionKeys key → key.id ≠ (supply k).id

structure Rotated (s : Store) (w : Wallet) (n next : Nonce) (rotated : Store) : Prop where
  first : rotated.liveNonce w = .ok (some next) ↔ s.Supersedes next
  second : ¬ s.Supersedes next → rotated.liveNonce w = .ok (some n)
  countable : n.createdAt.Countable → next.createdAt.Countable → s.Supersedes next

variable {svc : Service} {supply : Supply} {caller : Caller} {op : Gated} {s : Store} {n : Nonce}

def Records (before later : Store) (a : Attempt) : Prop :=
  later.attempts = before.attempts.insert a.id (.ok a) ∧
    later.attempts.entries.length = before.attempts.entries.length + 1

theorem recordsNew {before later : Store} {a : Attempt} (absent : before.attempts.get? a.id = none)
    (same : later.attempts = before.attempts.insert a.id (.ok a)) : Records before later a := by
  refine ⟨same, ?_⟩
  rw [same]
  exact SortedMap.placeLength absent

theorem grantKeeps (u : User) :
    (op.grant supply u s).nonces = s.nonces ∧ (op.grant supply u s).attempts = s.attempts := by
  cases op with
  | create p => exact ⟨rfl, rfl⟩
  | login p => exact ⟨rfl, rfl⟩
  | addWallet session p =>
    simp only [Gated.grant, Store.linked]
    split <;> exact ⟨rfl, rfl⟩

theorem grantSessionKeys (fresh : Fresh s supply) (later : Store) (same : later.sessionKeys = s.sessionKeys)
    (u : User) : Extends s.sessionKeys (op.grant supply u later).sessionKeys := by
  have added : ∀ k w, Extends s.sessionKeys (put later.sessionKeys (Gated.sessionKey (supply k) w)) := by
    intro k w
    rw [same]
    exact extendsPut (fresh.sessionKeys k)
  cases op with
  | create p => exact added 3 p.wallet
  | login p => exact added 2 p.wallet
  | addWallet session p =>
    have kept : ((Gated.addWallet session p).grant supply u later).sessionKeys = later.sessionKeys := by
      simp only [Gated.grant, Store.linked]
      split <;> rfl
    rw [kept, same]
    exact fun _ held => held

theorem acceptedRotated (indexed : svc.store.Indexed) (u : User)
    (live : svc.store.liveNonce op.wallet = .ok (some n)) :
    Rotated svc.store op.wallet n (op.replacement supply svc.store n) (op.accepted supply caller svc n u).2.store := by
  have own : (op.replacement supply svc.store n).wallet = op.wallet := ((Store.liveSome indexed.nonces).mp live).1
  -- Nothing that the operation is for touches the nonces, so the replacement alone decides.
  have same : (op.accepted supply caller svc n u).2.store.liveNonce op.wallet =
      (svc.store.insertNonce (op.replacement supply svc.store n)).liveNonce op.wallet := by
    rw [Gated.accepted, announceAnyStore]
    exact Store.liveSame (grantKeeps u).1
  refine ⟨?first, fun unmet => ?second, fun known next => ?countable⟩
  case first =>
    rw [same, ← own]
    exact Store.insertedLive indexed.nonces
  case second =>
    rw [same, Store.supersededLive indexed.nonces unmet]
    exact live
  case countable =>
    intro other current
    rw [own] at current
    cases live.symm.trans current
    exact .inl (Store.laterThanPrevious known next)

/-- An operation on a signature is refused and changes nothing, or finds no good signature and leaves one audit record
of that, or finds one and does all that it is for. The nonce that it then puts in is the live one from then on exactly
where the index puts it before the one that was, and that one stays live otherwise. -/
theorem allOrNothing (reachable : Reachable svc) (fresh : Fresh svc.store supply) (caller : Caller) (op : Gated)
    (lasting : ∀ key ∈ op.key? supply, (svc.issuer.claims key.wallet key.createdAt).Signable) :
    (∀ e, op.refusal? svc.store = some e → op.run svc supply caller = (.error e, svc)) ∧
    (op.refusal? svc.store = none → ∃ live, svc.store.liveNonce op.wallet = .ok live ∧
      (¬ Account.Signed svc.scheme live op.proof →
        op.run svc supply caller = op.rejected supply caller svc live ∧
        Records svc.store (op.rejected supply caller svc live).2.store
          (op.record supply caller svc.store live false)) ∧
      (Account.Signed svc.scheme live op.proof →
        ∃ n u, live = some n ∧ op.For svc.store supply u ∧
          (∀ p, op = .create p → svc.store.users.get? u.id = none) ∧
          op.run svc supply caller = op.accepted supply caller svc n u ∧
          (∀ key ∈ op.key? supply, ∃ t, Presented.ofText? (Gated.tokenUnder svc.issuer key) = some t ∧
            t.claims = svc.issuer.claims key.wallet key.createdAt) ∧
          Records svc.store (op.accepted supply caller svc n u).2.store
            (op.record supply caller svc.store live true) ∧
          Extends svc.store.nonces (op.accepted supply caller svc n u).2.store.nonces ∧
          Extends svc.store.sessionKeys (op.accepted supply caller svc n u).2.store.sessionKeys ∧
          Rotated svc.store op.wallet n (op.replacement supply svc.store n)
            (op.accepted supply caller svc n u).2.store)) := by
  have indexed := reachableIndexed reachable
  rcases Gated.outcomes indexed op supply caller with ⟨e, refused, same⟩ | ⟨passed, live, current, ends⟩
  · refine ⟨?_, fun passed => by simp [refused] at passed⟩
    intro other found
    cases refused.symm.trans found
    exact same
  · refine ⟨fun e found => by simp [passed] at found, fun _ => ⟨live, current, ?rejected, ?accepted⟩⟩
    case rejected =>
      intro unsigned
      rcases ends with ⟨_, same⟩ | ⟨signed, _⟩
      · exact ⟨same, recordsNew (fresh.attempts 1) rfl⟩
      · exact absurd signed unsigned
    case accepted =>
      intro signed
      rcases ends with ⟨unsigned, _⟩ | ⟨_, n, u, rfl, whose, same⟩
      · exact absurd signed unsigned
      · refine ⟨n, u, rfl, whose, ?user, same, ?token, ?attempts, ?nonces, ?keys, acceptedRotated indexed u current⟩
        case user =>
          rintro p rfl
          cases whose
          exact fresh.users 2
        case token => exact fun key is => ⟨_, presentedSigned svc.issuer key.secret (lasting key is), rfl⟩
        case attempts =>
          refine recordsNew (fresh.attempts 1) ?_
          rw [Gated.accepted, announceAnyStore, (grantKeeps u).2]
          rfl
        case nonces =>
          rw [Gated.accepted, announceAnyStore, (grantKeeps u).1]
          exact extendsPut (fresh.nonces 0)
        case keys =>
          rw [Gated.accepted, announceAnyStore]
          exact grantSessionKeys fresh (op.checked supply caller svc.store n) rfl u

def trusting : Service where
  store := .empty
  queue := .ofCapacity 1
  pool := none
  node := .idle
  clock := 0
  -- Every well-formed signature is one of the zero wallet.
  scheme := ⟨fun _ => [], fun _ _ _ => some ⟨1, 1⟩, fun _ _ _ => true⟩
  issuer := ⟨"issuer", 60, fun _ _ => []⟩
  topic := "accounts"
  bus := .empty
  attended := false

def zeroWallet : Wallet := .ofAddress .zero

def stamp : Proof := ⟨zeroWallet, String.ofList (List.replicate 65 ['0', '1']).flatten, none⟩

def still (name : String) (seconds : Int) : Supply := fun _ => ⟨name, ⟨seconds, 0⟩, []⟩

def asked (seconds : Int) : Service := (trusting.preflight (still "a" seconds) zeroWallet).2

def challenge (seconds : Int) : Nonce := ⟨"a", ⟨seconds, 0⟩, "", none, zeroWallet⟩

theorem askedReachable (seconds : Int) : Reachable (asked seconds) :=
  ⟨trusting, [.preflight (still "a" seconds) zeroWallet], rfl, rfl⟩

theorem askedStore (seconds : Int) : (asked seconds).store = Store.empty.insertNonce (challenge seconds) := rfl

theorem askedFresh (seconds later : Int) : Fresh (asked seconds).store (still "b" later) := by
  rw [askedStore]
  refine ⟨fun _ => rfl, fun _ => rfl, ?_, ?_⟩
  · intro k n held
    rcases holdsPut.mp held with rfl | ⟨_, none⟩
    · simp [challenge, still]
    · simp [Holds, Store.empty] at none
  · intro k key held
    simp [Holds, Store.insertNonce, Store.empty] at held

theorem stampSigned (seconds : Int) : Account.Signed trusting.scheme (some (challenge seconds)) stamp := by
  have good : verify trusting.scheme stamp.signature (utf8 "") zeroWallet = .ok true :=
    toOptionSome.mp (by decide +kernel)
  exact ⟨challenge seconds, rfl, by simp [stamp], good⟩

theorem allOrNothingSignup :
    Reachable (asked 5) ∧ Fresh (asked 5).store (still "b" 4) ∧
      (∀ key ∈ (Gated.create stamp).key? (still "b" 4),
        ((asked 5).issuer.claims key.wallet key.createdAt).Signable) ∧
      (asked 5).store.liveNonce zeroWallet = .ok (some (challenge 5)) ∧
      Account.Signed (asked 5).scheme (some (challenge 5)) stamp ∧
      (∃ user token, ((Gated.create stamp).run (asked 5) (still "b" 4) .unknown).1 =
          .ok (.accepted zeroWallet user (some token)) ∧
        (Presented.ofText? token).map Presented.claims = some ⟨zeroWallet, "issuer", 4, 64⟩) ∧
      ((Gated.create stamp).run (asked 5) (still "b" 4) .unknown).2.store.liveNonce zeroWallet =
        .ok (some ⟨"b", ⟨5, 1⟩, "", none, zeroWallet⟩) := by
  have lasting : ∀ key ∈ (Gated.create stamp).key? (still "b" 4),
      ((asked 5).issuer.claims key.wallet key.createdAt).Signable := by
    rintro _ ⟨⟩
    decide
  have current : (asked 5).store.liveNonce zeroWallet = .ok (some (challenge 5)) := by decide +kernel
  obtain ⟨_, granted⟩ := allOrNothing (askedReachable 5) (askedFresh 5 4) .unknown (.create stamp) lasting
  obtain ⟨live, found, _, accepted⟩ := granted rfl
  cases current.symm.trans found
  obtain ⟨n, u, same, _, _, ran, token, _, _, _, rotated⟩ := accepted (stampSigned 5)
  cases same
  obtain ⟨t, reads, claims⟩ := token _ rfl
  refine ⟨askedReachable 5, askedFresh 5 4, lasting, current, stampSigned 5, ⟨u.id, _, congrArg Prod.fst ran, ?_⟩, ?_⟩
  · rw [reads, Option.map_some, claims]
    rfl
  · rw [ran]
    exact rotated.first.mpr (rotated.countable (by decide) (by decide +kernel))

-- Past the last instant that the index tells apart from those after it.
def farOff : Int := 0x300000000

/-- There the index counts a replacement as no later than the nonce before it, and what was signed once is good for
another session. -/
theorem spentNonceStaysLive :
    ∃ user token later, Reachable (asked farOff) ∧ Fresh (asked farOff).store (still "b" farOff) ∧
      (∀ key ∈ (Gated.create stamp).key? (still "b" farOff),
        ((asked farOff).issuer.claims key.wallet key.createdAt).Signable) ∧
      (asked farOff).store.liveNonce zeroWallet = .ok (some (challenge farOff)) ∧
      Account.Signed (asked farOff).scheme (some (challenge farOff)) stamp ∧
      (Gated.create stamp).run (asked farOff) (still "b" farOff) .unknown =
        (.ok (.accepted zeroWallet user (some token)), later) ∧
      later.store.liveNonce zeroWallet = .ok (some (challenge farOff)) ∧
      ∃ again, ((Gated.login stamp).run later (still "c" farOff) .unknown).1 =
        .ok (.accepted zeroWallet user (some again)) := by
  have lasting : ∀ key ∈ (Gated.create stamp).key? (still "b" farOff),
      ((asked farOff).issuer.claims key.wallet key.createdAt).Signable := by
    rintro _ ⟨⟩
    decide
  have current : (asked farOff).store.liveNonce zeroWallet = .ok (some (challenge farOff)) := by
    decide +kernel
  have signed := stampSigned farOff
  have indexed := reachableIndexed (askedReachable farOff)
  rcases Gated.outcomes indexed (.create stamp) (still "b" farOff) .unknown
    with ⟨e, refused, _⟩ | ⟨_, live, found, ⟨unsigned, _⟩ | ⟨_, n, u, rfl, rfl, ran⟩⟩
  · cases refused
  · cases current.symm.trans found
    exact absurd signed unsigned
  · cases current.symm.trans found
    have behind : ¬ (asked farOff).store.Supersedes ((Gated.create stamp).replacement (still "b" farOff)
        (asked farOff).store (challenge farOff)) := by
      intro supersedes
      have first := supersedes (challenge farOff) current
      revert first
      decide +kernel
    have kept := (@acceptedRotated _ _ .unknown (.create stamp) _ indexed
      (Account.newUser (still "b" farOff 2) zeroWallet) current).second behind
    have later := callIndexed indexed (.gated (still "b" farOff) .unknown (.create stamp))
    rw [Call.run, ran] at later
    refine ⟨_, _, _, askedReachable farOff, askedFresh farOff farOff, lasting, current, signed, ran, kept, ?_⟩
    exact ⟨_, Gated.loginOwned later rfl kept signed (still "c" farOff) .unknown⟩

end Service
end HolderGate
