import HolderGate.Proofs.StandingChallenge

/-! The challenge that a wallet is handed, and what its signatures are then held against. A user gets the live nonce.
A nonce made for the wallet is the live one where the index puts it before that of before, which it does by the clock
and then by identifier. Otherwise it only joins the nonces that no signature is held against. -/
namespace HolderGate
open Identity Auth Newest

namespace Service

structure HeldAgainst (svc : Service) (supply : Supply) (caller : Caller) (op : Gated) (text : String) : Prop where
  good : verify svc.scheme op.proof.signature (utf8 text) op.wallet = .ok true →
    ∃ user token, (op.run svc supply caller).1 = .ok (.accepted op.wallet user token)
  bad : verify svc.scheme op.proof.signature (utf8 text) op.wallet = .ok false →
    (op.run svc supply caller).1 = .ok (.rejected op.wallet)
  malformed : ∀ e, verify svc.scheme op.proof.signature (utf8 text) op.wallet = .error e →
    (op.run svc supply caller).1 = .error (.signature e)

variable {svc : Service} {supply : Supply} {caller : Caller} {op : Gated} {n : Nonce} {w : Wallet}

theorem verdictUnsupplied (supplied : ∀ given ∈ op.proof.nonce, given = n.value) :
    Account.verdict svc.scheme (some n) op.proof = verify svc.scheme op.proof.signature (utf8 n.value) op.wallet := by
  have all : op.proof.nonce.all (· == n.value) = true := by
    cases given : op.proof.nonce with
    | none => rfl
    | some text => simpa using supplied text given
  exact if_pos all

theorem verdictOther {given : String} (supplied : op.proof.nonce = some given) (other : given ≠ n.value) :
    Account.verdict svc.scheme (some n) op.proof = .ok false := by
  refine if_neg ?_
  simp [supplied, other]

theorem heldAgainstLive (indexed : svc.store.Indexed) (live : svc.store.liveNonce op.wallet = .ok (some n))
    (passed : op.refusal? svc.store = none) (supplied : ∀ given ∈ op.proof.nonce, given = n.value) :
    HeldAgainst svc supply caller op n.value := by
  rcases Gated.outcomes indexed op supply caller with
    ⟨e, refused, _⟩ | ⟨_, current, found, ⟨unsigned, ran⟩ | ⟨signed, _, u, is, _, ran⟩⟩
  · simp [passed] at refused
  · cases live.symm.trans found
    rw [Account.signedIff, verdictUnsupplied supplied] at unsigned
    rw [Gated.rejected, verdictUnsupplied supplied] at ran
    exact ⟨fun good => absurd good unsigned, fun bad => by rw [ran, bad]; rfl, fun e bad => by rw [ran, bad]; rfl⟩
  · cases live.symm.trans found
    have good := Account.signedIff.mp signed
    rw [verdictUnsupplied supplied] at good
    exact ⟨fun _ => ⟨u.id, _, congrArg Prod.fst ran⟩, fun bad => by simp [good] at bad, fun e bad => by simp [good] at bad⟩

theorem otherRejected (indexed : svc.store.Indexed) (live : svc.store.liveNonce op.wallet = .ok (some n))
    (passed : op.refusal? svc.store = none) {given : String} (supplied : op.proof.nonce = some given)
    (other : given ≠ n.value) : (op.run svc supply caller).1 = .ok (.rejected op.wallet) := by
  have bad : Account.verdict svc.scheme (some n) op.proof = .ok false := verdictOther supplied other
  rcases Gated.outcomes indexed op supply caller with
    ⟨e, refused, _⟩ | ⟨_, current, found, ⟨_, ran⟩ | ⟨signed, _, _, _, _, _⟩⟩
  · simp [passed] at refused
  · cases live.symm.trans found
    rw [ran, Gated.rejected, bad]
    rfl
  · cases live.symm.trans found
    simp [Account.signedIff.mp signed] at bad

theorem preflightKnown {s : Store} (indexed : s.Indexed) (challenged : s.Challenged) {id : String}
    (owned : s.owner? w = some id) (supply : Supply) :
    ∃ n, Account.preflight supply w s = (.ok ⟨n.value, true⟩, s) ∧ s.latestNonce w = .ok n := by
  obtain ⟨n, live, latest⟩ := challenged.live indexed.nonces owned
  rcases Account.accountCases indexed w with ⟨u, _, _, _, known⟩ | ⟨free, _⟩
  · exact ⟨n, Account.preflightLive known live, latest⟩
  · simp [owned] at free

theorem preflightUnowned {s : Store} (indexed : s.Indexed) (free : s.owner? w = none) (supply : Supply) :
    Account.preflight supply w s = (.ok ⟨(Challenge.fresh (supply 0) w none).value, false⟩,
      s.insertNonce (Challenge.fresh (supply 0) w none)) := by
  rcases Account.accountCases indexed w with ⟨u, owned, _⟩ | ⟨_, unknown⟩
  · simp [owned] at free
  · exact Account.preflightUnknown unknown

theorem heldAgainstLatest (indexed : svc.store.Indexed) (latest : svc.store.latestNonce w = .ok n)
    (own : op.wallet = w) (passed : op.refusal? svc.store = none) (supply : Supply) (caller : Caller) :
    ((∀ given ∈ op.proof.nonce, given = n.value) → HeldAgainst svc supply caller op n.value) ∧
    ∀ given, op.proof.nonce = some given → given ≠ n.value →
      (op.run svc supply caller).1 = .ok (.rejected w) := by
  subst own
  have live := (Store.latestLive indexed.nonces).mp latest
  exact ⟨heldAgainstLive indexed live passed, fun _ => otherRejected indexed live passed⟩

/-- The challenge handed out to a user is the live nonce. One that is made for another wallet is the live nonce from
then on if it supersedes the one before, and if not that one stays live. Either way signatures are held against the
live nonce, so one that is said to be over any other is rejected. -/
theorem challengeHandedOut (empty : svc.store = .empty) (calls : List Call) (supply : Supply) (w : Wallet) :
    ∃ value known later latest,
      (after svc calls).preflight supply w = (.ok ⟨value, known⟩, later) ∧
      known = ((after svc calls).store.owner? w).isSome ∧
      (known = false → value = (supply 0).secret Challenge.valueLength) ∧
      later.store.latestNonce w = .ok latest ∧
      (known = true ∨ (after svc calls).store.Supersedes (Challenge.fresh (supply 0) w none) →
        latest.value = value) ∧
      (known = false → ¬ (after svc calls).store.Supersedes (Challenge.fresh (supply 0) w none) →
        (after svc calls).store.latestNonce w = .ok latest) ∧
      (∀ draw user, (Challenge.issue draw w user (after svc calls).store).2.latestNonce w =
          .ok (Challenge.fresh draw w user) ↔
        (after svc calls).store.Supersedes (Challenge.fresh draw w user)) ∧
      ∀ next caller op, op.wallet = w → op.refusal? later.store = none →
        ((∀ given ∈ op.proof.nonce, given = latest.value) → HeldAgainst later next caller op latest.value) ∧
        ∀ given, op.proof.nonce = some given → given ≠ latest.value →
          (op.run later next caller).1 = .ok (.rejected w) := by
  have reachable : Reachable (after svc calls) := ⟨svc, calls, empty, rfl⟩
  have indexed := reachableIndexed reachable
  have issued : ∀ draw user, (Challenge.issue draw w user (after svc calls).store).2.latestNonce w =
      .ok (Challenge.fresh draw w user) ↔ (after svc calls).store.Supersedes (Challenge.fresh draw w user) :=
    fun draw user => Store.insertedLatest (n := Challenge.fresh draw w user) indexed.nonces
  cases owned : (after svc calls).store.owner? w with
  | some id =>
    obtain ⟨n, ran, latest⟩ := preflightKnown indexed (reachableChallenged reachable) owned supply
    have handed : (after svc calls).preflight supply w = (.ok ⟨n.value, true⟩, after svc calls) :=
      Gated.performRun ran
    exact ⟨n.value, true, _, n, handed, rfl, by simp, latest, fun _ => rfl, by simp, issued,
      fun next caller op own passed => heldAgainstLatest indexed latest own passed next caller⟩
  | none =>
    have ran := preflightUnowned indexed owned supply
    have handed : (after svc calls).preflight supply w =
        (.ok ⟨(Challenge.fresh (supply 0) w none).value, false⟩, { after svc calls with
          store := (after svc calls).store.insertNonce (Challenge.fresh (supply 0) w none) }) :=
      Gated.performRun ran
    have later : ((after svc calls).store.insertNonce (Challenge.fresh (supply 0) w none)).Indexed :=
      indexedInsertNonce indexed _
    have held : Holds ((after svc calls).store.insertNonce (Challenge.fresh (supply 0) w none)).nonces
        (Challenge.fresh (supply 0) w none) := holdsNew _
    obtain ⟨document, present⟩ := firstPresent held
    obtain ⟨latest, rfl, _⟩ := (firstSome later.nonces).mp present
    have current : ((after svc calls).store.insertNonce (Challenge.fresh (supply 0) w none)).latestNonce w =
        .ok latest := Store.foundOk.mpr present
    refine ⟨_, false, _, latest, handed, rfl, fun _ => rfl, current, ?supersedes, ?superseded, issued,
      fun next caller op own passed => heldAgainstLatest later current own passed next caller⟩
    case supersedes =>
      rintro (known | supersedes)
      · contradiction
      · cases current.symm.trans (Store.supersedesLatest indexed.nonces supersedes)
        rfl
    case superseded =>
      intro _ unmet
      rw [← current]
      exact (Store.supersededLatest indexed.nonces unmet).symm

def tossed (name : String) (seconds : Int) (octet : UInt8) : Supply := fun _ => ⟨name, ⟨seconds, 0⟩, [octet]⟩

def askedAt (seconds : Int) : Service := after trusting [.preflight (tossed "a" seconds 1) zeroWallet]

theorem stampOver : verify trusting.scheme stamp.signature (utf8 "02") zeroWallet = .ok true :=
  toOptionSome.mp (by decide +kernel)

theorem challengeHandedOutAgain :
    (askedAt 5).store.Supersedes (Challenge.fresh (tossed "b" 9 2 0) zeroWallet none) ∧
      ∃ later, (askedAt 5).preflight (tossed "b" 9 2) zeroWallet = (.ok ⟨"02", false⟩, later) ∧
        (∃ latest, later.store.latestNonce zeroWallet = .ok latest ∧ latest.value = "02") ∧
        ∃ user token, (later.create (tossed "c" 9 3) .unknown stamp).1 = .ok (.accepted zeroWallet user token) := by
  have supersedes : (askedAt 5).store.Supersedes (Challenge.fresh (tossed "b" 9 2 0) zeroWallet none) := by
    intro live current
    have first : (askedAt 5).store.liveNonce zeroWallet = .ok (some ⟨"a", ⟨5, 0⟩, "01", none, zeroWallet⟩) := by
      decide +kernel
    cases first.symm.trans current
    exact .inl (by decide)
  have free : (askedAt 5).store.owner? zeroWallet = none := rfl
  obtain ⟨value, known, later, latest, handed, registered, own, current, same, _, _, held⟩ :=
    challengeHandedOut (show trusting.store = .empty from rfl)
      [.preflight (tossed "a" 5 1) zeroWallet] (tossed "b" 9 2) zeroWallet
  cases registered.trans (congrArg Option.isSome free)
  cases own rfl
  have value := same (.inr supersedes)
  obtain rfl : ((askedAt 5).preflight (tossed "b" 9 2) zeroWallet).2 = later := congrArg Prod.snd handed
  have held := (held (tossed "c" 9 3) .unknown (.create stamp) rfl rfl).1 (by simp [Gated.proof, stamp])
  rw [value] at held
  exact ⟨supersedes, _, handed, ⟨latest, current, value⟩, held.good stampOver⟩

theorem steppedBackClockHidesFresh :
    ∃ later, (askedAt 9).preflight (tossed "b" 5 2) zeroWallet = (.ok ⟨"02", false⟩, later) ∧
      later.store.latestNonce zeroWallet = .ok ⟨"a", ⟨9, 0⟩, "01", none, zeroWallet⟩ ∧
      verify later.scheme stamp.signature (utf8 "02") zeroWallet = .ok true ∧
      (later.create (tossed "c" 9 3) .unknown { stamp with nonce := some "02" }).1 = .ok (.rejected zeroWallet) := by
  refine ⟨_, rfl, toOptionSome.mp (by decide +kernel), stampOver, toOptionSome.mp ?_⟩
  decide +kernel

end Service
end HolderGate
