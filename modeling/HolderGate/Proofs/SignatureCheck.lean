import HolderGate.Auth.Account
import HolderGate.Proofs.LiveDocument

/-! What handing out a nonce and checking a signature leave behind. A signature over the live nonce puts
a successor in its place, any other changes nothing, and both go into the audit log. -/
namespace HolderGate.Auth
open Identity

namespace Action

variable {α β : Type} {s later : Store}

theorem bindOk {a : Action α} {f : α → Action β} {v : α} (h : a s = (.ok v, later)) :
    (a >>= f) s = f v later := by
  simp only [bind, ExceptT.bind, ExceptT.mk, StateT.bind, h, ExceptT.bindCont]

theorem bindError {a : Action α} {f : α → Action β} {e : AccountError} (h : a s = (.error e, later)) :
    (a >>= f) s = (.error e, later) := by
  simp only [bind, ExceptT.bind, ExceptT.mk, StateT.bind, h, ExceptT.bindCont]
  rfl

theorem boundOk {a : Action α} {f : α → Action β} {v : β} (ran : (a >>= f) s = (.ok v, later)) :
    ∃ x between, a s = (.ok x, between) ∧ f x between = (.ok v, later) := by
  cases first : a s with
  | mk result between =>
    cases result with
    | ok x =>
      rw [bindOk first] at ran
      exact ⟨x, between, rfl, ran⟩
    | error e =>
      rw [bindError first] at ran
      cases ran

@[simp] theorem throwRun (e : AccountError) : (throw e : Action α) s = (.error e, s) := rfl

theorem readOk {f : Store → Except StoreError α} {v : α} (h : f s = .ok v) : read f s = (.ok v, s) := by
  simp only [read, h]

theorem transactOk {f : Store → Except StoreError (α × Store)} {v : α} (h : f s = .ok (v, later)) :
    transact f s = (.ok v, later) := by
  simp only [transact, h]

theorem claimingOk {f : Store → Except StoreError (α × Store)} {v : α} {w : Wallet}
    (h : f s = .ok (v, later)) : claiming w f s = (.ok v, later) := by
  simp only [claiming, h]

end Action

namespace Account

def successor (draw : Draw) (owner : Option String) (live : Nonce) : Nonce :=
  { Challenge.fresh draw live.wallet owner with createdAt := Store.later draw.now live.createdAt }

def attempt (draw : Draw) (caller : Caller) (owner : Option String) (p : Proof) (live : Option Nonce)
    (valid : Bool) : Attempt :=
  ⟨draw.id, p.wallet, p.signature, (live.map (·.value)).getD "", owner.isSome, valid,
    caller.host, caller.headers, draw.now⟩

def Signed (scheme : Scheme) (live : Option Nonce) (p : Proof) : Prop :=
  ∃ n, live = some n ∧ (∀ supplied ∈ p.nonce, supplied = n.value) ∧
    verify scheme p.signature (utf8 n.value) p.wallet = .ok true

variable {scheme : Scheme} {supply : Supply} {caller : Caller} {owner : Option String} {p : Proof}
  {s : Store} {live : Option Nonce}

def denied {α : Type} (v : Except SignatureError Bool) (rejected : α) : Except AccountError α :=
  match v with
  | .ok _ => .ok rejected
  | .error e => .error (.signature e)

theorem signedIff : Signed scheme live p ↔ verdict scheme live p = .ok true := by
  unfold Signed verdict
  cases live with
  | none => simp
  | some n =>
    have supplied : p.nonce.all (· == n.value) = true ↔ ∀ supplied ∈ p.nonce, supplied = n.value := by
      cases p.nonce <;> simp
    simp only [Option.some.injEq, exists_eq_left', ← supplied]
    split
    next same => exact and_iff_right same
    next differ => simp [differ]

theorem preflightUnknown {w : Wallet} (found : userOf? w s = (.ok none, s)) :
    preflight supply w s =
      (.ok ⟨(Challenge.fresh (supply 0) w none).value, false⟩,
        s.insertNonce (Challenge.fresh (supply 0) w none)) := by
  unfold preflight
  rw [Action.bindOk found]
  rfl

theorem preflightLive {w : Wallet} {u : User} {n : Nonce} (found : userOf? w s = (.ok (some u), s))
    (current : s.liveNonce w = .ok (some n)) : preflight supply w s = (.ok ⟨n.value, true⟩, s) := by
  have kept : Challenge.liveOrIssue (supply 0) w (some u.id) s = .ok (n, s) := by
    simp only [Challenge.liveOrIssue, current, bind, Except.bind]
  unfold preflight
  rw [Action.bindOk found]
  exact Action.bindOk (Action.transactOk kept)

theorem preflightFirst {w : Wallet} {u : User} (found : userOf? w s = (.ok (some u), s))
    (current : s.liveNonce w = .ok none) :
    preflight supply w s =
      (.ok ⟨(Challenge.fresh (supply 0) w (some u.id)).value, true⟩,
        s.insertNonce (Challenge.fresh (supply 0) w (some u.id))) := by
  have issued : Challenge.liveOrIssue (supply 0) w (some u.id) s =
      .ok (Challenge.issue (supply 0) w (some u.id) s) := by
    simp only [Challenge.liveOrIssue, current, bind, Except.bind]
  unfold preflight
  rw [Action.bindOk found]
  exact Action.bindOk (Action.transactOk issued)

theorem consumeLive {n : Nonce} (found : s.liveNonce p.wallet = .ok (some n)) (own : n.wallet = p.wallet)
    (draw : Draw) (owner : Option String) :
    Challenge.consume draw p.wallet n.value owner s =
      .ok (some (successor draw owner n), s.insertNonce (successor draw owner n)) := by
  unfold Challenge.consume Store.consumeNonce successor
  simp only [Challenge.fresh, found, own, bind, Except.bind, ↓reduceIte]

theorem checkSigned {n : Nonce} (found : s.liveNonce p.wallet = .ok (some n)) (own : n.wallet = p.wallet)
    (signed : Signed scheme (some n) p) :
    check scheme supply caller owner p s =
      (.ok true, (s.insertNonce (successor (supply 0) owner n)).recordAttempt
        (attempt (supply 1) caller owner p (some n) true)) := by
  unfold check
  rw [Action.bindOk (Action.readOk found)]
  have spent : settle (supply 0) p.wallet n.value owner (verdict scheme (some n) p) s =
      (.ok (.ok true), s.insertNonce (successor (supply 0) owner n)) := by
    rw [signedIff.mp signed]
    simp only [settle]
    rw [Action.bindOk (Action.transactOk (consumeLive found own (supply 0) owner))]
    rfl
  exact Action.bindOk spent

theorem checkUnsigned (found : s.liveNonce p.wallet = .ok live) (unsigned : ¬ Signed scheme live p) :
    check scheme supply caller owner p s =
      (denied (verdict scheme live p) false,
        s.recordAttempt (attempt (supply 1) caller owner p live false)) := by
  unfold check
  rw [Action.bindOk (Action.readOk found)]
  rw [signedIff] at unsigned
  cases answer : verdict scheme live p with
  | error e => rfl
  | ok b =>
    cases b with
    | true => exact absurd answer unsigned
    | false => rfl

theorem gateSigned {α : Type} {c : Action Bool} {a : Action α} {r : α} {later : Store}
    (h : c s = (.ok true, later)) : (do if ← c then a else pure r) s = a later := by
  rw [Action.bindOk h]
  rfl

theorem gateUnsigned {α : Type} {c : Action Bool} {a : Action α} {r : α} {later : Store}
    {v : Except SignatureError Bool} (h : c s = (denied v false, later)) :
    (do if ← c then a else pure r) s = (denied v r, later) := by
  cases v with
  | ok b =>
    rw [Action.bindOk h]
    rfl
  | error e =>
    rw [Action.bindError h]
    rfl

end Account
end HolderGate.Auth
