import HolderGate.Proofs.NonceHistory
import HolderGate.Proofs.SignatureCheck

/-! Requests that take turns on a store, where each turn is one transaction. However the turns fall,
no two requests are accepted for the same nonce of a wallet. -/
namespace HolderGate.Nonces
open Identity Newest Auth

/-- What a request does on the nonces, each transaction after the answer to the one before it. It ends
with the wallet and the value that it was accepted for, if it was. -/
inductive Course where
  | done (accepted : Option (Wallet × String))
  | step (t : Transaction) (rest : Answer → Course)

inductive Request where
  | preflight (draw : Draw) (wallet : Wallet) (user : Option String)
  | gated (scheme : Scheme) (draw : Draw) (owner : Option String) (p : Proof)

namespace Request
open Challenge

def spend (scheme : Scheme) (draw : Draw) (owner : Option String) (p : Proof) (n : Nonce) : Course :=
  match Account.verdict scheme (some n) p with
  | .ok true =>
    .step (.consume n.value (fresh draw p.wallet owner)) fun
      | .ok (some _) => .done (some (p.wallet, n.value))
      | _ => .done none
  | _ => .done none

def course : Request → Course
  | .preflight draw w none => .step (.issue (fresh draw w none)) fun _ => .done none
  | .preflight draw w (some user) =>
    .step (.latest w) fun
      | .ok none => .step (.issue (fresh draw w (some user))) fun _ => .done none
      | _ => .done none
  | .gated scheme draw owner p =>
    .step (.latest p.wallet) fun
      | .ok (some n) => spend scheme draw owner p n
      | _ => .done none

end Request

def Course.alone : Course → Store → Option (Wallet × String) × Store
  | .done accepted, s => (accepted, s)
  | .step t rest, s => (rest (t.run s).1).alone (t.run s).2

inductive Interleaved : List Course → Store → List Event → List Course → Store → Prop where
  | rest (pool s) : Interleaved pool s [] pool s
  | turn {pool s k t rest events final last} (own : pool[k]? = some (.step t rest))
      (next : Interleaved (pool.set k (rest (t.run s).1)) (t.run s).2 events final last) :
      Interleaved pool s ((t, (t.run s).1) :: events) final last

def Course.ended : Course → Option (Wallet × String)
  | .done accepted => accepted
  | .step _ _ => none

def accepted (w : Wallet) (v : String) (pool : List Course) : Nat :=
  pool.countP (fun c => c.ended = some (w, v))

def Course.Sound : Course → Prop
  | .done accepted => accepted = none
  | .step t rest => ∀ answer, (rest answer).Sound ∨
      ∃ w v, rest answer = .done (some (w, v)) ∧ accepts w v (t, answer) = true

variable {scheme : Scheme} {supply : Supply} {caller : Caller} {draw : Draw} {owner : Option String}
  {p : Proof} {s last : Store} {pool final : List Course} {events : List Event} {moves : List Transaction}

theorem preflightAlone {user : Option User} (found : Account.userOf? w s = (.ok user, s))
    (filed : Filed s.nonces) :
    (Account.preflight supply w s).2 =
      ((Request.preflight (supply 0) w (user.map (·.id))).course.alone s).2 := by
  cases user with
  | none =>
    rw [Account.preflightUnknown found]
    rfl
  | some u =>
    obtain ⟨live, current⟩ := Store.liveReadable filed w
    simp only [Option.map_some, Request.course, Course.alone, Transaction.run, current]
    cases live with
    | none =>
      rw [Account.preflightFirst found current]
      rfl
    | some n =>
      rw [Account.preflightLive found current]
      rfl

theorem checkAlone (filed : Filed s.nonces) :
    (Account.check scheme supply caller owner p s).2.nonces =
      ((Request.gated scheme (supply 0) owner p).course.alone s).2.nonces ∧
    ((Account.check scheme supply caller owner p s).1 = .ok true ↔
      ((Request.gated scheme (supply 0) owner p).course.alone s).1.isSome) := by
  obtain ⟨live, current⟩ := Store.liveReadable filed p.wallet
  simp only [Request.course, Course.alone, Transaction.run, current]
  by_cases signed : Account.Signed scheme live p
  · have good := signed
    obtain ⟨n, rfl, _⟩ := good
    have own := ((Store.liveSome filed).mp current).1
    have spent := Account.consumeLive current own (supply 0) owner
    rw [Challenge.consume] at spent
    rw [Account.checkSigned current own signed]
    simp only [Request.spend, Account.signedIff.mp signed, Course.alone, Transaction.run, spent]
    exact ⟨rfl, by simp⟩
  · rw [Account.checkUnsigned current signed]
    have stays : ∀ n, live = some n → Request.spend scheme (supply 0) owner p n = .done none := by
      rintro n rfl
      unfold Request.spend
      split
      next good => exact absurd (Account.signedIff.mpr good) signed
      next => rfl
    cases live with
    | none => exact ⟨rfl, by simp [Account.denied, Account.verdict, Course.alone]⟩
    | some n =>
      simp only [stays n rfl, Course.alone]
      refine ⟨rfl, ?_⟩
      cases Account.verdict scheme (some n) p <;> simp [Account.denied]

theorem interleavedHistory (h : Interleaved pool s events final last) :
    events = history s (events.map Prod.fst) ∧ last = after s (events.map Prod.fst) := by
  induction h with
  | rest => exact ⟨rfl, rfl⟩
  | turn own next ih => exact ⟨congrArg _ ih.1, ih.2⟩

theorem courseSound (r : Request) : r.course.Sound := by
  cases r with
  | preflight draw w user =>
    cases user with
    | none => exact fun _ => .inl rfl
    | some user =>
      intro answer
      left
      dsimp only
      split
      next => exact fun _ => .inl rfl
      next => rfl
  | gated scheme draw owner p =>
    intro answer
    left
    dsimp only
    split
    next n =>
      unfold Request.spend
      split
      next =>
        intro answer
        dsimp only
        split
        next => exact .inr ⟨p.wallet, n.value, rfl, by simp [accepts, Challenge.fresh]⟩
        next => exact .inl rfl
      next => rfl
    next => rfl

theorem acceptedTurn {t : Transaction} {rest : Answer → Course} {k : Nat}
    (own : pool[k]? = some (.step t rest)) (sound : (Course.step t rest).Sound) (answer : Answer)
    (w : Wallet) (v : String) :
    accepted w v (pool.set k (rest answer)) ≤ accepted w v pool + uses w v [(t, answer)] := by
  obtain ⟨inside, same⟩ := List.getElem?_eq_some_iff.mp own
  have before : ¬ (pool[k].ended = some (w, v)) := by
    rw [same]
    simp [Course.ended]
  rw [accepted, accepted, List.countP_set inside, uses, List.countP_singleton]
  have turn : (rest answer).ended = some (w, v) → accepts w v (t, answer) = true := by
    intro ended
    rcases sound answer with quiet | ⟨x, u, done, accepted⟩
    · cases shape : rest answer with
      | done o =>
        rw [shape] at quiet ended
        cases quiet
        cases ended
      | step => simp [shape, Course.ended] at ended
    · rw [done] at ended
      cases ended
      exact accepted
  by_cases ended : (rest answer).ended = some (w, v)
  · simp [before, ended, turn ended]
  · simp [before, ended]

theorem acceptedUses (h : Interleaved pool s events final last)
    (sound : ∀ c ∈ pool, c.Sound ∨ ∃ o, c = .done o) (w : Wallet) (v : String) :
    accepted w v final ≤ accepted w v pool + uses w v events := by
  induction h with
  | rest => exact Nat.le_add_right _ _
  | @turn pool s k t rest events final last own next ih =>
    have quiet : (Course.step t rest).Sound := by
      rcases sound _ (List.mem_of_getElem? own) with quiet | ⟨o, done⟩
      · exact quiet
      · cases done
    have bound := acceptedTurn own quiet (t.run s).1 w v
    have rest := ih (by
      intro c member
      rcases List.mem_or_eq_of_mem_set member with old | rfl
      · exact sound c old
      · rcases quiet (t.run s).1 with quiet | ⟨x, u, done, _⟩
        · exact .inl quiet
        · exact .inr ⟨_, done⟩)
    have split : uses w v ((t, (t.run s).1) :: events) = uses w v [(t, (t.run s).1)] + uses w v events := by
      rw [uses, uses, uses, ← List.countP_append, List.singleton_append]
    omega

theorem acceptedNone (requests : List Request) (w : Wallet) (v : String) :
    accepted w v (requests.map Request.course) = 0 := by
  rw [accepted, List.countP_eq_zero]
  intro c member
  obtain ⟨r, _, rfl⟩ := List.mem_map.mp member
  cases r with
  | preflight draw w user => cases user <;> simp [Request.course, Course.ended]
  | gated => simp [Request.course, Course.ended]

/-- No value of a wallet is accepted twice, and no nonce that has stopped being the live one of its
wallet is the live one again. Whatever turns requests take, they make such a run of transactions,
so no two of them are accepted for one nonce. -/
theorem singleUse {moves : List Transaction} (distinct : Distinct moves)
    (clocked : Clocked (history .empty moves)) :
    (∀ w v, uses w v (history .empty moves) ≤ 1) ∧
    (∀ first second third n, moves = first ++ second ++ third → Live (after .empty first) n →
      ¬ Live (after .empty (first ++ second)) n → ¬ Live (after .empty moves) n) ∧
    ∀ (requests : List Request) events pool s, Interleaved (requests.map Request.course) .empty events pool s →
      events.map Prod.fst = moves →
      events = history .empty moves ∧ s = after .empty moves ∧ ∀ w v, accepted w v pool ≤ 1 := by
  have ready := readyEmpty distinct clocked
  refine ⟨usedAtMostOnce ready, ?retired, ?turns⟩
  case retired =>
    rintro first second third n rfl live retired
    rw [List.append_assoc] at ready ⊢
    obtain ⟨later, _⟩ := ready.run
    rw [afterAppend] at retired ⊢
    exact retiredForGood later live retired
  case turns =>
    rintro requests events pool s turns rfl
    obtain ⟨same, last⟩ := interleavedHistory turns
    refine ⟨same, last, fun w v => ?_⟩
    have bound := acceptedUses turns (by
      intro c member
      obtain ⟨r, _, rfl⟩ := List.mem_map.mp member
      exact .inl (courseSound r)) w v
    have once := usedAtMostOnce ready w v
    rw [← same] at once
    rw [acceptedNone, Nat.zero_add] at bound
    exact Nat.le_trans bound once

def signer : Wallet := .ofAddress (.ofOctets [1])

def asked : Nonce := ⟨"n1", ⟨5, 0⟩, "a", none, signer⟩

def twoSigners : List Transaction :=
  [.issue asked, .latest signer, .latest signer, .consume "a" ⟨"n2", ⟨4, 0⟩, "b", none, signer⟩,
    .consume "a" ⟨"n3", ⟨5, 0⟩, "c", none, signer⟩]

theorem singleUseTwoSigners :
    Distinct twoSigners ∧ Clocked (history .empty twoSigners) ∧
      uses signer "a" (history .empty twoSigners) ≤ 1 ∧ ¬ Live (after .empty twoSigners) asked := by
  have distinct : Distinct twoSigners := by decide
  have clocked : Clocked (history .empty twoSigners) := by decide +kernel
  obtain ⟨once, retired, _⟩ := singleUse distinct clocked
  refine ⟨distinct, clocked, once signer "a", ?_⟩
  exact retired (twoSigners.take 3) (twoSigners.drop 3) [] asked rfl (by decide +kernel) (by decide +kernel)

end HolderGate.Nonces
