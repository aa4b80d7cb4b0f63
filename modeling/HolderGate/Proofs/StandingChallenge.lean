import HolderGate.Proofs.AccountHistory

/-! The challenge and the session of a wallet that has a user, while no good signature of it is answered. What others
do is filed under their own wallets, and what is asked or tried for this one puts in nothing, so both stay. -/
namespace HolderGate
open Identity Auth Newest

namespace Store

structure SameFor (w : Wallet) (s later : Store) : Prop where
  owner : later.owner? w = s.owner? w
  nonce : first later.nonces w = first s.nonces w
  sessionKey : first later.sessionKeys w = first s.sessionKeys w

def Challenged (s : Store) : Prop := ∀ w id, s.owner? w = some id → ∃ document, first s.nonces w = some document

variable {s mid later : Store} {w : Wallet} {id : String}

theorem SameFor.trans (one : SameFor w s mid) (next : SameFor w mid later) : SameFor w s later :=
  ⟨next.owner.trans one.owner, next.nonce.trans one.nonce, next.sessionKey.trans one.sessionKey⟩

theorem Alike.sameFor (alike : s.Alike later) (w : Wallet) : SameFor w s later where
  owner := by rw [owner?, owner?, alike.owners]
  nonce := by rw [alike.nonces]
  sessionKey := by rw [alike.sessionKeys]

theorem Challenged.live (challenged : s.Challenged) (nonces : Filed s.nonces) (owned : s.owner? w = some id) :
    ∃ n, s.liveNonce w = .ok (some n) ∧ s.latestNonce w = .ok n := by
  obtain ⟨document, present⟩ := challenged w id owned
  obtain ⟨n, rfl, _⟩ := (firstSome nonces).mp present
  exact ⟨n, by simp only [liveNonce, present, opened]; rfl, by simp only [latestNonce, present, found, opened]⟩

theorem SameFor.latestNonce (same : SameFor w s later) : later.latestNonce w = s.latestNonce w := by
  rw [Store.latestNonce, same.nonce, Store.latestNonce]

theorem SameFor.liveNonce (same : SameFor w s later) : later.liveNonce w = s.liveNonce w := by
  rw [Store.liveNonce, same.nonce, Store.liveNonce]

theorem SameFor.latestSessionKey (same : SameFor w s later) : later.latestSessionKey w = s.latestSessionKey w := by
  rw [Store.latestSessionKey, same.sessionKey, Store.latestSessionKey]

end Store

namespace Service

def Call.accepts (w : Wallet) (svc : Service) : Call → Bool
  | gated supply caller op =>
    match (op.run svc supply caller).1 with
    | .ok (.accepted v _ _) => v = w
    | _ => false
  | _ => false

def Quiet (w : Wallet) (svc : Service) : List Call → Prop
  | [] => True
  | call :: rest => ¬ call.accepts w svc ∧ Quiet w (call.run svc) rest

instance decideQuiet (w : Wallet) (svc : Service) : (calls : List Call) → Decidable (Quiet w svc calls)
  | [] => isTrue trivial
  | call :: rest =>
    have := decideQuiet w (call.run svc) rest
    inferInstanceAs (Decidable (_ ∧ _))

variable {svc : Service} {calls earlier rest : List Call} {call : Call} {supply : Supply} {caller : Caller}
  {op : Gated} {p : Proof} {s : Store} {w v : Wallet} {id : String} {u : User} {n : Nonce}

theorem grantOwner (other : v ≠ op.wallet) (u : User) (s : Store) : (op.grant supply u s).owner? v = s.owner? v := by
  have owned : ∀ id, (s.own op.wallet id).owner? v = s.owner? v := fun id => by rw [Store.ownerOwn, if_neg other]
  cases op with
  | create p => exact owned u.id
  | login p => rfl
  | addWallet session p =>
    simp only [Gated.grant, Store.linked]
    split
    next => rfl
    next => exact owned u.id

theorem grantSame (other : op.wallet ≠ v) (u : User) (s : Store) : s.SameFor v (op.grant supply u s) where
  owner := grantOwner other.symm u s
  nonce := by rw [(grantKeeps u).1]
  sessionKey := by
    cases op with
    | create p => exact firstOther (d := Gated.sessionKey (supply 3) p.wallet) other
    | login p => exact firstOther (d := Gated.sessionKey (supply 2) p.wallet) other
    | addWallet session p =>
      simp only [Gated.grant, Store.linked]
      split <;> rfl

theorem callSpares (indexed : svc.store.Indexed) (call : Call) (w : Wallet) :
    svc.store.SameFor w (call.run svc).store ∨
    (∃ document, first (call.run svc).store.nonces w = some document) ∧
      (svc.store.owner? w = none ∨ svc.store.liveNonce w = .ok none ∨ call.accepts w svc = true) := by
  cases callEffect indexed call with
  | nothing alike => exact .inl (alike.sameFor w)
  | @challenge supply v owner unlive same =>
    rw [same]
    by_cases mine : v = w
    · subst mine
      exact .inr ⟨firstPresent (holdsNew (Challenge.fresh (supply 0) v owner)), unlive.imp_right .inl⟩
    · exact .inl ⟨rfl, firstOther (d := Challenge.fresh (supply 0) v owner) mine, rfl⟩
  | profile _ _ _ same =>
    rw [same]
    exact .inl ⟨rfl, rfl, rfl⟩
  | rejected _ same =>
    rw [same]
    exact .inl ⟨rfl, rfl, rfl⟩
  | @accepted supply caller op n u _ live _ _ answer same =>
    have own : (op.replacement supply svc.store n).wallet = op.wallet := ((Store.liveSome indexed.nonces).mp live).1
    rw [same]
    by_cases mine : op.wallet = w
    · subst mine
      refine .inr ⟨?_, .inr (.inr (by simp [Call.accepts, answer]))⟩
      rw [(grantKeeps u).1, ← own]
      exact firstPresent (d := op.replacement supply svc.store n) (holdsNew _)
    · have checked : svc.store.SameFor w (op.checked supply caller svc.store n) :=
        ⟨rfl, firstOther (d := op.replacement supply svc.store n) (own.trans_ne mine), rfl⟩
      exact .inl (checked.trans (grantSame mine u _))

theorem callChallenged (indexed : svc.store.Indexed) (challenged : svc.store.Challenged) (call : Call) :
    (call.run svc).store.Challenged := by
  intro w id owned
  rcases callSpares indexed call w with same | ⟨present, _⟩
  · rw [same.owner] at owned
    rw [same.nonce]
    exact challenged w id owned
  · exact present

theorem afterChallenged (indexed : svc.store.Indexed) (challenged : svc.store.Challenged) (calls : List Call) :
    (after svc calls).store.Challenged := by
  induction calls generalizing svc with
  | nil => exact challenged
  | cons call rest ih => exact ih (callIndexed indexed call) (callChallenged indexed challenged call)

theorem reachableChallenged (reachable : Reachable svc) : svc.store.Challenged := by
  obtain ⟨origin, calls, empty, rfl⟩ := reachable
  have unowned : origin.store.Challenged := by
    intro w id owned
    simp [empty, Store.empty, Store.owner?] at owned
  exact afterChallenged (reachableIndexed ⟨origin, [], empty, rfl⟩) unowned calls

theorem quietBefore (quiet : Quiet w svc (earlier ++ rest)) : Quiet w svc earlier := by
  induction earlier generalizing svc with
  | nil => trivial
  | cons call earlier ih => exact ⟨quiet.1, ih quiet.2⟩

theorem quietSpares (indexed : svc.store.Indexed) (challenged : svc.store.Challenged)
    (owned : svc.store.owner? w = some id) (quiet : Quiet w svc calls) :
    svc.store.SameFor w (after svc calls).store := by
  induction calls generalizing svc with
  | nil => exact ⟨rfl, rfl, rfl⟩
  | cons call rest ih =>
    obtain ⟨unaccepted, later⟩ := quiet
    have spared : svc.store.SameFor w (call.run svc).store := by
      refine (callSpares indexed call w).resolve_right ?_
      rintro ⟨_, free | unlive | accepted⟩
      · simp [owned] at free
      · obtain ⟨n, live, _⟩ := challenged.live indexed.nonces owned
        simp [live] at unlive
      · exact unaccepted accepted
    have next :=
      ih (callIndexed indexed call) (callChallenged indexed challenged call) (spared.owner.trans owned) later
    exact spared.trans next

theorem preflightStanding (indexed : svc.store.Indexed) (owned : svc.store.owner? w = some id)
    (live : svc.store.liveNonce w = .ok (some n)) (supply : Supply) :
    (svc.preflight supply w).1 = .ok ⟨n.value, true⟩ := by
  rcases Account.accountCases indexed w with ⟨u, _, _, _, known⟩ | ⟨free, _⟩
  · exact congrArg Prod.fst (Gated.performRun (Account.preflightLive known live))
  · simp [owned] at free

/-- Whatever is called meanwhile, a wallet with a user keeps its challenge and its session until a good signature of it
is answered, and a signature over that challenge is then good for a session of the same user. -/
theorem challengeStands (empty : svc.store = .empty) (prior calls : List Call)
    (owned : (after svc prior).store.owner? w = some id) (quiet : Quiet w (after svc prior) calls) :
    ∃ n, (after svc prior).store.latestNonce w = .ok n ∧
      (∀ earlier rest, calls = earlier ++ rest →
        (after svc (prior ++ earlier)).store.latestNonce w = .ok n ∧
        (after svc (prior ++ earlier)).store.latestSessionKey w = (after svc prior).store.latestSessionKey w ∧
        ∀ supply, ((after svc (prior ++ earlier)).preflight supply w).1 = .ok ⟨n.value, true⟩) ∧
      ∀ supply caller p, p.wallet = w → (∀ supplied ∈ p.nonce, supplied = n.value) →
        verify (after svc (prior ++ calls)).scheme p.signature (utf8 n.value) w = .ok true →
        ((after svc (prior ++ calls)).login supply caller p).1 = .ok (.accepted w id
          (some (Gated.tokenUnder (after svc (prior ++ calls)).issuer (Gated.sessionKey (supply 2) w)))) := by
  have reachable : Reachable (after svc prior) := ⟨svc, prior, empty, rfl⟩
  have indexed := reachableIndexed reachable
  have challenged := reachableChallenged reachable
  obtain ⟨n, live, latest⟩ := challenged.live indexed.nonces owned
  refine ⟨n, latest, ?meanwhile, ?login⟩
  case meanwhile =>
    rintro earlier rest rfl
    have spared := quietSpares indexed challenged owned (quietBefore quiet)
    rw [afterAppend]
    exact ⟨spared.latestNonce.trans latest, spared.latestSessionKey, fun supply =>
      preflightStanding (afterIndexed indexed earlier) (spared.owner.trans owned) (spared.liveNonce.trans live) supply⟩
  case login =>
    rintro supply caller p rfl supplied good
    have spared := quietSpares indexed challenged owned quiet
    rw [afterAppend] at good ⊢
    exact Gated.loginOwned (afterIndexed indexed calls) (spared.owner.trans owned) (spared.liveNonce.trans live)
      ⟨n, rfl, supplied, good⟩ supply caller

def visitor : Wallet := .ofAddress (.ofOctets [7])

def forged : Proof := ⟨zeroWallet, "", none⟩

def commotion : List Call :=
  [.preflight (still "c" 1) visitor, .preflight (still "d" 9) zeroWallet, .gated (still "e" 2) .unknown (.login forged),
    .gated (still "f" 8) .unknown (.addWallet zeroWallet ⟨visitor, stamp.signature, none⟩),
    .gated (still "g" 3) .unknown (.create stamp)]

theorem challengeStandsAmidCommotion :
    (after trusting signup).store.owner? zeroWallet = some "b" ∧
      Quiet zeroWallet (after trusting signup) commotion ∧
      ((after trusting (signup ++ commotion)).preflight (still "h" 4) zeroWallet).1 = .ok ⟨"", true⟩ ∧
      ∃ token, ((after trusting (signup ++ commotion)).login (still "h" 4) .unknown stamp).1 =
        .ok (.accepted zeroWallet "b" (some token)) := by
  have begun : (after trusting signup).store.owner? zeroWallet = some "b" ∧
      Quiet zeroWallet (after trusting signup) commotion ∧
      ((after trusting signup).store.latestNonce zeroWallet).toOption.map (·.value) = some "" := by
    decide +kernel
  obtain ⟨owned, quiet, value⟩ := begun
  obtain ⟨n, latest, meanwhile, login⟩ :=
    challengeStands (show trusting.store = .empty from rfl) signup commotion owned quiet
  have same : n.value = "" := by simpa [latest, Except.toOption] using value
  have scheme : (after trusting (signup ++ commotion)).scheme = trusting.scheme :=
    afterScheme (by simp [Steady, signup, commotion])
  obtain ⟨_, _, _, good⟩ := stampSigned 5
  rw [same] at login meanwhile
  refine ⟨owned, quiet, (meanwhile commotion [] rfl).2.2 _, _,
    login (still "h" 4) .unknown stamp rfl (by simp [stamp]) ?_⟩
  rw [scheme]
  exact good

end Service
end HolderGate
