import HolderGate.Proofs.FullCount
import HolderGate.Proofs.MirroredAccounts
import HolderGate.Proofs.SessionCheck
import HolderGate.Proofs.SignedEffects

/-! Users and wallets over a history. They mirror each other throughout, and a wallet that has a user keeps it. -/
namespace HolderGate
open Identity Auth Access Newest

namespace Service

def Call.made? (svc : Service) : Call → Option String
  | gated supply caller (.create p) =>
    match (svc.create supply caller p).1 with
    | .ok (.accepted _ user _) => some user
    | _ => none
  | _ => none

def made (svc : Service) : List Call → List String
  | [] => []
  | call :: rest => (call.made? svc).toList ++ made (call.run svc) rest

variable {svc : Service} {calls rest : List Call} {call : Call} {s : Store} {given : Option String} {w : Wallet}

theorem succeedsPreflight (m : s.Mirrored) (nonces : Filed s.nonces) (supply : Supply) (w : Wallet) :
    s.Succeeds given (Account.preflight supply w s).2 := by
  rcases preflightCases (m.indexed nonces) supply w with same | ⟨owner, _, same⟩
  · rw [same]
    exact Store.succeedsSame m nonces rfl rfl
  · rw [same]
    exact Store.succeedsSame (m.keep rfl rfl rfl rfl) (filedPut nonces _) rfl rfl

theorem succeedsUpdate (m : s.Mirrored) (nonces : Filed s.nonces) (supply : Supply) (session : Wallet)
    (username bio : Option String) : s.Succeeds given (Account.update supply session username bio s).2 := by
  rcases Account.updateStore (m.indexed nonces) supply session username bio with same | ⟨u, found, same⟩
  · rw [same]
    exact Store.succeedsSame m nonces rfl rfl
  · obtain ⟨stored, _⟩ := m.holder found
    rw [same]
    exact Store.succeedsProfile m nonces stored _ rfl rfl

theorem succeedsGrant (m : s.Mirrored) (nonces : Filed s.nonces) {op : Gated} {supply : Supply} {u : User}
    (whose : op.For s supply u) (passed : op.refusal? s = none)
    (fresh : ∀ p, op = .create p → s.users.get? u.id = none ∧ given = some u.id) :
    s.Succeeds given (op.grant supply u s) := by
  cases op with
  | create p =>
    obtain ⟨absent, rfl⟩ := fresh p rfl
    cases whose
    exact Store.succeedsOpened m nonces (by simpa [Gated.refusal?] using passed) absent rfl rfl
  | login p =>
    obtain ⟨_, owned⟩ := m.holder whose
    exact Store.succeedsSessionKey m nonces owned
  | addWallet session p =>
    obtain ⟨stored, _⟩ := m.holder whose
    exact Store.succeedsLinked m nonces stored _

theorem succeedsGated (m : svc.store.Mirrored) (nonces : Filed svc.store.nonces) (supply : Supply)
    (caller : Caller) (op : Gated)
    (fresh : ∀ id ∈ (Call.gated supply caller op).made? svc, svc.store.users.get? id = none) :
    svc.store.Succeeds ((Call.gated supply caller op).made? svc) (op.run svc supply caller).2.store := by
  rcases Gated.outcomes (m.indexed nonces) op supply caller with
    ⟨e, _, same⟩ | ⟨passed, live, _, ⟨_, same⟩ | ⟨_, n, u, _, whose, same⟩⟩
  · rw [same]
    exact Store.succeedsSame m nonces rfl rfl
  · rw [same, Gated.rejected]
    exact Store.succeedsSame (m.keep rfl rfl rfl rfl) nonces rfl rfl
  · rw [same, Gated.accepted, announceAnyStore]
    have checked : svc.store.Succeeds none (op.checked supply caller svc.store n) :=
      Store.succeedsSame (m.keep rfl rfl rfl rfl) (filedPut nonces _) rfl rfl
    refine checked.then (succeedsGrant checked.mirrored checked.nonces ?whose ?passed ?fresh) (by simp)
    case whose => cases op <;> exact whose
    case passed => cases op <;> exact passed
    case fresh =>
      rintro p rfl
      have opened : (svc.create supply caller p).1 =
          .ok (.accepted p.wallet u.id (((Gated.create p).key? supply).map (Gated.tokenUnder svc.issuer))) :=
        congrArg Prod.fst same
      have own : (Call.gated supply caller (.create p)).made? svc = some u.id := by
        simp only [Call.made?, opened]
      exact ⟨fresh u.id own, own⟩

theorem succeedsSeed (m : s.Mirrored) (nonces : Filed s.nonces) (features : List Access.Feature) :
    s.Succeeds given (s.seed features).2 := by
  obtain ⟨table, same⟩ := seedFeatures features s
  rw [same]
  exact Store.succeedsSame (m.keep rfl rfl rfl rfl) nonces rfl rfl

theorem succeedsRecount (m : s.Mirrored) (nonces : Filed s.nonces) (chain : Chain.Reader) (user : String) :
    s.Succeeds given (recounted chain user s) := by
  have unchanged : s.Succeeds given s := Store.succeedsSame m nonces rfl rfl
  unfold recounted Sync.recount
  cases begun : Sync.Recount.start user s with
  | error e => exact unchanged
  | ok r =>
    simp only [Sync.Recount.start, Store.user, exceptBindOk, Store.foundOk] at begun
    obtain ⟨u, present, features, _, same⟩ := begun
    cases same
    unfold Sync.Recount.finish
    cases chain.block with
    | error e => exact unchanged
    | ok block =>
      have own : (Sync.Recount.holdings ⟨u, user, features⟩ chain block).user = user :=
        (Sync.holdingsBlock _ chain block).2
      exact Store.succeedsHoldings m nonces rfl (own.symm ▸ present)

theorem succeedsDeliver (m : s.Mirrored) (nonces : Filed s.nonces) (block : UInt64) (ds : List Access.Delta)
    (user? : Option String) : s.Succeeds given (Sync.deliver block ds user? s) := by
  have unchanged : s.Succeeds given s := Store.succeedsSame m nonces rfl rfl
  unfold Sync.deliver
  cases user? with
  | none => exact unchanged
  | some user =>
    simp only
    split
    next h found =>
      obtain ⟨_, u, same, own, present⟩ := m.holdings user _ found
      cases same
      split
      next => exact unchanged
      next => exact Store.succeedsHoldings m nonces ((Access.Holdings.applyUser h ds).trans own) present
    next => exact unchanged

theorem succeedsTransfer (m : s.Mirrored) (nonces : Filed s.nonces) (log : Chain.Mined) :
    s.Succeeds given (Sync.applyTransfer log s).2 := by
  refine Sync.transferKeeps (P := s.Succeeds given) ?_ (Store.succeedsSame m nonces rfl rfl) log
  intro block ds user? between once
  exact once.then (succeedsDeliver once.mirrored once.nonces block ds user?) (fun _ same => same)

theorem callSucceeds (m : svc.store.Mirrored) (nonces : Filed svc.store.nonces) (call : Call)
    (fresh : ∀ id ∈ call.made? svc, svc.store.users.get? id = none) :
    svc.store.Succeeds (call.made? svc) (call.run svc).store := by
  cases call with
  | preflight supply w => exact succeedsPreflight m nonces supply w
  | gated supply caller op => exact succeedsGated m nonces supply caller op fresh
  | update supply session username bio => exact succeedsUpdate m nonces supply session username bio
  | seed features => exact succeedsSeed m nonces features
  | recount chain user => exact succeedsRecount m nonces chain user
  | transfer log => exact succeedsTransfer m nonces log
  | aside other => exact Store.succeedsSame m nonces rfl rfl

structure Ready (svc : Service) (calls : List Call) : Prop where
  mirrored : svc.store.Mirrored
  nonces : Filed svc.store.nonces
  distinct : (made svc calls).Nodup
  fresh : ∀ id ∈ made svc calls, svc.store.users.get? id = none

theorem Ready.step (ready : Ready svc (call :: rest)) :
    svc.store.Succeeds (call.made? svc) (call.run svc).store ∧ Ready (call.run svc) rest := by
  obtain ⟨m, nonces, distinct, fresh⟩ := ready
  simp only [made, List.nodup_append] at distinct fresh
  have succeeds := callSucceeds m nonces call fun id is => fresh id (by simp [Option.mem_def.mp is])
  refine ⟨succeeds, succeeds.mirrored, succeeds.nonces, distinct.2.1, fun id member => ?_⟩
  refine succeeds.users id (fresh id (List.mem_append_right _ member)) fun own => ?_
  exact distinct.2.2 id (by simp [own]) id member rfl

theorem Ready.run (ready : Ready svc (calls ++ rest)) :
    Ready (after svc calls) rest ∧
      ∀ w id, svc.store.owner? w = some id → (after svc calls).store.owner? w = some id := by
  induction calls generalizing svc with
  | nil => exact ⟨ready, fun _ _ owned => owned⟩
  | cons call calls ih =>
    obtain ⟨succeeds, next⟩ := ready.step
    obtain ⟨last, kept⟩ := ih next
    exact ⟨last, fun w id owned => kept w id (succeeds.kept w id owned)⟩

theorem Ready.whole (ready : Ready svc calls) : Ready (after svc calls) [] ∧
    ∀ w id, svc.store.owner? w = some id → (after svc calls).store.owner? w = some id := by
  rw [← List.append_nil calls] at ready
  exact ready.run

theorem readyEmpty (empty : svc.store = .empty) (distinct : (made svc calls).Nodup) : Ready svc calls where
  mirrored := empty ▸ Store.mirroredEmpty
  nonces := empty ▸ filedEmpty
  distinct := distinct
  fresh id _ := by simp [empty, Store.empty]

theorem sessionOwned (m : s.Mirrored) {issuer : Issuer} {now : Time.Timestamp} {token : String}
    (session : issuer.verify s now token = .ok w) : ∃ id, s.owner? w = some id := by
  obtain ⟨_, key, _, _, latest, _, _, _, own⟩ := verifyOk.mp session
  obtain ⟨_, held, _⟩ := (Store.latestKey m.keysFiled).mp latest
  obtain ⟨_, same, _, id, owned⟩ := m.sessionKeys _ _ held
  cases same
  exact ⟨id, own ▸ owned⟩

theorem updateKnown (m : svc.store.Mirrored) (nonces : Filed svc.store.nonces) {id : String}
    (owned : svc.store.owner? w = some id) (supply : Supply) (username bio : Option String) :
    ∃ u, (svc.update supply w username bio).1 = .ok u := by
  rcases Account.accountCases (m.indexed nonces) w with ⟨u, _, present, _, known⟩ | ⟨free, _⟩
  · refine ⟨{ u with username := username <|> u.username, bio := bio <|> u.bio, updatedAt := (supply 0).now }, ?_⟩
    unfold update perform Account.update
    rw [Action.bindOk (Account.requireSome known)]
    simp only [Action.transact, Store.updateProfile, present, bind, Except.bind]
  · simp [free] at owned

theorem addWalletKnown (m : svc.store.Mirrored) (nonces : Filed svc.store.nonces) {id : String}
    (owned : svc.store.owner? w = some id) (supply : Supply) (caller : Caller) (p : Proof) (missing : Wallet) :
    (svc.addWallet supply caller w p).1 ≠ .error (.userNotFound missing) := by
  show ((Gated.addWallet w p).run svc supply caller).1 ≠ _
  rcases Gated.outcomes (m.indexed nonces) (.addWallet w p) supply caller with
    ⟨e, refused, same⟩ | ⟨_, live, _, ⟨_, same⟩ | ⟨_, n, u, _, _, same⟩⟩
  · rw [same]
    simp only [Gated.refusal?, owned] at refused
    split at refused
    next =>
      cases refused
      simp
    next => contradiction
  · rw [same, Gated.rejected]
    cases Account.verdict svc.scheme live (Gated.addWallet w p).proof <;> simp [Account.denied]
  · rw [same, Gated.accepted]
    simp

/-- Whatever is called, on whatever inputs and with whatever outcome, users and their wallets mirror each other,
whoever has a session has a user, and wallets stay with their users. -/
theorem accountsMirrored (empty : svc.store = .empty) (calls : List Call) (distinct : (made svc calls).Nodup) :
    (after svc calls).store.Mirrored ∧
    (∀ (issuer : Issuer) (now : Time.Timestamp) (token : String) (w : Wallet),
      issuer.verify (after svc calls).store now token = .ok w →
      ∀ (supply : Supply) (caller : Caller) (username bio : Option String) (p : Proof) (missing : Wallet),
        ((after svc calls).update supply w username bio).1 ≠ .error (.userNotFound missing) ∧
        ((after svc calls).addWallet supply caller w p).1 ≠ .error (.userNotFound missing)) ∧
    ∀ earlier rest w id, calls = earlier ++ rest → (after svc earlier).store.owner? w = some id →
      (after svc calls).store.owner? w = some id := by
  have ready : Ready svc calls := readyEmpty empty distinct
  obtain ⟨⟨mirrored, nonces, _, _⟩, _⟩ := ready.whole
  refine ⟨mirrored, ?sessions, ?owners⟩
  case sessions =>
    intro issuer now token w session supply caller username bio p missing
    obtain ⟨id, owned⟩ := sessionOwned mirrored session
    obtain ⟨u, updated⟩ := updateKnown mirrored nonces owned supply username bio
    exact ⟨by simp [updated], addWalletKnown mirrored nonces owned supply caller p missing⟩
  case owners =>
    rintro earlier rest w id rfl owned
    obtain ⟨later, _⟩ := ready.run
    rw [afterAppend]
    exact later.whole.2 w id owned

def signup : List Call :=
  [.preflight (still "a" 5) zeroWallet, .gated (still "b" 6) .unknown (.create stamp)]

def upkeep : List Call :=
  [.update (still "c" 7) zeroWallet (some "ada") none, .seed [], .recount Chain.Node.idle.reader "b",
    .transfer ⟨.zero, 1, none, .erc20 .zero 1 5⟩, .gated (still "d" 8) .unknown (.addWallet zeroWallet stamp),
    .gated (still "e" 9) .unknown (.create stamp)]

theorem accountsMirroredSignup :
    (made trusting (signup ++ upkeep)).Nodup ∧ (after trusting signup).store.owner? zeroWallet = some "b" ∧
      (after trusting (signup ++ upkeep)).store.Mirrored ∧
      (after trusting (signup ++ upkeep)).store.owner? zeroWallet = some "b" := by
  have distinct : (made trusting (signup ++ upkeep)).Nodup := by decide +kernel
  have opened : (after trusting signup).store.owner? zeroWallet = some "b" := by decide +kernel
  obtain ⟨mirrored, _, owners⟩ := accountsMirrored (show trusting.store = .empty from rfl) (signup ++ upkeep) distinct
  exact ⟨distinct, opened, mirrored, owners signup upkeep zeroWallet "b" rfl opened⟩

end Service
end HolderGate
