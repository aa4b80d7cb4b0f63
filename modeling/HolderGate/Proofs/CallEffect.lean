import HolderGate.Proofs.GatedOperation
import HolderGate.Proofs.TransferStep

/-! Histories of a service: accounts are opened and changed, features seeded, holdings counted and transferred, in any
order and with any outcome. One call leaves the documents of accounts alone, or puts in a challenge, a profile, the
record of an attempt that failed, or the record of one that did not, with all that it is for. The index of accounts is
kept throughout. -/
namespace HolderGate
open Identity Auth Newest

namespace Store

structure Alike (s later : Store) : Prop where
  users : later.users = s.users
  owners : later.owners = s.owners
  nonces : later.nonces = s.nonces
  sessionKeys : later.sessionKeys = s.sessionKeys
  attempts : later.attempts = s.attempts

variable {s mid later : Store} {w : Wallet} {u : User}

theorem alikeSelf (s : Store) : s.Alike s := ⟨rfl, rfl, rfl, rfl, rfl⟩

theorem Alike.trans (first : s.Alike mid) (second : mid.Alike later) : s.Alike later :=
  ⟨second.users.trans first.users, second.owners.trans first.owners, second.nonces.trans first.nonces,
    second.sessionKeys.trans first.sessionKeys, second.attempts.trans first.attempts⟩

theorem Indexed.stored (h : s.Indexed) (found : s.userOf w = .ok u) :
    s.owner? w = some u.id ∧ s.users.get? u.id = some (.ok u) := by
  rcases h.userOf w with ⟨v, owned, present, same⟩ | ⟨_, absent⟩
  · cases found.symm.trans same
    exact ⟨owned, foundOk.mp present⟩
  · cases found.symm.trans absent

end Store

namespace Service

inductive Call where
  | preflight (supply : Supply) (w : Wallet)
  | gated (supply : Supply) (caller : Caller) (op : Gated)
  | update (supply : Supply) (session : Wallet) (username bio : Option String)
  | seed (features : List Access.Feature)
  | recount (chain : Chain.Reader) (user : String)
  | transfer (log : Chain.Mined)
  /-- Anything that leaves the documents alone: what remains is another service over the same store. -/
  | aside (other : Service)

def recounted (chain : Chain.Reader) (user : String) (s : Store) : Store :=
  match Sync.recount chain user s with
  | .ok (_, later) => later
  | .error _ => s

def Call.run (svc : Service) : Call → Service
  | preflight supply w => (svc.preflight supply w).2
  | gated supply caller op => (op.run svc supply caller).2
  | update supply session username bio => (svc.update supply session username bio).2
  | seed features => { svc with store := (svc.store.seed features).2 }
  | recount chain user => { svc with store := recounted chain user svc.store }
  | transfer log => { svc with store := (Sync.applyTransfer log svc.store).2 }
  | aside other => { other with store := svc.store }

def after (svc : Service) (calls : List Call) : Service := calls.foldl Call.run svc

/-- What calls can make of a service that begins with no documents. -/
def Reachable (svc : Service) : Prop := ∃ origin calls, origin.store = .empty ∧ after origin calls = svc

inductive Effect (svc : Service) : Call → Prop where
  | nothing {call} (alike : svc.store.Alike (call.run svc).store) : Effect svc call
  | challenge {supply w owner} (unlive : svc.store.owner? w = none ∨ svc.store.liveNonce w = .ok none)
      (same : (Call.run svc (.preflight supply w)).store =
        svc.store.insertNonce (Challenge.fresh (supply 0) w owner)) : Effect svc (.preflight supply w)
  | profile {supply session username bio u next} (found : svc.store.userOf session = .ok u)
      (own : next.id = u.id) (wallets : next.wallets = u.wallets)
      (same : (Call.run svc (.update supply session username bio)).store = svc.store.putUser u.id next) :
      Effect svc (.update supply session username bio)
  | rejected {supply caller op live} (passed : op.refusal? svc.store = none)
      (same : (Call.run svc (.gated supply caller op)).store =
        svc.store.recordAttempt (op.record supply caller svc.store live false)) :
      Effect svc (.gated supply caller op)
  | accepted {supply caller op n u} (passed : op.refusal? svc.store = none)
      (live : svc.store.liveNonce op.wallet = .ok (some n))
      (signed : Account.Signed svc.scheme (some n) op.proof) (whose : op.For svc.store supply u)
      (answer : (op.run svc supply caller).1 =
        .ok (.accepted op.wallet u.id ((op.key? supply).map (Gated.tokenUnder svc.issuer))))
      (same : (Call.run svc (.gated supply caller op)).store =
        op.grant supply u (op.checked supply caller svc.store n)) :
      Effect svc (.gated supply caller op)

variable {svc : Service} {s : Store} {op : Gated} {supply : Supply} {u : User}

theorem announceAnyStore (n : Option Access.Notification) : (svc.announceAny n).store = svc.store := by
  cases n <;> rfl

theorem seedFeatures (features : List Access.Feature) (s : Store) :
    ∃ table, (s.seed features).2 = { s with features := table } := by
  unfold Store.seed
  refine List.foldlRecOn (motive := fun seeded : Nat × Store => ∃ table, seeded.2 = { s with features := table })
    features _ ⟨s.features, rfl⟩ ?_
  rintro ⟨added, between⟩ ⟨table, same⟩ f _
  cases same
  by_cases taken : table.contains f.name
  · simp only [Store.insertFeature, if_pos taken]
    exact ⟨table, rfl⟩
  · simp only [Store.insertFeature, if_neg taken]
    exact ⟨_, rfl⟩

theorem preflightCases (h : s.Indexed) (supply : Supply) (w : Wallet) :
    (Account.preflight supply w s).2 = s ∨ ∃ owner, (s.owner? w = none ∨ s.liveNonce w = .ok none) ∧
      (Account.preflight supply w s).2 = s.insertNonce (Challenge.fresh (supply 0) w owner) := by
  rcases Account.accountCases h w with ⟨u, _, _, _, known⟩ | ⟨free, unknown⟩
  · obtain ⟨live, current⟩ := Store.liveReadable h.nonces w
    cases live with
    | none => exact .inr ⟨some u.id, .inr current, congrArg Prod.snd (Account.preflightFirst known current)⟩
    | some n => exact .inl (congrArg Prod.snd (Account.preflightLive known current))
  · exact .inr ⟨none, .inl free, congrArg Prod.snd (Account.preflightUnknown unknown)⟩

theorem recountedAlike (chain : Chain.Reader) (user : String) (s : Store) : s.Alike (recounted chain user s) := by
  unfold recounted Sync.recount Sync.Recount.finish
  cases Sync.Recount.start user s with
  | error e => exact Store.alikeSelf s
  | ok r => cases chain.block <;> exact ⟨rfl, rfl, rfl, rfl, rfl⟩

theorem deliverAlike (block : UInt64) (ds : List Access.Delta) (user? : Option String) (s : Store) :
    s.Alike (Sync.deliver block ds user? s) := by
  unfold Sync.deliver
  repeat' split
  all_goals exact ⟨rfl, rfl, rfl, rfl, rfl⟩

theorem transferAlike (log : Chain.Mined) (s : Store) : s.Alike (Sync.applyTransfer log s).2 :=
  Sync.transferKeeps (P := s.Alike) (fun block ds user? between alike =>
    alike.trans (deliverAlike block ds user? between))
    (Store.alikeSelf s) log

theorem callEffect (indexed : svc.store.Indexed) (call : Call) : Effect svc call := by
  cases call with
  | preflight supply w =>
    rcases preflightCases indexed supply w with same | ⟨owner, unlive, same⟩
    · refine .nothing ?_
      show svc.store.Alike (Account.preflight supply w svc.store).2
      rw [same]
      exact Store.alikeSelf svc.store
    · exact .challenge unlive same
  | gated supply caller op =>
    rcases Gated.outcomes indexed op supply caller with
      ⟨e, _, same⟩ | ⟨passed, live, found, ⟨_, same⟩ | ⟨signed, n, u, rfl, whose, same⟩⟩
    · refine .nothing ?_
      show svc.store.Alike (op.run svc supply caller).2.store
      rw [same]
      exact Store.alikeSelf svc.store
    · exact .rejected passed (congrArg (fun ended => ended.2.store) same)
    · refine .accepted passed found signed whose (congrArg Prod.fst same) ?_
      exact (congrArg (fun ended => ended.2.store) same).trans (announceAnyStore _)
  | update supply session username bio =>
    rcases Account.updateStore indexed supply session username bio with same | ⟨u, found, same⟩
    · refine .nothing ?_
      show svc.store.Alike (Account.update supply session username bio svc.store).2
      rw [same]
      exact Store.alikeSelf svc.store
    · refine .profile found ?_ ?_ same <;> rfl
  | seed features =>
    obtain ⟨table, same⟩ := seedFeatures features svc.store
    refine .nothing ?_
    show svc.store.Alike (svc.store.seed features).2
    rw [same]
    exact ⟨rfl, rfl, rfl, rfl, rfl⟩
  | recount chain user => exact .nothing (recountedAlike chain user svc.store)
  | transfer log => exact .nothing (transferAlike log svc.store)
  | aside other => exact .nothing (Store.alikeSelf svc.store)

theorem indexedInsertNonce (h : s.Indexed) (n : Nonce) : (s.insertNonce n).Indexed :=
  h.keep rfl rfl (filedPut h.nonces n)

theorem indexedRecord (h : s.Indexed) (a : Attempt) : (s.recordAttempt a).Indexed := h.keep rfl rfl h.nonces

theorem indexedGrant (h : s.Indexed) (u : User) : (op.grant supply u s).Indexed := by
  cases op with
  | create p => exact (Store.indexedOwn h p.wallet).keep rfl rfl h.nonces
  | login p => exact h.keep rfl rfl h.nonces
  | addWallet session p => exact Store.indexedLinked h

theorem callIndexed (indexed : svc.store.Indexed) (call : Call) : (call.run svc).store.Indexed := by
  cases callEffect indexed call with
  | nothing alike => exact indexed.keep alike.users alike.owners (alike.nonces ▸ indexed.nonces)
  | challenge _ same =>
    rw [same]
    exact indexedInsertNonce indexed _
  | profile _ own _ same =>
    rw [same, ← own]
    exact Store.indexedPutUser indexed
  | rejected _ same =>
    rw [same]
    exact indexedRecord indexed _
  | accepted _ _ _ _ _ same =>
    rw [same]
    exact indexedGrant (indexedRecord (indexedInsertNonce indexed _) _) _

theorem afterAppend (svc : Service) (earlier rest : List Call) :
    after svc (earlier ++ rest) = after (after svc earlier) rest :=
  List.foldl_append

theorem afterIndexed (indexed : svc.store.Indexed) (calls : List Call) : (after svc calls).store.Indexed := by
  induction calls generalizing svc with
  | nil => exact indexed
  | cons call rest ih => exact ih (callIndexed indexed call)

theorem reachableIndexed (reachable : Reachable svc) : svc.store.Indexed := by
  obtain ⟨origin, calls, empty, rfl⟩ := reachable
  exact afterIndexed (empty ▸ Store.indexedEmpty) calls

theorem performAndScheme {α : Type} (a : Action (α × Option Access.Notification)) :
    (svc.performAnd a).2.scheme = svc.scheme := by
  have announced : ∀ (later : Service) n, (later.announceAny n).scheme = later.scheme := by
    intro later n
    cases n <;> rfl
  unfold performAnd
  split
  next ended => exact (announced _ _).trans (congrArg (·.2.scheme) ended).symm
  next ended => exact (congrArg (·.2.scheme) ended).symm

theorem callScheme {call : Call} (steady : ∀ other, call = .aside other → other.scheme = svc.scheme) :
    (call.run svc).scheme = svc.scheme := by
  cases call with
  | gated supply caller op =>
    cases op with
    | create p => exact performAndScheme _
    | login p => rfl
    | addWallet session p => exact performAndScheme _
  | aside other => exact steady other rfl
  | _ => rfl

def Steady (scheme : Scheme) (calls : List Call) : Prop :=
  ∀ other, Call.aside other ∈ calls → other.scheme = scheme

theorem afterScheme {calls : List Call} (steady : Steady svc.scheme calls) :
    (after svc calls).scheme = svc.scheme := by
  induction calls generalizing svc with
  | nil => rfl
  | cons call rest ih =>
    have same : (call.run svc).scheme = svc.scheme := callScheme fun other is => steady other (is ▸ List.mem_cons_self)
    exact (ih (same ▸ fun other among => steady other (List.mem_cons_of_mem _ among))).trans same

end Service
end HolderGate
