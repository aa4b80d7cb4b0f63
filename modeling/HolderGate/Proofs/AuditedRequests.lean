import HolderGate.Http.Endpoint
import HolderGate.Proofs.AuditedHeaders
import HolderGate.Proofs.Except
import HolderGate.Proofs.SignedEffects

/-! The records of the audit log, by whose they are. Whatever an operation or a request does besides, and however it
ends, the log has after it what it had before, and else only records with what is made of the header it came with. -/
namespace HolderGate
open Identity Auth

namespace Store

variable {s later : Store} {u next : User} {w : Wallet}

theorem ownAttempts (wallets : List Wallet) (id : String) (s : Store) :
    (wallets.foldl (fun s w => s.own w id) s).attempts = s.attempts := by
  induction wallets generalizing s with
  | nil => rfl
  | cons w rest ih => exact ih (s.own w id)

theorem createUserAttempts (made : s.createUser u = .ok later) : later.attempts = s.attempts := by
  unfold createUser at made
  split at made <;> try contradiction
  cases made
  exact ownAttempts u.wallets u.id s

theorem linkWalletAttempts {id : String} {now : Time.Timestamp} (linked : s.linkWallet id w now = .ok (next, later)) :
    later.attempts = s.attempts := by
  obtain ⟨u, _, linked⟩ := exceptBindOk.mp linked
  split at linked
  next =>
    split at linked <;> try contradiction
    cases linked
    rfl
  next =>
    cases linked
    rfl

theorem updateProfileAttempts {id : String} {username bio : Option String} {now : Time.Timestamp}
    (updated : s.updateProfile id username bio now = .ok (next, later)) : later.attempts = s.attempts := by
  obtain ⟨u, _, updated⟩ := exceptBindOk.mp updated
  cases updated
  rfl

theorem liveOrIssueAttempts {draw : Draw} {owner : Option String} {n : Nonce}
    (issued : Challenge.liveOrIssue draw w owner s = .ok (n, later)) : later.attempts = s.attempts := by
  obtain ⟨live, _, issued⟩ := exceptBindOk.mp issued
  cases live <;> cases issued <;> rfl

theorem consumeNonceAttempts {expected : String} {n : Nonce} {answer : Option Nonce}
    (consumed : s.consumeNonce expected n = .ok (answer, later)) : later.attempts = s.attempts := by
  obtain ⟨live, _, consumed⟩ := exceptBindOk.mp consumed
  cases live with
  | none =>
    cases consumed
    rfl
  | some live =>
    dsimp only at consumed
    split at consumed <;> cases consumed <;> rfl

end Store

namespace Auth

def Audited (caller : Caller) (s later : Store) : Prop :=
  ∀ id document, later.attempts.get? id = some document → s.attempts.get? id = some document ∨
    ∃ a, document = .ok a ∧ a.headers = caller.headers

variable {caller : Caller} {s mid later : Store}

theorem auditedKept (same : later.attempts = s.attempts) : Audited caller s later := by
  intro id document found
  rw [same] at found
  exact .inl found

theorem Audited.trans (first : Audited caller s mid) (second : Audited caller mid later) :
    Audited caller s later := by
  intro id document found
  rcases second id document found with before | own
  · exact first id document before
  · exact .inr own

theorem auditedRecord {a : Attempt} (headers : a.headers = caller.headers) :
    Audited caller s (s.recordAttempt a) := by
  intro id document found
  simp only [Store.recordAttempt, SortedMap.getInsert] at found
  split at found
  next =>
    cases Option.some.inj found
    exact .inr ⟨a, rfl, headers⟩
  next => exact .inl found

namespace Action

variable {α β : Type}

def Audits (caller : Caller) (a : Action α) : Prop := ∀ s, Audited caller s (a s).2

theorem auditsPure (v : α) : Audits caller (pure v) := fun _ => auditedKept rfl

theorem auditsThrow (e : AccountError) : Audits caller (throw e : Action α) := fun _ => auditedKept rfl

theorem auditsBind {a : Action α} {f : α → Action β} (first : Audits caller a) (rest : ∀ v, Audits caller (f v)) :
    Audits caller (a >>= f) := by
  intro s
  have begun := first s
  cases ran : a s with
  | mk result mid =>
    rw [ran] at begun
    cases result with
    | ok v =>
      rw [bindOk ran]
      exact begun.trans (rest v mid)
    | error e =>
      rw [bindError ran]
      exact begun

theorem auditsUnless {refused : Prop} [Decidable refused] {e : AccountError} {rest : PUnit → Action α}
    (audits : ∀ v, Audits caller (rest v)) : Audits caller (if refused then throw e >>= rest else rest ⟨⟩) := by
  split
  next => exact auditsBind (auditsThrow e) audits
  next => exact audits ⟨⟩

theorem auditsRead (f : Store → Except StoreError α) : Audits caller (read f) := by
  intro s
  unfold read
  split <;> exact auditedKept rfl

theorem auditsTransact {f : Store → Except StoreError (α × Store)}
    (kept : ∀ s v later, f s = .ok (v, later) → later.attempts = s.attempts) : Audits caller (transact f) := by
  intro s
  unfold transact
  split
  next done => exact auditedKept (kept _ _ _ done)
  next => exact auditedKept rfl

theorem auditsClaiming {f : Store → Except StoreError (α × Store)} {w : Wallet}
    (kept : ∀ s v later, f s = .ok (v, later) → later.attempts = s.attempts) : Audits caller (claiming w f) := by
  intro s
  unfold claiming
  split
  next done => exact auditedKept (kept _ _ _ done)
  next => exact auditedKept rfl
  next => exact auditedKept rfl

theorem auditsEffect {f : Store → α × Store} (audited : ∀ s, Audited caller s (f s).2) : Audits caller (effect f) :=
  audited

end Action

namespace Account

variable {scheme : Scheme} {issuer : Issuer} {supply : Supply} {owner : Option String} {p : Proof} {session : Wallet}

open Auth.Action

theorem auditsUserOf (w : Wallet) : Audits caller (userOf? w) := auditsRead _

theorem auditsRequired (w : Wallet) : Audits caller (requireUser w) := by
  refine auditsBind (auditsUserOf w) fun found => ?_
  cases found with
  | none => exact auditsThrow _
  | some u => exact auditsPure u

theorem auditsSettle (draw : Draw) (w : Wallet) (value : String) (v : Except SignatureError Bool) :
    Audits caller (settle draw w value owner v) := by
  unfold settle
  split
  next =>
    refine auditsBind (auditsTransact fun _ _ _ => Store.consumeNonceAttempts) fun answer => ?_
    cases answer with
    | none => exact auditsPure _
    | some n => exact auditsPure _
  next => exact auditsPure v

theorem auditsCheck (scheme : Scheme) (supply : Supply) (owner : Option String) (p : Proof) :
    Audits caller (check scheme supply caller owner p) := by
  refine auditsBind (auditsRead _) fun live => ?_
  refine auditsBind (auditsSettle _ _ _ _) fun v => ?_
  refine auditsBind (auditsEffect fun s => auditedRecord rfl) fun _ => ?_
  cases v with
  | ok b => exact auditsPure b
  | error e => exact auditsThrow _

theorem auditsGate {α : Type} {a : Action α} {r : α} (granted : Audits caller a) (owner : Option String) (p : Proof) :
    Audits caller (do if ← check scheme supply caller owner p then a else pure r) := by
  refine auditsBind (auditsCheck scheme supply owner p) fun valid => ?_
  cases valid with
  | true => exact granted
  | false => exact auditsPure r

theorem auditsIssue (issuer : Issuer) (draw : Draw) (w : Wallet) : Audits caller (.effect (issuer.issue draw w)) :=
  auditsEffect fun _ => auditedKept rfl

theorem auditsCreate (scheme : Scheme) (issuer : Issuer) (supply : Supply) (p : Proof) :
    Audits caller (create scheme issuer supply caller p) := by
  refine auditsBind (auditsUserOf p.wallet) fun found => auditsUnless fun _ => auditsGate ?_ none p
  refine auditsBind (auditsClaiming ?_) fun _ => auditsBind (auditsIssue issuer _ p.wallet) fun token => auditsPure _
  intro s v later made
  cases created : s.createUser (newUser (supply 2) p.wallet) with
  | error e => simp [created, Except.map] at made
  | ok next =>
    rw [created] at made
    cases made
    exact Store.createUserAttempts created

theorem auditsLogin (scheme : Scheme) (issuer : Issuer) (supply : Supply) (p : Proof) :
    Audits caller (login scheme issuer supply caller p) := by
  refine auditsBind (auditsRequired p.wallet) fun u => auditsGate ?_ (some u.id) p
  exact auditsBind (auditsIssue issuer _ p.wallet) fun token => auditsPure _

theorem auditsAddWallet (scheme : Scheme) (supply : Supply) (session : Wallet) (p : Proof) :
    Audits caller (addWallet scheme supply caller session p) := by
  refine auditsBind (auditsRequired session) fun u => auditsBind (auditsUserOf p.wallet) fun found => ?_
  refine auditsUnless fun _ => auditsGate ?_ _ p
  exact auditsBind (auditsClaiming fun _ _ _ => Store.linkWalletAttempts) fun _ => auditsPure _

theorem auditsPreflight (supply : Supply) (w : Wallet) : Audits caller (preflight supply w) := by
  refine auditsBind (auditsUserOf w) fun found => ?_
  cases found with
  | none => exact auditsBind (auditsEffect fun _ => auditedKept rfl) fun _ => auditsPure _
  | some u => exact auditsBind (auditsTransact fun _ _ _ => Store.liveOrIssueAttempts) fun _ => auditsPure _

theorem auditsUpdate (supply : Supply) (session : Wallet) (username bio : Option String) :
    Audits caller (update supply session username bio) :=
  auditsBind (auditsRequired session) fun _ => auditsTransact fun _ _ _ => Store.updateProfileAttempts

end Account
end Auth

namespace Service

variable {svc : Service} {caller : Caller}

theorem performAudited {α : Type} {a : Action α} (audits : Action.Audits caller a) (svc : Service) :
    Audited caller svc.store (svc.perform a).2.store := audits svc.store

theorem performAndAudited {α : Type} {a : Action (α × Option Access.Notification)} (audits : Action.Audits caller a) :
    Audited caller svc.store (svc.performAnd a).2.store := by
  have performed := performAudited audits svc
  unfold Service.performAnd
  split
  next ran =>
    rw [ran] at performed
    rwa [Service.announceAnyStore]
  next ran =>
    rw [ran] at performed
    exact performed

theorem gatedAudited (op : Gated) (svc : Service) (supply : Supply) (caller : Caller) :
    Audited caller svc.store (op.run svc supply caller).2.store := by
  cases op with
  | create p => exact performAndAudited (Account.auditsCreate _ _ _ p)
  | login p => exact performAudited (Account.auditsLogin _ _ _ p) svc
  | addWallet session p => exact performAndAudited (Account.auditsAddWallet _ _ session p)

end Service

namespace Http

variable {svc : Service} {caller : Caller}

theorem extractingAudited {α : Type} (e : Extract α) {k : α → Response × Service}
    (audited : ∀ v, Audited caller svc.store (k v).2.store) : Audited caller svc.store (extracting svc e k).2.store := by
  cases e with
  | ok v => exact audited v
  | error r => exact auditedKept rfl

theorem answeringAudited {α : Type} {result : Except AccountError α × Service} {members : α → List (String × Bytes)}
    (audited : Audited caller svc.store result.2.store) :
    Audited caller svc.store (answering result members).2.store := by
  obtain ⟨answer, later⟩ := result
  cases answer <;> exact audited

theorem endpointAudited (e : Endpoint) (svc : Service) (supply : Supply) (r : Request) :
    Audited r.headers.caller svc.store (e.serve svc supply r).2.store := by
  have gated (op : Gated) (supply : Supply) := Service.gatedAudited op svc supply r.headers.caller
  cases e with
  | unlocked =>
    refine extractingAudited _ fun user => ?_
    dsimp only
    split <;> exact auditedKept rfl
  | notify =>
    refine extractingAudited _ fun n => ?_
    split
    next => exact auditedKept rfl
    next =>
      dsimp only
      split <;> exact auditedKept rfl
  | features | validity | health | liveness => exact auditedKept rfl
  | preflight =>
    exact extractingAudited _ fun w => answeringAudited (Service.performAudited (Account.auditsPreflight supply w) svc)
  | create => exact extractingAudited _ fun p => answeringAudited (gated (.create p) supply)
  | login => exact extractingAudited _ fun p => answeringAudited (gated (.login p) supply)
  | update =>
    exact extractingAudited _ fun w => extractingAudited _ fun p =>
      answeringAudited (Service.performAudited (Account.auditsUpdate _ w p.username p.bio) svc)
  | addWallet =>
    exact extractingAudited _ fun w => extractingAudited _ fun p => answeringAudited (gated (.addWallet w p) _)
  | view => exact extractingAudited _ fun w => answeringAudited (auditedKept rfl)

theorem serveAudited (svc : Service) (supply : Supply) (r : Request) :
    Audited r.headers.caller svc.store (serve svc supply r).2.store := by
  unfold serve
  split
  next => exact auditedKept rfl
  next =>
    split
    next => exact auditedKept rfl
    next e _ =>
      split
      next => exact endpointAudited e svc supply r
      next =>
        split
        next => exact endpointAudited e svc supply r
        next => exact auditedKept rfl

def answered (svc : Service) (steps : List (Supply × Request)) : Service :=
  steps.foldl (fun svc step => (serve svc step.1 step.2).2) svc

theorem answeredAudited {id : String} {document : Stored Attempt} (steps : List (Supply × Request))
    (found : (answered svc steps).store.attempts.get? id = some document) :
    svc.store.attempts.get? id = some document ∨
      ∃ step ∈ steps, ∃ a, document = .ok a ∧ a.headers = step.2.headers.audited := by
  induction steps generalizing svc with
  | nil => exact .inl found
  | cons step rest ih =>
    rcases ih found with before | later
    · rcases serveAudited svc step.1 step.2 id document before with earlier | own
      · exact .inl earlier
      · obtain ⟨a, same, headers⟩ := own
        exact .inr ⟨step, List.mem_cons_self, a, same, headers⟩
    · obtain ⟨step, among, a, same, headers⟩ := later
      exact .inr ⟨step, List.mem_cons_of_mem _ among, a, same, headers⟩

def Tells (headers : Headers) (a : Attempt) : Prop :=
  ∀ name, a.headers.get? name = if name ∈ Headers.secrets then none else headers.lastReadable? name

theorem tellsAudited {headers : Headers} {a : Attempt} (same : a.headers = headers.audited) : Tells headers a := by
  intro name
  rw [same, Headers.auditedGet]

/-- Secret headers are put on record by no request. Two that disclose the same come to the same caller, and a record
that a request leaves tells the last readable value of each other header of that request, and no more. -/
theorem credentialsWithheld :
    (∀ sent other, (received sent).disclosed = (received other).disclosed →
      (received sent).caller = (received other).caller) ∧
    (∀ (op : Gated) svc supply sent id document,
      (op.run svc supply (received sent).caller).2.store.attempts.get? id = some document →
        svc.store.attempts.get? id = some document ∨ ∃ a, document = .ok a ∧ Tells (received sent) a) ∧
    ∀ svc steps id document, (answered svc steps).store.attempts.get? id = some document →
      svc.store.attempts.get? id = some document ∨
        ∃ step ∈ steps, ∃ a, document = .ok a ∧ Tells step.2.headers a := by
  refine ⟨fun sent other => Headers.callerSame, ?operations, ?requests⟩
  case operations =>
    intro op svc supply sent id document found
    rcases Service.gatedAudited op svc supply (received sent).caller id document found with before | own
    · exact .inl before
    · obtain ⟨a, same, headers⟩ := own
      exact .inr ⟨a, same, tellsAudited headers⟩
  case requests =>
    intro svc steps id document found
    rcases answeredAudited steps found with before | later
    · exact .inl before
    · obtain ⟨step, among, a, same, headers⟩ := later
      exact .inr ⟨step, among, a, same, tellsAudited headers⟩

def traced : Sent := [("X-Trace", utf8 "1"), ("x-trace", utf8 "2"), ("X-TRACE", [0x80])]

def credited : Sent := ("Authorization", utf8 "Bearer t") :: ("COOKIE", utf8 "a=b") :: traced

def visit : Gated := .create ⟨Service.zeroWallet, "", none⟩

theorem credentialsWithheldTraced :
    (received credited).disclosed = (received traced).disclosed ∧
      (received credited).caller = (received traced).caller ∧
      ∃ a, (visit.run Service.trusting (Service.still "b" 4) (received credited).caller).2.store.attempts.get? "b" =
          some (.ok a) ∧ a.headers.get? "x-trace" = some "2" ∧ a.headers.get? "authorization" = none := by
  obtain ⟨alike, operations, _⟩ := credentialsWithheld
  have same : (received credited).disclosed = (received traced).disclosed := by decide +kernel
  have written : ∃ a, (visit.run Service.trusting (Service.still "b" 4) (received credited).caller).2.store.attempts.get?
      "b" = some (.ok a) := ⟨_, rfl⟩
  obtain ⟨a, found⟩ := written
  rcases operations visit _ _ credited "b" _ found with before | own
  · cases before
  · obtain ⟨_, equal, tells⟩ := own
    cases equal
    refine ⟨same, alike credited traced same, a, found, ?_, tells "authorization"⟩
    rw [tells "x-trace"]
    decide +kernel

end Http
end HolderGate
