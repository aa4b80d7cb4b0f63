import HolderGate.Proofs.AuditRecord

/-! The audit log of a history. It certifies whatever was granted: every wallet of a user and every session has a good
signature on record, each over a nonce of its own, and records stay as they are. -/
namespace HolderGate
open Identity Auth Newest

namespace Service

def Call.draw? (svc : Service) : Call → Option Draw
  | preflight supply w =>
    match svc.store.owner? w, svc.store.liveNonce w with
    | some _, .ok (some _) => none
    | _, _ => some (supply 0)
  | gated supply caller op =>
    match (op.run svc supply caller).1 with
    | .ok (.accepted _ _ _) => some (supply 0)
    | _ => none
  | _ => none

def Call.record? (svc : Service) : Call → Option String
  | gated supply _ op => if (op.refusal? svc.store).isSome then none else some (supply 1).id
  | _ => none

def draws (svc : Service) : List Call → List Draw
  | [] => []
  | call :: rest => (call.draw? svc).toList ++ draws (call.run svc) rest

def records (svc : Service) : List Call → List String
  | [] => []
  | call :: rest => (call.record? svc).toList ++ records (call.run svc) rest

structure Distinct (svc : Service) (calls : List Call) : Prop where
  nonces : ((draws svc calls).map Draw.id).Nodup
  values : ((draws svc calls).map (·.secret Challenge.valueLength)).Nodup
  attempts : (records svc calls).Nodup

instance (svc : Service) (calls : List Call) : Decidable (Distinct svc calls) :=
  decidable_of_iff
    (((draws svc calls).map Draw.id).Nodup ∧ ((draws svc calls).map (·.secret Challenge.valueLength)).Nodup ∧
      (records svc calls).Nodup)
    ⟨fun h => ⟨h.1, h.2.1, h.2.2⟩, fun h => ⟨h.nonces, h.values, h.attempts⟩⟩

structure Unused (svc : Service) (calls : List Call) : Prop where
  indexed : svc.store.Indexed
  distinct : Distinct svc calls
  nonces : ∀ n, Holds svc.store.nonces n → ∀ draw ∈ draws svc calls,
    n.id ≠ draw.id ∧ n.value ≠ draw.secret Challenge.valueLength
  attempts : ∀ id ∈ records svc calls, svc.store.attempts.get? id = none

variable {svc : Service} {calls earlier rest : List Call} {call : Call} {n : Nonce} {a : Attempt} {scheme : Scheme}

theorem drawUnlive {supply : Supply} {w : Wallet}
    (unlive : svc.store.owner? w = none ∨ svc.store.liveNonce w = .ok none) :
    (Call.preflight supply w).draw? svc = some (supply 0) := by
  simp only [Call.draw?]
  split
  next owned live => simp [owned, live] at unlive
  next => rfl

theorem recordPassed {supply : Supply} {caller : Caller} {op : Gated} (passed : op.refusal? svc.store = none) :
    (Call.gated supply caller op).record? svc = some (supply 1).id := by
  simp only [Call.record?, passed]
  rfl

theorem callNonces (indexed : svc.store.Indexed) (call : Call) :
    (call.run svc).store.nonces = svc.store.nonces ∨
    ∃ draw n, call.draw? svc = some draw ∧ n.id = draw.id ∧ n.value = draw.secret Challenge.valueLength ∧
      (call.run svc).store.nonces = put svc.store.nonces n := by
  cases callEffect indexed call with
  | nothing alike => exact .inl alike.nonces
  | @challenge supply w owner unlive same =>
    exact .inr ⟨supply 0, Challenge.fresh (supply 0) w owner, drawUnlive unlive, rfl, rfl, congrArg Store.nonces same⟩
  | profile _ _ _ same => exact .inl ((congrArg Store.nonces same).trans rfl)
  | rejected _ same => exact .inl ((congrArg Store.nonces same).trans rfl)
  | @accepted supply caller op n u _ _ _ _ answer same =>
    refine .inr ⟨supply 0, op.replacement supply svc.store n, ?_, rfl, rfl, ?_⟩
    · simp only [Call.draw?, answer]
    · rw [same, (grantKeeps u).1]
      rfl

theorem callAttempts (indexed : svc.store.Indexed) (call : Call) :
    (call.run svc).store.attempts = svc.store.attempts ∨
    ∃ a : Attempt, call.record? svc = some a.id ∧
      (call.run svc).store.attempts = svc.store.attempts.insert a.id (.ok a) := by
  cases callEffect indexed call with
  | nothing alike => exact .inl alike.attempts
  | challenge _ same => exact .inl ((congrArg Store.attempts same).trans rfl)
  | profile _ _ _ same => exact .inl ((congrArg Store.attempts same).trans rfl)
  | @rejected supply caller op live passed same =>
    exact .inr ⟨op.record supply caller svc.store live false, recordPassed passed, congrArg Store.attempts same⟩
  | @accepted supply caller op n u passed _ _ _ _ same =>
    refine .inr ⟨op.record supply caller svc.store (some n) true, recordPassed passed, ?_⟩
    rw [same, (grantKeeps u).2]
    rfl

theorem Unused.novel (unused : Unused svc (call :: rest)) {draw : Draw} (has : call.draw? svc = some draw)
    (held : Holds svc.store.nonces n) : n.id ≠ draw.id ∧ n.value ≠ draw.secret Challenge.valueLength :=
  unused.nonces n held draw (by simp [draws, has])

theorem Unused.extends (unused : Unused svc (call :: rest)) : Extends svc.store.nonces (call.run svc).store.nonces := by
  rcases callNonces unused.indexed call with same | ⟨draw, n, has, id, _, same⟩
  · exact same ▸ fun _ held => held
  · rw [same]
    refine extendsPut fun other held equal => ?_
    exact (unused.novel has held).1 (equal.trans id)

theorem Unused.unlogged (unused : Unused svc (call :: rest)) {id : String} (has : call.record? svc = some id) :
    svc.store.attempts.get? id = none :=
  unused.attempts id (by simp [records, has])

theorem Unused.keeps (unused : Unused svc (call :: rest)) {id : String} {document : Stored Attempt}
    (found : svc.store.attempts.get? id = some document) : (call.run svc).store.attempts.get? id = some document := by
  rcases callAttempts unused.indexed call with same | ⟨a, has, same⟩
  · rwa [same]
  · rw [same, SortedMap.getInsert, if_neg]
    · exact found
    · rintro rfl
      simp [unused.unlogged has] at found

theorem distinctLater (distinct : Distinct svc (call :: rest)) : Distinct (call.run svc) rest := by
  obtain ⟨nonces, values, attempts⟩ := distinct
  simp only [draws, records, List.map_append, List.nodup_append] at nonces values attempts
  exact ⟨nonces.2.1, values.2.1, attempts.2.1⟩

theorem Unused.step (unused : Unused svc (call :: rest)) : Unused (call.run svc) rest := by
  obtain ⟨indexed, distinct, nonces, attempts⟩ := unused
  refine ⟨callIndexed indexed call, distinctLater distinct, ?nonces, ?attempts⟩
  case nonces =>
    have old : ∀ n, Holds svc.store.nonces n → ∀ draw ∈ draws (call.run svc) rest,
        n.id ≠ draw.id ∧ n.value ≠ draw.secret Challenge.valueLength :=
      fun n held draw among => nonces n held draw (List.mem_append_right _ among)
    rcases callNonces indexed call with same | ⟨draw, n, has, id, value, same⟩
    · exact same ▸ old
    · intro other held next among
      rw [same] at held
      rcases holdsPut.mp held with rfl | ⟨_, held⟩
      · have ids := distinct.nonces
        have values := distinct.values
        rw [draws, has, List.map_append, List.nodup_append] at ids values
        rw [id, value]
        exact ⟨ids.2.2 _ (by simp) _ (List.mem_map_of_mem among),
          values.2.2 _ (by simp) _ (List.mem_map_of_mem among)⟩
      · exact old other held next among
  case attempts =>
    intro id among
    have absent := attempts id (List.mem_append_right _ among)
    rcases callAttempts indexed call with same | ⟨a, has, same⟩
    · rwa [same]
    · rw [same, SortedMap.getInsert, if_neg]
      · exact absent
      · have ids := distinct.attempts
        rw [records, has, List.nodup_append] at ids
        exact (ids.2.2 a.id (by simp) id among).symm

theorem callVouched (unused : Unused svc (call :: rest)) (vouched : svc.store.Vouched svc.scheme)
    (countable : ∀ n, Holds (call.run svc).store.nonces n → n.createdAt.Countable) :
    (call.run svc).store.Vouched svc.scheme := by
  have grown := unused.extends
  cases callEffect unused.indexed call with
  | nothing alike => exact vouched.keep alike.attempts alike.nonces
  | @challenge supply w owner unlive same =>
    have drawn : (Call.preflight supply w).draw? svc = some (supply 0) := drawUnlive unlive
    rw [same]
    exact Store.vouchedNonce vouched fun _ held => unused.novel drawn held
  | profile _ _ _ same =>
    rw [same]
    exact vouched.keep rfl rfl
  | rejected passed same =>
    rw [same]
    exact Store.vouchedRejected vouched (unused.unlogged (recordPassed passed)) rfl
  | @accepted supply caller op n u passed live signed _ answer same =>
    have drawn : (Call.gated supply caller op).draw? svc = some (supply 0) := by simp only [Call.draw?, answer]
    have nonces : (Call.run svc (.gated supply caller op)).store.nonces =
        put svc.store.nonces (op.replacement supply svc.store n) := by
      rw [same, (grantKeeps u).1]
      rfl
    rw [nonces] at grown countable
    obtain ⟨_, held, ahead⟩ := (Store.liveSome unused.indexed.nonces).mp live
    obtain ⟨_, own, _, good⟩ := signed
    cases own
    have outdone : Outdone (put svc.store.nonces (op.replacement supply svc.store n)) n :=
      outdoneBy (holdsNew _) rfl (Store.laterThanPrevious (countable n (grown n held)) (countable _ (holdsNew _)))
    have replaced : (svc.store.insertNonce (op.replacement supply svc.store n)).Vouched svc.scheme :=
      Store.vouchedNonce vouched fun _ held => unused.novel drawn held
    have recorded : (op.checked supply caller svc.store n).Vouched svc.scheme := by
      refine Store.vouchedPassed replaced (unused.unlogged (recordPassed passed)) good (grown n held) rfl outdone ?_
      -- A nonce on record is spent, and the live one is not.
      intro b before equal
      obtain ⟨m, heldM, value, spent⟩ := vouched.spent b before
      cases vouched.single m n heldM held (value.trans equal)
      exact ahead spent
    rw [same]
    exact recorded.keep (grantKeeps u).2 (grantKeeps u).1

theorem callBacked (unused : Unused svc (call :: rest)) (backed : svc.store.Backed) : (call.run svc).store.Backed := by
  cases callEffect unused.indexed call with
  | nothing alike => exact alike.backed backed
  | challenge _ same =>
    rw [same]
    exact ⟨backed.lists, backed.sessions⟩
  | profile found own wallets same =>
    rw [same]
    exact Store.backedProfile backed (unused.indexed.stored found).2 own wallets
  | rejected passed same =>
    rw [same]
    exact Store.backedRecord backed (unused.unlogged (recordPassed passed))
  | @accepted supply caller op n u passed _ _ whose _ same =>
    have replaced : (svc.store.insertNonce (op.replacement supply svc.store n)).Backed :=
      ⟨backed.lists, backed.sessions⟩
    rw [same]
    refine Store.backedGrant replaced (unused.unlogged (recordPassed passed)) rfl rfl ?present ?wallets
    case present =>
      rintro session p rfl
      exact (unused.indexed.stored whose).2
    case wallets =>
      rintro p rfl
      rw [show u = Account.newUser (supply 2) p.wallet from whose]
      rfl

theorem Unused.run (unused : Unused svc (calls ++ rest)) :
    Unused (after svc calls) rest ∧ Extends svc.store.nonces (after svc calls).store.nonces ∧
      ∀ id document, svc.store.attempts.get? id = some document →
        (after svc calls).store.attempts.get? id = some document := by
  induction calls generalizing svc with
  | nil => exact ⟨unused, fun _ held => held, fun _ _ found => found⟩
  | cons call calls ih =>
    obtain ⟨last, grown, kept⟩ := ih unused.step
    exact ⟨last, extendsTrans unused.extends grown, fun id document found => kept id document (unused.keeps found)⟩

theorem Unused.whole (unused : Unused svc calls) : Extends svc.store.nonces (after svc calls).store.nonces ∧
    ∀ id document, svc.store.attempts.get? id = some document →
      (after svc calls).store.attempts.get? id = some document := by
  rw [← List.append_nil calls] at unused
  exact List.append_nil calls ▸ unused.run.2

theorem unusedEmpty (empty : svc.store = .empty) (distinct : Distinct svc calls) : Unused svc calls where
  indexed := empty ▸ Store.indexedEmpty
  distinct := distinct
  nonces _ held := by simp [Holds, empty, Store.empty] at held
  attempts _ _ := by simp [empty, Store.empty]

theorem vouchedRun (unused : Unused svc calls) (steady : Steady svc.scheme calls) (vouched : svc.store.Vouched svc.scheme)
    (backed : svc.store.Backed) (countable : ∀ n, Holds (after svc calls).store.nonces n → n.createdAt.Countable) :
    (after svc calls).store.Vouched svc.scheme ∧ (after svc calls).store.Backed := by
  induction calls generalizing svc with
  | nil => exact ⟨vouched, backed⟩
  | cons call rest ih =>
    obtain ⟨grown, _⟩ := unused.step.whole
    have same : (call.run svc).scheme = svc.scheme := callScheme fun other is => steady other (is ▸ List.mem_cons_self)
    have once := callVouched unused vouched fun n held => countable n (grown n held)
    rw [← same] at once ⊢
    exact ih unused.step (fun other among => (steady other (List.mem_cons_of_mem _ among)).trans same.symm) once
      (callBacked unused backed) countable

/-- The log of a history certifies all access. A signature that it calls good is one over the value on record, no two
of a wallet are over one value, there are as many as the wallet has sessions, and every wallet of a user has one.
Nothing that is on record changes. -/
theorem auditCertifies (empty : svc.store = .empty) (calls : List Call) (steady : Steady svc.scheme calls)
    (distinct : Distinct svc calls)
    (countable : ∀ n, Holds (after svc calls).store.nonces n → n.createdAt.Countable) :
    (∀ id document, (after svc calls).store.attempts.get? id = some document → ∃ a, document = .ok a ∧ a.id = id ∧
      (a.signatureValid = true → verify svc.scheme a.signature (utf8 a.nonceValue) a.wallet = .ok true)) ∧
    (∀ w, ∃ log, (after svc calls).store.attemptsOf w = .ok log ∧
      (∀ a, a ∈ log ↔ (after svc calls).store.Logged a ∧ a.wallet = w) ∧
      ((log.filter (·.signatureValid)).map (·.nonceValue)).Nodup ∧
      (after svc calls).store.sessions w ≤ (log.filter (·.signatureValid)).length) ∧
    (∀ id w, (after svc calls).store.Lists id w → ∃ a, (after svc calls).store.Passed a ∧ a.wallet = w) ∧
    ∀ earlier rest id document, calls = earlier ++ rest →
      (after svc earlier).store.attempts.get? id = some document →
      (after svc calls).store.attempts.get? id = some document := by
  have unused : Unused svc calls := unusedEmpty empty distinct
  obtain ⟨vouched, backed⟩ :=
    vouchedRun unused steady (empty ▸ Store.vouchedEmpty) (empty ▸ Store.backedEmpty) countable
  refine ⟨?signed, ?log, backed.lists, ?kept⟩
  case signed =>
    intro id document found
    obtain ⟨a, rfl, rfl⟩ := vouched.attempts id document found
    exact ⟨a, rfl, rfl, fun valid => vouched.signed a ⟨found, valid⟩⟩
  case log =>
    intro w
    obtain ⟨log, read, single, all, counted⟩ := Store.logRead vouched.attempts w
    refine ⟨log, read, all, ?_, counted ▸ backed.sessions w⟩
    have passed : ∀ a ∈ log.filter (·.signatureValid), (after svc calls).store.Passed a := by
      intro a among
      obtain ⟨among, valid⟩ := List.mem_filter.mp among
      exact ⟨((all a).mp among).1, valid⟩
    refine List.pairwise_map.mpr ((single.filter _).imp_of_mem ?_)
    intro a b amongA amongB differ same
    exact differ (vouched.once a b (passed a amongA) (passed b amongB) same)
  case kept =>
    rintro earlier rest id document rfl found
    obtain ⟨later, _, _⟩ := unused.run
    rw [afterAppend]
    exact later.whole.2 id document found

def dice (name : String) (seconds : Int) (octet : UInt8) : Supply := fun _ => ⟨name, ⟨seconds, 0⟩, [octet]⟩

def threeVisits : List Call :=
  [.preflight (dice "a" 9 1) zeroWallet, .gated (dice "b" 6 2) .unknown (.create stamp),
    .gated (dice "c" 7 3) .unknown (.login stamp), .gated (dice "d" 8 4) .unknown (.login ⟨zeroWallet, "", none⟩)]

theorem auditCertifiesVisits :
    Steady trusting.scheme threeVisits ∧ Distinct trusting threeVisits ∧
      (∀ n, Holds (after trusting threeVisits).store.nonces n → n.createdAt.Countable) ∧
      (after trusting threeVisits).store.sessions zeroWallet = 2 ∧
      ∃ log, (after trusting threeVisits).store.attemptsOf zeroWallet = .ok log ∧
        2 ≤ (log.filter (·.signatureValid)).length := by
  have steady : Steady trusting.scheme threeVisits := by simp [Steady, threeVisits]
  have begun : Distinct trusting threeVisits ∧ (after trusting threeVisits).store.sessions zeroWallet = 2 ∧
      ∀ e ∈ (after trusting threeVisits).store.nonces.entries, ∀ n ∈ e.2.toOption, n.createdAt.Countable := by
    decide +kernel
  obtain ⟨distinct, two, clocked⟩ := begun
  have countable : ∀ n, Holds (after trusting threeVisits).store.nonces n → n.createdAt.Countable :=
    fun n held => clocked _ (SortedMap.getSome.mp held) n rfl
  obtain ⟨_, logs, _⟩ :=
    auditCertifies (show trusting.store = .empty from rfl) threeVisits steady distinct countable
  obtain ⟨log, read, _, _, backed⟩ := logs zeroWallet
  exact ⟨steady, distinct, countable, two, log, read, two ▸ backed⟩

end Service
end HolderGate
