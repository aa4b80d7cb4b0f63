import Mathlib.Algebra.GroupWithZero.Nat
import HolderGate.Proofs.TransferStep

/-! What one transfer changes, and what it reports. The holdings of the users at its ends settle both before it: those
of a later block stay, and there may be none. -/
namespace HolderGate
open Access Chain

namespace Chain

def Mined.moves (m : Mined) : List (Token × Word) :=
  match m.event with
  | .erc20 _ _ amount => [(.fungible m.contract, amount)]
  | .erc721 _ _ id => [(⟨m.contract, id⟩, 1)]
  | .erc1155 _ _ id amount => [(⟨m.contract, id⟩, amount)]
  | .erc1155Batch _ _ ids amounts => (ids.zip amounts).map fun pair => (⟨m.contract, pair.1⟩, pair.2)
  | .unknown _ => []

def Mined.tokens (m : Mined) : List Token := m.moves.map Prod.fst

end Chain

namespace Access

def outgoing (moves : List (Token × Word)) : List Delta := moves.map fun m => (moved m.1 m.2).1

def incoming (moves : List (Token × Word)) : List Delta := moves.map fun m => (moved m.1 m.2).2

def movedOf (t : Token) (moves : List (Token × Word)) : Nat :=
  (moves.map fun m => if m.1 = t then m.2.clamp.toNat else 0).sum

def Change.Exact (current : UInt64) : Change → Prop
  | increase amount => current.toNat + amount.toNat ≤ UInt64.size - 1
  | decrease amount => amount.toNat ≤ current.toNat
  | set _ => True

def Holdings.Exact : Holdings → List Delta → Prop
  | _, [] => True
  | h, d :: ds => d.change.Exact (h.balance d.token) ∧ (h.change d).Exact ds

instance (current : UInt64) (change : Change) : Decidable (change.Exact current) :=
  match change with
  | .increase _ | .decrease _ => inferInstanceAs (Decidable (_ ≤ _))
  | .set _ => inferInstanceAs (Decidable True)

instance Holdings.decidableExact : (h : Holdings) → (ds : List Delta) → Decidable (h.Exact ds)
  | _, [] => inferInstanceAs (Decidable True)
  | h, d :: ds =>
    have := decidableExact (h.change d) ds
    inferInstanceAs (Decidable (_ ∧ _))

variable {h : Holdings} {moves : List (Token × Word)} {t : Token} {m : Mined}

theorem changesTokens (m : Mined) : (changes m.contract m.event).1.map Delta.token = m.tokens ∧
    (changes m.contract m.event).2.map Delta.token = m.tokens := by
  unfold Mined.tokens Mined.moves
  cases m.event <;> simp [changes, moved, List.unzip_eq_map, Function.comp_def]

theorem changesMoves (divisible : ∀ sender receiver id, m.event ≠ .erc721 sender receiver id) :
    changes m.contract m.event = (outgoing m.moves, incoming m.moves) := by
  unfold Mined.moves
  cases event : m.event with
  | erc721 sender receiver id => exact absurd event (divisible sender receiver id)
  | erc1155Batch sender receiver ids amounts =>
    simp [changes, outgoing, incoming, List.unzip_eq_map, Function.comp_def]
  | erc20 | erc1155 | unknown => rfl

theorem outgoingBalance (exact : h.Exact (outgoing moves)) (t : Token) :
    ((h.apply (outgoing moves)).balance t).toNat + movedOf t moves = (h.balance t).toNat := by
  induction moves generalizing h with
  | nil => rfl
  | cons m moves ih =>
    obtain ⟨enough, rest⟩ := exact
    have later := ih rest
    rw [Holdings.changeBalance] at later
    simp only [outgoing, List.map_cons, Holdings.applyCons] at later ⊢
    simp only [movedOf, List.map_cons, List.sum_cons] at later ⊢
    simp only [Change.Exact, moved] at enough
    by_cases own : m.1 = t
    · subst own
      simp only [moved, if_true, Change.decreaseNat] at later ⊢
      omega
    · simp only [moved, Ne.symm own, own, if_false] at later ⊢
      omega

theorem incomingBalance (exact : h.Exact (incoming moves)) (t : Token) :
    ((h.apply (incoming moves)).balance t).toNat = (h.balance t).toNat + movedOf t moves := by
  induction moves generalizing h with
  | nil => rfl
  | cons m moves ih =>
    obtain ⟨room, rest⟩ := exact
    have later := ih rest
    rw [Holdings.changeBalance] at later
    simp only [incoming, List.map_cons, Holdings.applyCons] at later ⊢
    simp only [movedOf, List.map_cons, List.sum_cons] at later ⊢
    simp only [Change.Exact, moved] at room
    by_cases own : m.1 = t
    · subst own
      simp only [moved, if_true, Change.increaseNat] at later ⊢
      omega
    · simp only [moved, Ne.symm own, own, if_false] at later ⊢
      omega

end Access

namespace Store
variable {s mid later : Store} {p q : String → Prop}

theorem sameButSelf (s : Store) (touched : String → Prop) : s.SameBut s touched :=
  ⟨rfl, rfl, rfl, rfl, rfl, rfl, fun _ _ => rfl⟩

theorem SameBut.trans (first : s.SameBut mid p) (next : mid.SameBut later q) (weaker : ∀ user, q user → p user) :
    s.SameBut later p where
  users := next.users.trans first.users
  owners := next.owners.trans first.owners
  nonces := next.nonces.trans first.nonces
  sessionKeys := next.sessionKeys.trans first.sessionKeys
  attempts := next.attempts.trans first.attempts
  features := next.features.trans first.features
  holdings user apart := (next.holdings user fun touched => apart (weaker user touched)).trans (first.holdings user apart)

theorem SameBut.mono (same : s.SameBut later p) (weaker : ∀ user, p user → q user) : s.SameBut later q :=
  { same with holdings := fun user apart => same.holdings user fun touched => apart (weaker user touched) }

end Store

namespace Sync

inductive Fate where
  | applied
  | stale
  | missing
  deriving DecidableEq, Repr

def fateOf (block : UInt64) : Option (Stored Holdings) → Fate
  | some (.ok h) => if block < h.block then .stale else .applied
  | _ => .missing

def fate (s : Store) (block : UInt64) (user : String) : Fate := fateOf block (s.holdings.get? user)

def addressed? (s : Store) (endpoint : Address) (deltas : List Delta) : Option String :=
  if deltas.isEmpty then none else userAt? s endpoint

def addressees (s : Store) (log : Mined) : List String :=
  match log.event.endpoints? with
  | none => []
  | some (sender, receiver) =>
    (addressed? s sender (changes log.contract log.event).1).toList ++
      (addressed? s receiver (changes log.contract log.event).2).toList

def told (fate : String → Fate) (users : List String) : Report :=
  ⟨users.filter (fate · = .applied), users.filter (fate · = .stale), users.filter (fate · = .missing)⟩

variable {s : Store} {log : Mined} {block : UInt64} {deltas ds given taken : List Delta} {user : String}
  {user? : Option String} {endpoint sender receiver : Address} {f : String → Fate} {users : List String} {h : Holdings}

theorem fateApplied (applied : fate s block user = .applied) :
    ∃ h, s.holdings.get? user = some (.ok h) ∧ h.block ≤ block := by
  unfold fate fateOf at applied
  split at applied
  next h found =>
    split at applied
    next => cases applied
    next current => exact ⟨h, found, UInt64.not_lt.mp current⟩
  next => cases applied

theorem fateReceive (document : Option (Stored Holdings)) : fateOf block (receive block ds document) = fateOf block document := by
  rcases document with _ | _ | h
  · rfl
  · rfl
  · by_cases late : block < h.block
    · simp only [receive, if_pos late]
    · simp only [receive, if_neg late, fateOf, if_neg (UInt64.lt_irrefl block)]

theorem fateDeliver (s : Store) (user : String) : fate (deliver block ds user? s) block user = fate s block user := by
  unfold fate
  rw [deliverDocument]
  split
  next => exact fateReceive _
  next => rfl

theorem deliverSameBut (s : Store) : s.SameBut (deliver block ds user? s) fun user =>
    user ∈ user?.toList ∧ fate s block user = .applied := by
  unfold deliver
  split
  next => exact s.sameButSelf _
  next user =>
    split
    next h found =>
      split
      next => exact s.sameButSelf _
      next current =>
        refine (s.sameButPut user _).mono ?_
        intro other own
        subst own
        exact ⟨by simp, by simp [fate, fateOf, found, current]⟩
    next => exact s.sameButSelf _

theorem applyAtTold (readable : Readable s) (settled : ∀ user, f user = fate s block user) (endpoint : Address)
    (deltas : List Delta) (users : List String) :
    applyAt block endpoint deltas (told f users) s =
      (.ok (told f (users ++ (addressed? s endpoint deltas).toList)),
        deliver block deltas (addressed? s endpoint deltas) s) := by
  unfold applyAt addressed?
  by_cases empty : deltas.isEmpty
  · simp [empty, deliver]
  · simp only [empty]
    cases userAt? s endpoint with
    | none => simp [deliver]
    | some user =>
      have own := settled user
      unfold fate at own
      rcases found : s.holdings.get? user with _ | fault | h
      · rw [found] at own
        simp [Store.applyChanges, deliver, found, told, Report.add, own, fateOf]
      · exact absurd ⟨user, fault, rfl, found⟩ (readable (some user))
      · rw [found] at own
        by_cases late : block < h.block
        · simp [Store.applyChanges, Store.opened, bind, Except.bind, deliver, found, told, Report.add, own, fateOf, late]
        · simp [Store.applyChanges, Store.opened, bind, Except.bind, deliver, found, told, Report.add, own, fateOf, late]

theorem transferTold (readable : Readable s) (ends : log.event.endpoints? = some (sender, receiver))
    (changed : changes log.contract log.event = (given, taken)) :
    applyTransfer log s = (.ok (told (fate s log.block) (addressees s log)),
      deliver log.block taken (addressed? s receiver taken) (deliver log.block given (addressed? s sender given) s)) := by
  have first : applyAt log.block sender given .empty s = _ := applyAtTold readable (fun _ => rfl) sender given []
  have between : Readable (deliver log.block given (addressed? s sender given) s) := fun user? unreadable =>
    readable user? ((deliverUnreadable s).mp unreadable)
  have second := applyAtTold between (fun user => (fateDeliver s user).symm) receiver taken
    (addressed? s sender given).toList
  have same : addressed? (deliver log.block given (addressed? s sender given) s) receiver taken =
      addressed? s receiver taken := by simp only [addressed?, deliverUserAt]
  rw [same] at second
  unfold applyTransfer addressees
  simp only [ends, changed, first]
  exact second

theorem addressedUser (addressed : addressed? s endpoint deltas = some user) : userAt? s endpoint = some user := by
  unfold addressed? at addressed
  split at addressed
  next => cases addressed
  next => exact addressed

theorem addresseesIff (ends : log.event.endpoints? = some (sender, receiver))
    (changed : changes log.contract log.event = (given, taken)) : user ∈ addressees s log ↔
      addressed? s sender given = some user ∨ addressed? s receiver taken = some user := by
  simp [addressees, ends, changed]

theorem appliedDocument (found : s.holdings.get? user = some (.ok h)) (current : h.block ≤ block)
    {sender? receiver? : Option String} (ends : sender? = some user ∨ receiver? = some user) (given taken : List Delta) :
    (deliver block taken receiver? (deliver block given sender? s)).holdings.get? user =
      some (.ok { h.apply (share sender? receiver? user given taken) with block }) := by
  rw [deliverBoth, exchange, if_pos ends, found, receive, if_neg (UInt64.not_lt.mpr current)]

def HandsOver (log : Mined) (giver taker giver' taker' : Holdings) : Prop :=
  match log.event with
  | .erc721 _ _ id => giver'.balance ⟨log.contract, id⟩ = 0 ∧ taker'.balance ⟨log.contract, id⟩ = 1
  | _ => giver.Exact (changes log.contract log.event).1 → taker.Exact (changes log.contract log.event).2 →
      ∀ t, (giver'.balance t).toNat + (taker'.balance t).toNat = (giver.balance t).toNat + (taker.balance t).toNat ∧
        (giver'.balance t).toNat + movedOf t log.moves = (giver.balance t).toNat ∧
        (taker'.balance t).toNat = (taker.balance t).toNat + movedOf t log.moves

theorem movedBetween (divisible : ∀ sender receiver id, log.event ≠ .erc721 sender receiver id)
    (giver taker : Holdings) (enough : giver.Exact (changes log.contract log.event).1)
    (room : taker.Exact (changes log.contract log.event).2) (t : Token) :
    ((giver.apply (changes log.contract log.event).1).balance t).toNat + movedOf t log.moves = (giver.balance t).toNat ∧
      ((taker.apply (changes log.contract log.event).2).balance t).toNat =
        (taker.balance t).toNat + movedOf t log.moves := by
  rw [changesMoves divisible] at enough room ⊢
  exact ⟨outgoingBalance enough t, incomingBalance room t⟩

theorem handedOver (log : Mined) (giver taker : Holdings) : HandsOver log giver taker
    { giver.apply (changes log.contract log.event).1 with block := log.block }
    { taker.apply (changes log.contract log.event).2 with block := log.block } := by
  have kept : ∀ (h : Holdings) (ds : List Delta) (t : Token),
      ({ h.apply ds with block := log.block } : Holdings).balance t = (h.apply ds).balance t := fun _ _ _ => rfl
  unfold HandsOver
  split
  next sender receiver id event =>
    rw [kept, kept, event]
    simp [changes, Holdings.changeBalance, Change.apply]
  next divisible =>
    intro enough room t
    obtain ⟨lost, gained⟩ := movedBetween divisible giver taker enough room t
    rw [kept, kept]
    refine ⟨?_, lost, gained⟩
    omega

/-- A transfer writes nothing but the holdings of the users at its ends, and there only its block and its own tokens.
Each end is reported by what its holdings were before, and between two users nothing is lost. -/
theorem transferReported (readable : Readable s) (ends : log.event.endpoints? = some (sender, receiver)) :
    ∃ r later, applyTransfer log s = (.ok r, later) ∧ r = told (fate s log.block) (addressees s log) ∧
      s.SameBut later (fun user => user ∈ addressees s log ∧ fate s log.block user = .applied) ∧
      (∀ user ∈ r.applied, ∃ h next, s.holdings.get? user = some (.ok h) ∧ h.block ≤ log.block ∧
        later.holdings.get? user = some (.ok next) ∧ next.user = h.user ∧ next.block = log.block ∧
        ∀ t, t ∉ log.tokens → next.owned.get? t = h.owned.get? t) ∧
      (∀ giver taker, userAt? s sender = some giver → userAt? s receiver = some taker → giver ≠ taker →
        giver ∈ r.applied → taker ∈ r.applied → ∃ g t g' t', s.holdings.get? giver = some (.ok g) ∧
          s.holdings.get? taker = some (.ok t) ∧ later.holdings.get? giver = some (.ok g') ∧
          later.holdings.get? taker = some (.ok t') ∧ HandsOver log g t g' t') := by
  obtain ⟨given, taken, changed⟩ : ∃ given taken, changes log.contract log.event = (given, taken) := ⟨_, _, rfl⟩
  have ran := transferTold readable ends changed
  have listed : ∀ user, user ∈ (told (fate s log.block) (addressees s log)).applied →
      (addressed? s sender given = some user ∨ addressed? s receiver taken = some user) ∧
        fate s log.block user = .applied := by
    intro user reported
    obtain ⟨among, applied⟩ := List.mem_filter.mp reported
    exact ⟨(addresseesIff ends changed).mp among, by simpa using applied⟩
  refine ⟨_, _, ran, rfl, ?frame, ?documents, ?handed⟩
  case frame =>
    have first : s.SameBut (deliver log.block given (addressed? s sender given) s) _ := deliverSameBut s
    have second : Store.SameBut _ (deliver log.block taken (addressed? s receiver taken)
      (deliver log.block given (addressed? s sender given) s)) _ := deliverSameBut _
    refine (first.mono ?_).trans second ?_
    · intro user touched
      exact ⟨(addresseesIff ends changed).mpr (.inl (by simpa using touched.1)), touched.2⟩
    · intro user touched
      rw [fateDeliver] at touched
      exact ⟨(addresseesIff ends changed).mpr (.inr (by simpa using touched.1)), touched.2⟩
  case documents =>
    intro user reported
    obtain ⟨own, applied⟩ := listed user reported
    obtain ⟨h, found, current⟩ := fateApplied applied
    refine ⟨h, _, found, current, appliedDocument found current own given taken, Holdings.applyUser h _, rfl, ?_⟩
    intro t foreign
    obtain ⟨out, into⟩ := changesTokens log
    rw [changed] at out into
    have apart : t ∉ (share (addressed? s sender given) (addressed? s receiver taken) user given taken).map Delta.token := by
      unfold share
      rw [List.map_append, List.mem_append]
      intro among
      cases among with
      | inl gone =>
        split at gone
        next => exact foreign (out ▸ gone)
        next => simp at gone
      | inr come =>
        split at come
        next => exact foreign (into ▸ come)
        next => simp at come
    exact (Holdings.applyOwned h _ t).trans (if_neg apart)
  case handed =>
    intro giver taker gives takes differ sent received
    obtain ⟨one, applied⟩ := listed giver sent
    obtain ⟨two, accepted⟩ := listed taker received
    obtain ⟨g, found, current⟩ := fateApplied applied
    obtain ⟨t, present, recent⟩ := fateApplied accepted
    have out : addressed? s sender given = some giver :=
      one.resolve_right fun other => differ (Option.some.inj ((addressedUser other).symm.trans takes))
    have into : addressed? s receiver taken = some taker :=
      two.resolve_left fun other => differ (Option.some.inj (gives.symm.trans (addressedUser other)))
    have after := appliedDocument found current one given taken
    have later := appliedDocument present recent two given taken
    have mine : share (addressed? s sender given) (addressed? s receiver taken) giver given taken = given := by
      simp [share, out, into, Ne.symm differ]
    have yours : share (addressed? s sender given) (addressed? s receiver taken) taker given taken = taken := by
      simp [share, out, into, differ]
    rw [mine] at after
    rw [yours] at later
    have handed := handedOver log g t
    rw [changed] at handed
    exact ⟨g, t, _, _, found, present, after, later, handed⟩

def partners : Store :=
  (((Store.empty.own (.ofAddress 1) "a").own (.ofAddress 2) "b").putHoldings "a"
    ⟨"a", .ofList [(⟨9, 7⟩, 6), (⟨9, 8⟩, 1)], 40⟩).putHoldings "b" ⟨"b", .ofList [(⟨9, 7⟩, 1)], 50⟩

def bundle : Mined := ⟨9, 50, none, .erc1155Batch 1 2 [7, 7, 8] [2, 3, 1]⟩

theorem partnersReadable : Readable partners := by
  refine readablePut (readablePut ?_ _ _) _ _
  intro user? unreadable
  obtain ⟨user, fault, _, found⟩ := unreadable
  cases found

theorem bundleReported : Readable partners ∧ bundle.event.endpoints? = some (1, 2) ∧
    ∃ later, applyTransfer bundle partners = (.ok ⟨["a", "b"], [], []⟩, later) ∧
      ∃ a b, later.holdings.get? "a" = some (.ok a) ∧ later.holdings.get? "b" = some (.ok b) ∧
        (a.balance ⟨9, 7⟩).toNat = 1 ∧ (b.balance ⟨9, 7⟩).toNat = 6 := by
  obtain ⟨r, later, ran, same, _, _, between⟩ :=
    transferReported partnersReadable (show bundle.event.endpoints? = some (1, 2) from rfl)
  have report : told (fate partners bundle.block) (addressees partners bundle) = ⟨["a", "b"], [], []⟩ := by decide +kernel
  rw [report] at same
  subst same
  obtain ⟨g, t, a, b, given, taken, after, later, handed⟩ :=
    between "a" "b" (by decide +kernel) (by decide +kernel) (by decide) (by simp) (by simp)
  have mine : partners.holdings.get? "a" = some (.ok ⟨"a", .ofList [(⟨9, 7⟩, 6), (⟨9, 8⟩, 1)], 40⟩) := rfl
  have yours : partners.holdings.get? "b" = some (.ok ⟨"b", .ofList [(⟨9, 7⟩, 1)], 50⟩) := rfl
  cases mine.symm.trans given
  cases yours.symm.trans taken
  have amounts := handed (by decide) (by decide) ⟨9, 7⟩
  have five : movedOf ⟨9, 7⟩ bundle.moves = 5 := by decide
  have six : (Holdings.balance ⟨"a", .ofList [(⟨9, 7⟩, 6), (⟨9, 8⟩, 1)], 40⟩ ⟨9, 7⟩).toNat = 6 := by decide
  have one : (Holdings.balance ⟨"b", .ofList [(⟨9, 7⟩, 1)], 50⟩ ⟨9, 7⟩).toNat = 1 := by decide
  rw [five, six, one] at amounts
  exact ⟨partnersReadable, rfl, _, ran, a, b, after, later, by omega, by omega⟩

end Sync
end HolderGate
