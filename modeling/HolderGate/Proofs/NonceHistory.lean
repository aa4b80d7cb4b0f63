import HolderGate.Auth.Challenge
import HolderGate.Proofs.LiveDocument

/-! Histories of the transactions on nonces. A nonce that another has outdone stays outdone, and
consuming leaves the nonce that it accepted outdone, so no value is accepted twice. -/
namespace HolderGate.Nonces
open Identity Newest

inductive Transaction where
  | issue (n : Nonce)
  | latest (w : Wallet)
  | consume (expected : String) (next : Nonce)

abbrev Answer := Except StoreError (Option Nonce)

abbrev Event := Transaction × Answer

def Transaction.run (s : Store) : Transaction → Answer × Store
  | .issue n => (.ok (some n), s.insertNonce n)
  | .latest w => (s.liveNonce w, s)
  | .consume expected next =>
    match s.consumeNonce expected next with
    | .ok (answer, s) => (.ok answer, s)
    | .error e => (.error e, s)

def history (s : Store) : List Transaction → List Event
  | [] => []
  | t :: rest => (t, (t.run s).1) :: history (t.run s).2 rest

def after (s : Store) (moves : List Transaction) : Store := moves.foldl (fun s t => (t.run s).2) s

def Transaction.offer? : Transaction → Option Nonce
  | .issue n => some n
  | .latest _ => none
  | .consume _ next => some next

def offers (moves : List Transaction) : List Nonce := moves.filterMap Transaction.offer?

def written? : Event → Option Nonce
  | (.issue n, _) => some n
  | (.consume _ _, .ok (some n)) => some n
  | _ => none

def accepts (w : Wallet) (v : String) : Event → Bool
  | (.consume expected next, .ok (some _)) => next.wallet = w ∧ expected = v
  | _ => false

def uses (w : Wallet) (v : String) (events : List Event) : Nat := events.countP (accepts w v)

def Distinct (moves : List Transaction) : Prop :=
  ((offers moves).map Nonce.id).Nodup ∧ ((offers moves).map Nonce.value).Nodup

def Clocked (events : List Event) : Prop := ∀ e ∈ events, ∀ n ∈ written? e, n.createdAt.Countable

instance (moves : List Transaction) : Decidable (Distinct moves) := inferInstanceAs (Decidable (_ ∧ _))

instance (events : List Event) : Decidable (Clocked events) :=
  inferInstanceAs (Decidable (∀ e ∈ events, ∀ n ∈ written? e, n.createdAt.Countable))

def Live (s : Store) (n : Nonce) : Prop := s.liveNonce n.wallet = .ok (some n)

instance (s : Store) (n : Nonce) : Decidable (Live s n) :=
  inferInstanceAs (Decidable (s.liveNonce n.wallet = .ok (some n)))

variable {s : Store} {moves first second : List Transaction} {t : Transaction} {w : Wallet} {v : String}

theorem liveIff (filed : Filed s.nonces) {n : Nonce} :
    Live s n ↔ Holds s.nonces n ∧ ¬ Outdone s.nonces n := by
  rw [Live, Store.liveSome filed]
  exact and_iff_right rfl

theorem runCases (filed : Filed s.nonces) (t : Transaction) :
    (written? (t, (t.run s).1) = none ∧ (t.run s).2 = s) ∨
    ∃ offer n, t.offer? = some offer ∧ n.id = offer.id ∧ n.value = offer.value ∧
      written? (t, (t.run s).1) = some n ∧ (t.run s).2 = s.insertNonce n := by
  cases t with
  | issue n => exact .inr ⟨n, n, rfl, rfl, rfl, rfl, rfl⟩
  | latest w => exact .inl ⟨rfl, rfl⟩
  | consume expected next =>
    obtain ⟨live, _, _, done⟩ | ⟨_, done⟩ := Store.consumeCases filed expected next
    · refine .inr ⟨next, { next with createdAt := Store.later next.createdAt live.createdAt },
        rfl, rfl, rfl, ?_, ?_⟩
      · simp only [Transaction.run, done, written?]
      · simp only [Transaction.run, done]
    · exact .inl ⟨by simp only [Transaction.run, done, written?], by simp only [Transaction.run, done]⟩

theorem acceptedOutdone (filed : Filed s.nonces)
    (countable : ∀ n, Holds s.nonces n → n.createdAt.Countable)
    (clocked : ∀ n, written? (t, (t.run s).1) = some n → n.createdAt.Countable)
    (accepted : accepts w v (t, (t.run s).1) = true) :
    ∃ n, n.wallet = w ∧ n.value = v ∧ Live s n ∧ Outdone (t.run s).2.nonces n := by
  cases t with
  | issue => simp [accepts] at accepted
  | latest => simp [accepts] at accepted
  | consume expected next =>
    obtain ⟨live, found, same, done⟩ | ⟨_, done⟩ := Store.consumeCases filed expected next
    · simp only [Transaction.run, done, accepts, decide_eq_true_eq] at accepted clocked ⊢
      obtain ⟨rfl, rfl⟩ := accepted
      obtain ⟨own, held, _⟩ := (Store.liveSome filed).mp found
      refine ⟨live, own, same, by rw [Live, own, found], ?_⟩
      refine outdoneBy (holdsNew _) own.symm ?_
      exact Store.laterThanPrevious (countable live held) (clocked _ rfl)
    · simp [Transaction.run, done, accepts] at accepted

structure Ready (s : Store) (moves : List Transaction) : Prop where
  filed : Filed s.nonces
  single : ∀ n m, Holds s.nonces n → Holds s.nonces m → n.value = m.value → n = m
  countable : ∀ n, Holds s.nonces n → n.createdAt.Countable
  apart : ∀ n, Holds s.nonces n → ∀ offer ∈ offers moves, n.id ≠ offer.id ∧ n.value ≠ offer.value
  distinct : Distinct moves
  clocked : Clocked (history s moves)

theorem readyEmpty (distinct : Distinct moves) (clocked : Clocked (history .empty moves)) :
    Ready .empty moves := by
  have none : ∀ n : Nonce, ¬ Holds Store.empty.nonces n := by
    intro n held
    simp [Holds, Store.empty] at held
  exact ⟨filedEmpty, fun n _ held => absurd held (none n), fun n held => absurd held (none n),
    fun n held => absurd held (none n), distinct, clocked⟩

theorem distinctRest (h : Distinct (t :: moves)) :
    Distinct moves ∧ ∀ offer, t.offer? = some offer →
      ∀ other ∈ offers moves, offer.id ≠ other.id ∧ offer.value ≠ other.value := by
  unfold Distinct offers at h
  rw [List.filterMap_cons] at h
  split at h
  next none => exact ⟨h, by simp [none]⟩
  next offer same =>
    obtain ⟨ids, values⟩ := h
    rw [List.map_cons, List.nodup_cons] at ids values
    refine ⟨⟨ids.2, values.2⟩, ?_⟩
    intro other found x member
    cases same.symm.trans found
    constructor
    · intro equal
      exact ids.1 (List.mem_map.mpr ⟨x, member, equal.symm⟩)
    · intro equal
      exact values.1 (List.mem_map.mpr ⟨x, member, equal.symm⟩)

theorem Ready.extends (ready : Ready s (t :: moves)) : Extends s.nonces (t.run s).2.nonces := by
  obtain ⟨_, same⟩ | ⟨offer, n, has, identifier, _, _, same⟩ := runCases ready.filed t
  · rw [same]
    exact fun _ held => held
  · rw [same, Store.insertNonceTable]
    refine extendsPut fun other held => ?_
    have member : offer ∈ offers (t :: moves) := List.mem_filterMap.mpr ⟨t, List.mem_cons_self, has⟩
    exact fun equal => (ready.apart other held offer member).1 (equal.trans identifier)

theorem Ready.step (ready : Ready s (t :: moves)) : Ready (t.run s).2 moves := by
  obtain ⟨rest, differ⟩ := distinctRest ready.distinct
  have clocked : Clocked (history (t.run s).2 moves) :=
    fun e member => ready.clocked e (List.mem_cons_of_mem _ member)
  have apart : ∀ n, Holds s.nonces n → ∀ x ∈ offers moves, n.id ≠ x.id ∧ n.value ≠ x.value := by
    intro n held x member
    obtain ⟨move, among, has⟩ := List.mem_filterMap.mp member
    exact ready.apart n held x (List.mem_filterMap.mpr ⟨move, List.mem_cons_of_mem _ among, has⟩)
  obtain ⟨_, same⟩ | ⟨offer, n, has, identifier, value, wrote, same⟩ := runCases ready.filed t
  · rw [same] at clocked ⊢
    exact ⟨ready.filed, ready.single, ready.countable, apart, rest, clocked⟩
  · have member : offer ∈ offers (t :: moves) := List.mem_filterMap.mpr ⟨t, List.mem_cons_self, has⟩
    rw [same] at clocked ⊢
    refine ⟨filedPut ready.filed n, ?single, ?countable, ?apart, rest, clocked⟩
    case single =>
      intro a b heldA heldB equal
      rcases holdsPut.mp heldA with newA | ⟨_, oldA⟩ <;> rcases holdsPut.mp heldB with newB | ⟨_, oldB⟩
      · rw [newA, newB]
      · rw [newA] at equal
        exact absurd (equal.symm.trans value) (ready.apart b oldB offer member).2
      · rw [newB] at equal
        exact absurd (equal.trans value) (ready.apart a oldA offer member).2
      · exact ready.single a b oldA oldB equal
    case countable =>
      intro a held
      rcases holdsPut.mp held with rfl | ⟨_, held⟩
      · exact ready.clocked _ List.mem_cons_self a wrote
      · exact ready.countable a held
    case apart =>
      intro a held x among
      rcases holdsPut.mp held with rfl | ⟨_, held⟩
      · rw [identifier, value]
        exact differ offer has x among
      · exact apart a held x among

theorem Ready.run (ready : Ready s (first ++ second)) :
    Ready (after s first) second ∧ Extends s.nonces (after s first).nonces := by
  induction first generalizing s with
  | nil => exact ⟨ready, fun _ held => held⟩
  | cons t rest ih =>
    obtain ⟨later, grown⟩ := ih ready.step
    exact ⟨later, extendsTrans ready.extends grown⟩

theorem outdoneUnused (ready : Ready s moves) {n : Nonce} (held : Holds s.nonces n)
    (value : n.value = v) (outdone : Outdone s.nonces n) :
    uses w v (history s moves) = 0 := by
  -- Values are single, so a use would be of this nonce, and a live nonce is not outdone.
  induction moves generalizing s with
  | nil => rfl
  | cons t rest ih =>
    have rejected : ¬ accepts w v (t, (t.run s).1) = true := by
      intro accepted
      obtain ⟨live, _, same, current, _⟩ := acceptedOutdone ready.filed ready.countable
        (ready.clocked _ List.mem_cons_self) accepted
      obtain ⟨present, ahead⟩ := (liveIff ready.filed).mp current
      cases ready.single n live held present (value.trans same.symm)
      exact ahead outdone
    rw [uses, history, List.countP_cons_of_neg rejected]
    exact ih ready.step (ready.extends n held) (outdoneStays ready.extends outdone)

theorem usedAtMostOnce (ready : Ready s moves) (w : Wallet) (v : String) :
    uses w v (history s moves) ≤ 1 := by
  induction moves generalizing s with
  | nil => exact Nat.zero_le 1
  | cons t rest ih =>
    cases accepted : accepts w v (t, (t.run s).1) with
    | false =>
      rw [uses, history, List.countP_cons_of_neg (by simp [accepted])]
      exact ih ready.step
    | true =>
      obtain ⟨n, _, value, current, outdone⟩ := acceptedOutdone ready.filed ready.countable
        (ready.clocked _ List.mem_cons_self) accepted
      have held := ready.extends n ((liveIff ready.filed).mp current).1
      have unused := outdoneUnused (w := w) ready.step held value outdone
      have once : uses w v (history s (t :: rest)) = uses w v (history (t.run s).2 rest) + 1 := by
        rw [uses, history, List.countP_cons_of_pos accepted, uses]
      omega

theorem afterAppend (s : Store) (first second : List Transaction) :
    after s (first ++ second) = after (after s first) second :=
  List.foldl_append

theorem retiredForGood (ready : Ready s (first ++ second)) {n : Nonce} (live : Live s n)
    (retired : ¬ Live (after s first) n) : ¬ Live (after s (first ++ second)) n := by
  obtain ⟨held, _⟩ := (liveIff ready.filed).mp live
  obtain ⟨later, grown⟩ := ready.run
  have outdone : Outdone (after s first).nonces n :=
    Classical.byContradiction fun ahead => retired ((liveIff later.filed).mpr ⟨grown n held, ahead⟩)
  rw [← List.append_nil second] at later
  obtain ⟨last, grown⟩ := later.run
  rw [afterAppend, liveIff last.filed]
  exact fun ⟨_, ahead⟩ => ahead (outdoneStays grown outdone)

end HolderGate.Nonces
