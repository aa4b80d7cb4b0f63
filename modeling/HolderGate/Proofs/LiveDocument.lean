import HolderGate.Proofs.NewestFirst

/-! Tables in which every document stands under its own newest-first key. Such a table answers for a
wallet with a document that none of the wallet outdoes, and a document that is outdone stays so
while documents are only added. -/
namespace HolderGate

class Dated (α : Type) where
  wallet : α → Identity.Wallet
  createdAt : α → Time.Timestamp
  id : α → String

instance : Dated Identity.Nonce := ⟨Identity.Nonce.wallet, Identity.Nonce.createdAt, Identity.Nonce.id⟩

instance : Dated Identity.SessionKey :=
  ⟨Identity.SessionKey.wallet, Identity.SessionKey.createdAt, Identity.SessionKey.id⟩

namespace Newest
open Identity Time

variable {α : Type} [Dated α]

def filing (d : α) : Bytes := key (Dated.wallet d) (Dated.createdAt d) (Dated.id d)

def Filed (table : SortedMap Bytes (Stored α)) : Prop :=
  ∀ k document, table.get? k = some document → ∃ d, document = .ok d ∧ k = filing d

def Holds (table : SortedMap Bytes (Stored α)) (d : α) : Prop := table.get? (filing d) = some (.ok d)

def Outdone (table : SortedMap Bytes (Stored α)) (d : α) : Prop :=
  ∃ other, Holds table other ∧ Dated.wallet other = Dated.wallet d ∧ compare (filing other) (filing d) = .lt

def Extends (before after : SortedMap Bytes (Stored α)) : Prop := ∀ d, Holds before d → Holds after d

def put (table : SortedMap Bytes (Stored α)) (d : α) : SortedMap Bytes (Stored α) :=
  table.insert (filing d) (.ok d)

variable {table before after later : SortedMap Bytes (Stored α)}

theorem filedEmpty : Filed (SortedMap.empty : SortedMap Bytes (Stored α)) := by
  intro k document found
  simp at found

theorem filedEntry (filed : Filed table) {e : Bytes × Stored α} (member : e ∈ table.entries) :
    ∃ d, e = (filing d, .ok d) ∧ Holds table d := by
  obtain ⟨k, document⟩ := e
  have found := SortedMap.getSome.mpr member
  obtain ⟨d, rfl, rfl⟩ := filed k document found
  exact ⟨d, rfl, found⟩

theorem filingWithin {d : α} {w : Wallet} :
    SortedMap.Within (start w) (stop w) (filing d) ↔ Dated.wallet d = w := keyWithin

theorem firstSome (filed : Filed table) {w : Wallet} {document : Stored α} :
    first table w = some document ↔
      ∃ d, document = .ok d ∧ Dated.wallet d = w ∧ Holds table d ∧ ¬ Outdone table d := by
  rw [first, Option.map_eq_some_iff]
  constructor
  · rintro ⟨e, found, rfl⟩
    obtain ⟨member, within, least⟩ := SortedMap.firstInSome.mp found
    obtain ⟨d, rfl, held⟩ := filedEntry filed member
    have own := filingWithin.mp within
    refine ⟨d, rfl, own, held, ?_⟩
    rintro ⟨other, present, same, before⟩
    have order := least _ (SortedMap.getSome.mp present) (filingWithin.mpr (same.trans own))
    rw [Std.OrientedCmp.gt_iff_lt.mpr before] at order
    contradiction
  · rintro ⟨d, rfl, own, held, ahead⟩
    refine ⟨(filing d, .ok d), ?_, rfl⟩
    refine SortedMap.firstInSome.mpr ⟨SortedMap.getSome.mp held, filingWithin.mpr own, ?_⟩
    intro e member within
    obtain ⟨other, rfl, present⟩ := filedEntry filed member
    have same : Dated.wallet other = Dated.wallet d := (filingWithin.mp within).trans own.symm
    cases order : compare (filing d) (filing other) with
    | lt => rfl
    | eq => rfl
    | gt => exact absurd ⟨other, present, same, Std.OrientedCmp.gt_iff_lt.mp order⟩ ahead

theorem firstPresent {d : α} (held : Holds table d) : ∃ document, first table (Dated.wallet d) = some document := by
  cases found : first table (Dated.wallet d) with
  | some document => exact ⟨document, rfl⟩
  | none =>
    have absent := SortedMap.firstInNone.mp (Option.map_eq_none_iff.mp found)
    exact absurd (filingWithin.mpr rfl) (absent _ (SortedMap.getSome.mp held))

theorem filedPut (filed : Filed table) (d : α) : Filed (put table d) := by
  intro k document found
  rw [put, SortedMap.getInsert] at found
  split at found
  next same => exact ⟨d, (Option.some.inj found).symm, same⟩
  next => exact filed k document found

theorem holdsPut {d other : α} :
    Holds (put table d) other ↔ other = d ∨ (filing other ≠ filing d ∧ Holds table other) := by
  rw [Holds, put, SortedMap.getInsert]
  split
  next same =>
    constructor
    · intro found
      cases Option.some.inj found
      exact .inl rfl
    · rintro (rfl | ⟨differ, _⟩)
      · rfl
      · exact absurd same differ
  next differ =>
    constructor
    · exact fun held => .inr ⟨differ, held⟩
    · rintro (rfl | ⟨_, held⟩)
      · exact absurd rfl differ
      · exact held

theorem firstOther {d : α} {w : Wallet} (other : Dated.wallet d ≠ w) : first (put table d) w = first table w := by
  rw [first, put, SortedMap.firstInInsert (m := table) (.ok d) (mt filingWithin.mp other), first]

theorem holdsNew (d : α) : Holds (put table d) d := holdsPut.mpr (.inl rfl)

theorem extendsPut {d : α} (fresh : ∀ other, Holds table other → Dated.id other ≠ Dated.id d) :
    Extends table (put table d) := by
  intro other held
  refine holdsPut.mpr (.inr ⟨?_, held⟩)
  intro same
  exact fresh other held (keyInjective same).2.2

theorem extendsTrans (first : Extends before after) (second : Extends after later) : Extends before later :=
  fun d held => second d (first d held)

theorem outdoneStays {d : α} (grown : Extends before after) (h : Outdone before d) : Outdone after d := by
  obtain ⟨other, held, same, less⟩ := h
  exact ⟨other, grown other held, same, less⟩

theorem filingBefore {d other : α} (same : Dated.wallet other = Dated.wallet d)
    (instants : (Dated.createdAt other).recency < (Dated.createdAt d).recency) :
    compare (filing other) (filing d) = .lt := by
  rw [filing, filing, compareKey, same, Nat.compare_eq_lt.mpr instants]
  simp

theorem outdoneBy {d other : α} (held : Holds table other) (same : Dated.wallet other = Dated.wallet d)
    (instants : (Dated.createdAt other).recency < (Dated.createdAt d).recency) : Outdone table d :=
  ⟨other, held, same, filingBefore same instants⟩

theorem compareFiling {d other : α} (same : Dated.wallet d = Dated.wallet other) :
    compare (filing d) (filing other) = (compare (Dated.createdAt d).recency (Dated.createdAt other).recency).then
      (compare (utf8 (Dated.id d)) (utf8 (Dated.id other))) := by
  rw [filing, filing, compareKey, same, Std.ReflOrd.compare_self, Ordering.eq_then]

theorem filingNotAfter {d other : α} (same : Dated.wallet d = Dated.wallet other) :
    (compare (filing d) (filing other)).isLE ↔ (Dated.createdAt d).recency < (Dated.createdAt other).recency ∨
      ((Dated.createdAt d).recency = (Dated.createdAt other).recency ∧
        (compare (utf8 (Dated.id d)) (utf8 (Dated.id other))).isLE) := by
  rw [compareFiling same, Ordering.isLE_then_iff_or, Nat.compare_eq_lt, Nat.compare_eq_eq]

theorem firstAhead {d : α} (filed : Filed table) (ahead : ¬ Outdone table d) :
    first (put table d) (Dated.wallet d) = some (.ok d) := by
  refine (firstSome (filedPut filed d)).mpr ⟨d, rfl, rfl, holdsNew d, ?_⟩
  rintro ⟨other, held, same, before⟩
  rcases holdsPut.mp held with rfl | ⟨_, held⟩
  · simp at before
  · exact ahead ⟨other, held, same, before⟩

theorem outdoneBehind {d other : α} (behind : Outdone table d) :
    Outdone (put table d) other ↔ Outdone table other := by
  obtain ⟨lead, present, own, less⟩ := behind
  -- What is before the new document is also before all that the new one is before.
  constructor
  · rintro ⟨next, held, same, before⟩
    rcases holdsPut.mp held with rfl | ⟨_, held⟩
    · exact ⟨lead, present, own.trans same, Std.TransCmp.lt_trans less before⟩
    · exact ⟨next, held, same, before⟩
  · rintro ⟨next, held, same, before⟩
    by_cases taken : filing next = filing d
    · have kept : filing lead ≠ filing d := fun equal => by simp [equal] at less
      refine ⟨lead, holdsPut.mpr (.inr ⟨kept, present⟩), ?_, Std.TransCmp.lt_trans less (taken ▸ before)⟩
      exact own.trans ((keyInjective taken).1.symm.trans same)
    · exact ⟨next, holdsPut.mpr (.inr ⟨taken, held⟩), same, before⟩

theorem firstBehind {d : α} (filed : Filed table) (behind : Outdone table d) (w : Wallet) :
    first (put table d) w = first table w := by
  refine Option.ext fun document => ?_
  rw [firstSome filed, firstSome (filedPut filed d)]
  refine exists_congr fun found => and_congr_right fun _ => and_congr_right fun _ => ?_
  rw [outdoneBehind behind, holdsPut]
  constructor
  · rintro ⟨rfl | ⟨_, held⟩, ahead⟩
    · exact absurd behind ahead
    · exact ⟨held, ahead⟩
  · rintro ⟨held, ahead⟩
    refine ⟨.inr ⟨fun taken => ?_, held⟩, ahead⟩
    obtain ⟨lead, present, own, less⟩ := behind
    exact ahead ⟨lead, present, own.trans (keyInjective taken).1.symm, taken ▸ less⟩

end Newest

namespace Store
open Identity Newest

variable {s : Store} {w : Wallet}

instance (s : Store) (w : Wallet) (n : Nonce) : Decidable (s.liveNonce w = .ok (some n)) :=
  match found : s.liveNonce w with
  | .ok live => decidable_of_iff (live = some n) (by simp)
  | .error _ => isFalse (by simp)

theorem liveSome (filed : Filed s.nonces) {n : Nonce} :
    s.liveNonce w = .ok (some n) ↔ n.wallet = w ∧ Holds s.nonces n ∧ ¬ Outdone s.nonces n := by
  have found : s.liveNonce w = .ok (some n) ↔ first s.nonces w = some (.ok n) := by
    unfold liveNonce
    cases first s.nonces w with
    | none => simp
    | some document => cases document <;> simp [opened, Functor.map, Except.map]
  rw [found, firstSome filed]
  constructor
  · rintro ⟨d, equal, rest⟩
    cases equal
    exact rest
  · exact fun rest => ⟨n, rfl, rest⟩

theorem liveReadable (filed : Filed s.nonces) (w : Wallet) : ∃ live, s.liveNonce w = .ok live := by
  unfold liveNonce
  cases found : first s.nonces w with
  | none => exact ⟨none, rfl⟩
  | some document =>
    obtain ⟨n, rfl, _⟩ := (firstSome filed).mp found
    exact ⟨some n, rfl⟩

theorem liveSame {other : Store} (same : s.nonces = other.nonces) : s.liveNonce w = other.liveNonce w := by
  unfold liveNonce
  rw [same]

theorem insertNonceTable (n : Nonce) : (s.insertNonce n).nonces = put s.nonces n := rfl

theorem consumeCases (filed : Filed s.nonces) (expected : String) (next : Nonce) :
    (∃ live, s.liveNonce next.wallet = .ok (some live) ∧ live.value = expected ∧
      s.consumeNonce expected next =
        .ok (some { next with createdAt := Store.later next.createdAt live.createdAt },
          s.insertNonce { next with createdAt := Store.later next.createdAt live.createdAt })) ∨
    ((∀ live, s.liveNonce next.wallet = .ok (some live) → live.value ≠ expected) ∧
      s.consumeNonce expected next = .ok (none, s)) := by
  obtain ⟨answer, found⟩ := liveReadable filed next.wallet
  simp only [consumeNonce, found, bind, Except.bind]
  cases answer with
  | none => exact .inr ⟨by simp, rfl⟩
  | some live =>
    by_cases same : live.value = expected
    · exact .inl ⟨live, rfl, same, by simp [same]⟩
    · refine .inr ⟨?_, by simp [same]⟩
      intro other equal
      cases equal
      exact same

section Named

variable {α : Type} {name : α → String} {table : SortedMap String (Stored α)} {all : List α}

def Named (name : α → String) (table : SortedMap String (Stored α)) : Prop :=
  ∀ key document, table.get? key = some document → ∃ d, document = .ok d ∧ name d = key

theorem namedEmpty : Named name .empty := by
  intro key document found
  simp at found

theorem Named.put (named : Named name table) (d : α) : Named name (table.insert (name d) (.ok d)) := by
  intro key document found
  rw [SortedMap.getInsert] at found
  split at found
  next same => exact ⟨d, (Option.some.inj found).symm, same.symm⟩
  next => exact named key document found

theorem Named.listed (named : Named name table) :
    ∃ all : List α, table.entries = all.map fun d => (name d, .ok d) := by
  have each : ∀ e ∈ table.entries, ∃ d, e = (name d, .ok d) := by
    rintro ⟨key, document⟩ among
    obtain ⟨d, rfl, rfl⟩ := named key document (SortedMap.getSome.mpr among)
    exact ⟨d, rfl⟩
  generalize table.entries = entries at each
  induction entries with
  | nil => exact ⟨[], rfl⟩
  | cons e rest ih =>
    obtain ⟨d, rfl⟩ := each e List.mem_cons_self
    obtain ⟨all, rfl⟩ := ih fun e among => each e (List.mem_cons_of_mem _ among)
    exact ⟨d :: all, rfl⟩

theorem openedAll (all : List α) : (all.map (.ok : α → Stored α)).mapM opened = .ok all := by
  induction all with
  | nil => rfl
  | cons d rest ih =>
    rw [List.map_cons, List.mapM_cons, ih]
    rfl

theorem listedRead (listed : table.entries = all.map fun d => (name d, .ok d)) :
    table.values.mapM opened = .ok all := by
  rw [SortedMap.values, listed, List.map_map]
  exact openedAll all

theorem listedMember (listed : table.entries = all.map fun d => (name d, .ok d)) {d : α} :
    d ∈ all ↔ table.get? (name d) = some (.ok d) := by
  rw [SortedMap.getSome, listed]
  constructor
  · exact fun among => List.mem_map_of_mem among
  · intro among
    obtain ⟨other, member, same⟩ := List.mem_map.mp among
    cases Prod.mk.inj same |>.2
    exact member

theorem listedAscending (listed : table.entries = all.map fun d => (name d, .ok d)) :
    all.Pairwise fun a b => compare (name a) (name b) = .lt := by
  have ascending := table.ascending
  rwa [listed, List.pairwise_map] at ascending

end Named

theorem foundOk {α : Type} {what : String} {document? : Option (Stored α)} {v : α} :
    found what document? = .ok v ↔ document? = some (.ok v) := by
  rcases document? with _ | _ | _ <;> simp [found, opened]

theorem foundAbsent {α : Type} {what : String} {document? : Option (Stored α)} :
    found what document? = .error (.absent what) ↔ document? = none := by
  rcases document? with _ | _ | _ <;> simp [found, opened]

theorem latestKey (filed : Filed s.sessionKeys) {key : SessionKey} : s.latestSessionKey w = .ok key ↔
    key.wallet = w ∧ Holds s.sessionKeys key ∧ ¬ Outdone s.sessionKeys key := by
  rw [latestSessionKey, foundOk, firstSome filed]
  constructor
  · rintro ⟨d, equal, rest⟩
    cases equal
    exact rest
  · exact fun rest => ⟨key, rfl, rest⟩

theorem latestLive (filed : Filed s.nonces) {n : Nonce} : s.latestNonce w = .ok n ↔ s.liveNonce w = .ok (some n) := by
  rw [latestNonce, foundOk, firstSome filed, liveSome filed]
  constructor
  · rintro ⟨d, same, rest⟩
    cases same
    exact rest
  · exact fun rest => ⟨n, rfl, rest⟩

/-- Of a later instant than the live nonce of its wallet, or of the same one with no greater identifier. Instants
that the index does not tell apart are the same. -/
def Supersedes (s : Store) (n : Nonce) : Prop :=
  ∀ live, s.liveNonce n.wallet = .ok (some live) →
    n.createdAt.recency < live.createdAt.recency ∨
      (n.createdAt.recency = live.createdAt.recency ∧ (compare (utf8 n.id) (utf8 live.id)).isLE)

variable {n : Nonce}

theorem supersedesAhead (filed : Filed s.nonces) : s.Supersedes n ↔ ¬ Outdone s.nonces n := by
  constructor
  · rintro supersedes ⟨other, held, same, before⟩
    obtain ⟨document, present⟩ := firstPresent held
    obtain ⟨live, rfl, own, _, ahead⟩ := (firstSome filed).mp present
    have mine : Dated.wallet live = Dated.wallet n := own.trans same
    have current : s.liveNonce n.wallet = .ok (some live) := (liveSome filed).mpr ⟨mine, ‹_›, ahead⟩
    have first := notAfter.mp ((filingNotAfter mine.symm).mpr (supersedes live current))
    -- The live nonce is not after the other one, so it would be before the new one as well.
    have least : (compare (filing live) (filing other)).isLE :=
      notAfter.mpr fun less => ahead ⟨other, held, own.symm, less⟩
    exact first (Std.TransCmp.lt_of_isLE_of_lt least before)
  · intro ahead live current
    obtain ⟨own, held, _⟩ := (liveSome filed).mp current
    have mine : Dated.wallet n = Dated.wallet live := own.symm
    exact (filingNotAfter mine).mp (notAfter.mpr fun less => ahead ⟨live, held, own, less⟩)

theorem supersededFirst (filed : Filed s.nonces) (unmet : ¬ s.Supersedes n) :
    first (s.insertNonce n).nonces w = first s.nonces w :=
  firstBehind filed (Classical.not_not.mp (mt (supersedesAhead filed).mpr unmet)) w

theorem supersededLatest (filed : Filed s.nonces) (unmet : ¬ s.Supersedes n) :
    (s.insertNonce n).latestNonce w = s.latestNonce w := by
  rw [latestNonce, supersededFirst filed unmet, latestNonce]

theorem supersededLive (filed : Filed s.nonces) (unmet : ¬ s.Supersedes n) :
    (s.insertNonce n).liveNonce w = s.liveNonce w := by
  rw [liveNonce, supersededFirst filed unmet, liveNonce]

theorem supersedesLatest (filed : Filed s.nonces) (supersedes : s.Supersedes n) :
    (s.insertNonce n).latestNonce n.wallet = .ok n :=
  foundOk.mpr (firstAhead filed ((supersedesAhead filed).mp supersedes))

theorem insertedLatest (filed : Filed s.nonces) :
    (s.insertNonce n).latestNonce n.wallet = .ok n ↔ s.Supersedes n := by
  refine ⟨fun latest => Classical.byContradiction fun unmet => ?_, supersedesLatest filed⟩
  rw [supersededLatest filed unmet, latestLive filed] at latest
  refine unmet fun live current => .inr ?_
  cases latest.symm.trans current
  exact ⟨rfl, by simp⟩

theorem insertedLive (filed : Filed s.nonces) :
    (s.insertNonce n).liveNonce n.wallet = .ok (some n) ↔ s.Supersedes n := by
  rw [← latestLive (filedPut filed n), insertedLatest filed]

end Store
end HolderGate
