import HolderGate.Proofs.LiveDocument

/-! Documents that are put into a newest-first index one after another. The index tells instants apart by a count of
nanoseconds, in which a leap second has no place of its own. Documents that it tells apart stay beside each other, and a
wallet is answered with the newest of its own. -/
namespace HolderGate
open Identity

namespace Time.Timestamp

/-- The nanoseconds from 1970 on by which the index files an instant, those of a leap second as far into the second
after it. -/
def indexed (t : Timestamp) : Int := min t.count 0x7FFFFFFFFFFFFFFF

variable {t u : Timestamp}

theorem recencyIndexed (since : 0 ≤ t.seconds) : (t.recency : Int) = 0xFFFFFFFFFFFFFFFF - t.indexed := by
  have size : (UInt64.size : Int) = 0x10000000000000000 := by decide
  have word : t.wordNanos?.getD 0x7FFFFFFFFFFFFFFF = t.indexed := by
    simp only [wordNanos?, indexed, count]
    split
    next within => simp only [Option.getD_some]; omega
    next beyond => simp only [Option.getD_none]; omega
  have range : 0 ≤ t.indexed ∧ t.indexed ≤ 0x7FFFFFFFFFFFFFFF := by
    simp only [indexed, count]
    omega
  rw [recency, word, size]
  omega

theorem recencyLess (since : 0 ≤ t.seconds) (after : 0 ≤ u.seconds) :
    t.recency < u.recency ↔ u.indexed < t.indexed := by
  have left := recencyIndexed since
  have right := recencyIndexed after
  omega

theorem recencySame (since : 0 ≤ t.seconds) (after : 0 ≤ u.seconds) :
    t.recency = u.recency ↔ t.indexed = u.indexed := by
  have left := recencyIndexed since
  have right := recencyIndexed after
  omega

theorem indexedOrder (h : t.Countable) (k : u.Countable) :
    (t.indexed = u.indexed ↔ t = u) ∧ (t.indexed < u.indexed ↔ ¬ u ≤ t) := by
  obtain ⟨_, nanos, most⟩ := h
  obtain ⟨_, others, last⟩ := k
  obtain ⟨seconds, nanoseconds⟩ := t
  obtain ⟨later, rest⟩ := u
  simp only [count] at nanos others most last
  constructor
  · simp only [indexed, count, mk.injEq]
    omega
  · show _ ↔ ¬ Le _ _
    simp only [indexed, count, Le]
    omega

end Time.Timestamp

namespace Newest
open Time

variable {α : Type} [Dated α]

def SamePlace (d other : α) : Prop :=
  Dated.wallet d = Dated.wallet other ∧ (Dated.createdAt d).indexed = (Dated.createdAt other).indexed ∧
    Dated.id d = Dated.id other

def Leads (d other : α) : Prop :=
  (Dated.createdAt other).indexed < (Dated.createdAt d).indexed ∨
    ((Dated.createdAt other).indexed = (Dated.createdAt d).indexed ∧
      (compare (utf8 (Dated.id d)) (utf8 (Dated.id other))).isLE)

def Stands : List α → α → Prop
  | [], _ => False
  | e :: rest, d => Stands rest d ∨ (d = e ∧ ∀ other ∈ rest, ¬ SamePlace other d)

instance (d other : α) : Decidable (SamePlace d other) := inferInstanceAs (Decidable (_ ∧ _ ∧ _))

instance (d other : α) : Decidable (Leads d other) := inferInstanceAs (Decidable (_ ∨ _))

instance decidableStands [DecidableEq α] : (ds : List α) → (d : α) → Decidable (Stands ds d)
  | [], _ => inferInstanceAs (Decidable False)
  | e :: rest, d =>
    have := decidableStands rest d
    inferInstanceAs (Decidable (_ ∨ (d = e ∧ ∀ other ∈ rest, ¬ SamePlace other d)))

def filled (ds : List α) : SortedMap Bytes (Stored α) := ds.foldl put .empty

structure NewestFirst (ds : List α) (table : SortedMap Bytes (Stored α)) (latest : Wallet → Except StoreError α)
    (what : Wallet → String) : Prop where
  kept : ∀ d, Holds table d ↔ Stands ds d
  newest : ∀ w d, latest w = .ok d ↔
    Stands ds d ∧ Dated.wallet d = w ∧ ∀ other ∈ ds, Dated.wallet other = w → Leads d other
  none : ∀ w, latest w = .error (.absent (what w)) ↔ ∀ d ∈ ds, Dated.wallet d ≠ w
  answered : ∀ w, (∃ d, latest w = .ok d) ∨ latest w = .error (.absent (what w))

variable {ds : List α} {d other : α} {table : SortedMap Bytes (Stored α)}

theorem samePlace (since : 0 ≤ (Dated.createdAt d).seconds) (after : 0 ≤ (Dated.createdAt other).seconds) :
    filing d = filing other ↔ SamePlace d other := by
  constructor
  · intro same
    obtain ⟨wallets, instants, identifiers⟩ := keyInjective same
    exact ⟨wallets, (Timestamp.recencySame since after).mp instants, identifiers⟩
  · intro same
    obtain ⟨wallets, instants, identifiers⟩ := same
    rw [filing, key, (Timestamp.recencySame since after).mpr instants, wallets, identifiers]
    rfl

theorem leadsRecency (since : 0 ≤ (Dated.createdAt d).seconds) (after : 0 ≤ (Dated.createdAt other).seconds) :
    Leads d other ↔ (Dated.createdAt d).recency < (Dated.createdAt other).recency ∨
      ((Dated.createdAt d).recency = (Dated.createdAt other).recency ∧
        (compare (utf8 (Dated.id d)) (utf8 (Dated.id other))).isLE) := by
  rw [Timestamp.recencyLess since after, Timestamp.recencySame since after, Leads, eq_comm]

theorem leadsFiling (since : 0 ≤ (Dated.createdAt d).seconds) (after : 0 ≤ (Dated.createdAt other).seconds)
    (same : Dated.wallet d = Dated.wallet other) : (compare (filing d) (filing other)).isLE ↔ Leads d other :=
  (filingNotAfter same).trans (leadsRecency since after).symm

theorem filledFiled (ds : List α) : Filed (filled ds) := by
  suffices onto : ∀ table : SortedMap Bytes (Stored α), Filed table → Filed (ds.foldl put table) from
    onto .empty filedEmpty
  induction ds with
  | nil => exact fun _ filed => filed
  | cons e rest ih => exact fun _ filed => ih _ (filedPut filed e)

theorem holdsFilled (since : ∀ d ∈ ds, 0 ≤ (Dated.createdAt d).seconds) (table : SortedMap Bytes (Stored α)) (d : α) :
    Holds (ds.foldl put table) d ↔ Stands ds d ∨ (Holds table d ∧ ∀ other ∈ ds, filing other ≠ filing d) := by
  induction ds generalizing table with
  | nil => simp [Stands]
  | cons e rest ih =>
    obtain ⟨first, later⟩ := List.forall_mem_cons.mp since
    have new : (d = e ∧ ∀ other ∈ rest, filing other ≠ filing d) ↔ (d = e ∧ ∀ other ∈ rest, ¬ SamePlace other d) := by
      refine and_congr_right fun same => forall₂_congr fun other among => not_congr ?_
      exact samePlace (later other among) (same ▸ first)
    rw [List.foldl_cons, ih later, holdsPut, Stands, ← new, List.forall_mem_cons, or_and_right, or_assoc]
    refine or_congr_right (or_congr_right ?_)
    rw [and_comm (a := filing d ≠ filing e), and_assoc, ne_comm]

theorem standsMember (stands : Stands ds d) : d ∈ ds := by
  induction ds with
  | nil => exact stands.elim
  | cons e rest ih =>
    obtain later | ⟨same, _⟩ := stands
    · exact List.mem_cons_of_mem _ (ih later)
    · exact same ▸ List.mem_cons_self

theorem standsInPlace (among : d ∈ ds) : ∃ last, Stands ds last ∧ SamePlace last d := by
  induction ds generalizing d with
  | nil => cases among
  | cons e rest ih =>
    by_cases replaced : ∃ other ∈ rest, SamePlace other d
    · obtain ⟨other, member, same⟩ := replaced
      obtain ⟨last, stands, place⟩ := ih member
      exact ⟨last, .inl stands, place.1.trans same.1, place.2.1.trans same.2.1, place.2.2.trans same.2.2⟩
    · have own : d = e := (List.mem_cons.mp among).resolve_right fun later => replaced ⟨d, later, rfl, rfl, rfl⟩
      exact ⟨d, .inr ⟨own, fun other member same => replaced ⟨other, member, same⟩⟩, rfl, rfl, rfl⟩

theorem holdsStands (since : ∀ d ∈ ds, 0 ≤ (Dated.createdAt d).seconds) (d : α) :
    Holds (filled ds) d ↔ Stands ds d := by
  rw [filled, holdsFilled since]
  simp [Holds]

theorem outdoneFilled (since : ∀ d ∈ ds, 0 ≤ (Dated.createdAt d).seconds) (stands : Stands ds d) :
    Outdone (filled ds) d ↔ ∃ other ∈ ds, Dated.wallet other = Dated.wallet d ∧ ¬ Leads d other := by
  have own := since d (standsMember stands)
  constructor
  · intro outdone
    obtain ⟨other, held, same, less⟩ := outdone
    have among := standsMember ((holdsStands since other).mp held)
    refine ⟨other, among, same, fun leads => ?_⟩
    exact notAfter.mp ((leadsFiling own (since other among) same.symm).mpr leads) less
  · intro led
    obtain ⟨other, among, same, behind⟩ := led
    -- The one that leads may have been replaced, but only by one in the same place.
    obtain ⟨last, lasting, place⟩ := standsInPlace among
    have filed : filing last = filing other := (samePlace (since last (standsMember lasting)) (since other among)).mpr place
    have less : ¬ (compare (filing d) (filing other)).isLE := mt (leadsFiling own (since other among) same.symm).mp behind
    refine ⟨last, (holdsStands since last).mpr lasting, place.1.trans same, ?_⟩
    rw [filed]
    exact Classical.not_not.mp (mt notAfter.mpr less)

theorem firstFilled (since : ∀ d ∈ ds, 0 ≤ (Dated.createdAt d).seconds) (w : Wallet) (d : α) :
    first (filled ds) w = some (.ok d) ↔
      Stands ds d ∧ Dated.wallet d = w ∧ ∀ other ∈ ds, Dated.wallet other = w → Leads d other := by
  rw [firstSome (filledFiled ds)]
  constructor
  · intro found
    obtain ⟨_, same, rfl, held, ahead⟩ := found
    cases same
    have stands := (holdsStands since _).mp held
    refine ⟨stands, rfl, fun other among same => Classical.byContradiction fun behind => ?_⟩
    exact ahead ((outdoneFilled since stands).mpr ⟨other, among, same, behind⟩)
  · intro newest
    obtain ⟨stands, rfl, leads⟩ := newest
    refine ⟨d, rfl, rfl, (holdsStands since d).mpr stands, fun outdone => ?_⟩
    obtain ⟨other, among, same, behind⟩ := (outdoneFilled since stands).mp outdone
    exact behind (leads other among same)

theorem firstNone (since : ∀ d ∈ ds, 0 ≤ (Dated.createdAt d).seconds) (w : Wallet) :
    first (filled ds) w = none ↔ ∀ d ∈ ds, Dated.wallet d ≠ w := by
  constructor
  · intro absent d among own
    obtain ⟨last, stands, place⟩ := standsInPlace among
    obtain ⟨document, found⟩ := firstPresent ((holdsStands since last).mpr stands)
    rw [place.1, own, absent] at found
    cases found
  · intro foreign
    cases found : first (filled ds) w with
    | none => rfl
    | some document =>
      obtain ⟨d, _, own, held, _⟩ := (firstSome (filledFiled ds)).mp found
      exact absurd own (foreign d (standsMember ((holdsStands since d).mp held)))

theorem filledNewest (since : ∀ d ∈ ds, 0 ≤ (Dated.createdAt d).seconds) (what : Wallet → String) :
    NewestFirst ds (filled ds) (fun w => Store.found (what w) (first (filled ds) w)) what where
  kept := holdsStands since
  newest w d := Store.foundOk.trans (firstFilled since w d)
  none w := Store.foundAbsent.trans (firstNone since w)
  answered w := by
    cases found : first (filled ds) w with
    | none => exact .inr rfl
    | some document =>
      obtain ⟨d, rfl, _⟩ := (firstSome (filledFiled ds)).mp found
      exact .inl ⟨d, rfl⟩

end Newest

namespace Store
open Newest Time

theorem insertedNonces (ns : List Nonce) : (ns.foldl insertNonce empty).nonces = filled ns := by
  suffices onto : ∀ s : Store, (ns.foldl insertNonce s).nonces = ns.foldl put s.nonces from onto empty
  induction ns with
  | nil => exact fun _ => rfl
  | cons n rest ih => exact fun s => ih (s.insertNonce n)

theorem insertedSessionKeys (ks : List SessionKey) : (ks.foldl insertSessionKey empty).sessionKeys = filled ks := by
  suffices onto : ∀ s : Store, (ks.foldl insertSessionKey s).sessionKeys = ks.foldl put s.sessionKeys from onto empty
  induction ks with
  | nil => exact fun _ => rfl
  | cons k rest ih => exact fun s => ih (s.insertSessionKey k)

theorem noncesNewest {ns : List Nonce} (since : ∀ n ∈ ns, 0 ≤ n.createdAt.seconds) :
    NewestFirst ns (ns.foldl insertNonce empty).nonces (ns.foldl insertNonce empty).latestNonce nonceText := by
  have newest : NewestFirst ns (filled ns) _ nonceText := filledNewest since nonceText
  rw [← insertedNonces] at newest
  exact newest

theorem sessionKeysNewest {ks : List SessionKey} (since : ∀ k ∈ ks, 0 ≤ k.createdAt.seconds) :
    NewestFirst ks (ks.foldl insertSessionKey empty).sessionKeys (ks.foldl insertSessionKey empty).latestSessionKey
      sessionKeyText := by
  have newest : NewestFirst ks (filled ks) _ sessionKeyText := filledNewest since sessionKeyText
  rw [← insertedSessionKeys] at newest
  exact newest

/-- Nonces and session keys that the index tells apart do not replace each other, and each wallet is answered with the
newest of its own. Leap seconds aside, the index tells instants apart by what they are. -/
theorem indexNewestFirst {ns : List Nonce} {ks : List SessionKey} (since : ∀ n ∈ ns, 0 ≤ n.createdAt.seconds)
    (keysSince : ∀ k ∈ ks, 0 ≤ k.createdAt.seconds) :
    NewestFirst ns (ns.foldl insertNonce empty).nonces (ns.foldl insertNonce empty).latestNonce nonceText ∧
    NewestFirst ks (ks.foldl insertSessionKey empty).sessionKeys (ks.foldl insertSessionKey empty).latestSessionKey
      sessionKeyText ∧
    ∀ t u : Timestamp, t.Countable → u.Countable →
      (t.indexed = u.indexed ↔ t = u) ∧ (t.indexed < u.indexed ↔ ¬ u ≤ t) :=
  ⟨noncesNewest since, sessionKeysNewest keysSince, fun _ _ => Timestamp.indexedOrder⟩

def guest : Wallet := .ofAddress 1

def arrivals : List Nonce :=
  [⟨"b", ⟨5, 0⟩, "1", none, guest⟩, ⟨"a", ⟨5, 0⟩, "2", none, guest⟩, ⟨"c", ⟨4, 999999999⟩, "3", none, guest⟩,
    ⟨"0", ⟨9, 0⟩, "4", none, .ofAddress 2⟩]

def renewals : List SessionKey := [⟨"k", guest, "1", ⟨7, 0⟩⟩, ⟨"k", guest, "2", ⟨7, 0⟩⟩]

theorem indexNewestFirstOfArrivals :
    ((∀ n ∈ arrivals, 0 ≤ n.createdAt.seconds) ∧ ∀ k ∈ renewals, 0 ≤ k.createdAt.seconds) ∧
      (arrivals.foldl insertNonce empty).latestNonce guest = .ok ⟨"a", ⟨5, 0⟩, "2", none, guest⟩ ∧
      (arrivals.foldl insertNonce empty).latestNonce (.ofAddress 3) = .error (.absent (nonceText (.ofAddress 3))) ∧
      (renewals.foldl insertSessionKey empty).latestSessionKey guest = .ok ⟨"k", guest, "2", ⟨7, 0⟩⟩ := by
  have since : ∀ n ∈ arrivals, 0 ≤ n.createdAt.seconds := by decide
  have keysSince : ∀ k ∈ renewals, 0 ≤ k.createdAt.seconds := by decide
  obtain ⟨nonces, sessionKeys, _⟩ := indexNewestFirst since keysSince
  refine ⟨⟨since, keysSince⟩, (nonces.newest guest _).mpr ?_, (nonces.none (.ofAddress 3)).mpr ?_,
    (sessionKeys.newest guest _).mpr ?_⟩
  · decide +kernel
  · decide +kernel
  · decide +kernel

def newYear : Nonce := ⟨"a", ⟨1483228800, 0⟩, "N1", none, guest⟩

def leapSecond : Nonce := ⟨"a", ⟨1483228799, 1000000000⟩, "N2", none, guest⟩

theorem leapSecondReplaces :
    Rfc3339.read? "2017-01-01T00:00:00Z" = some newYear.createdAt ∧
      Rfc3339.read? "2016-12-31T23:59:60Z" = some leapSecond.createdAt ∧
      leapSecond.createdAt ≤ newYear.createdAt ∧ leapSecond.createdAt ≠ newYear.createdAt ∧
      ¬ Holds ([newYear, leapSecond].foldl insertNonce empty).nonces newYear ∧
      ([newYear, leapSecond].foldl insertNonce empty).latestNonce guest = .ok leapSecond := by
  have since : ∀ n ∈ [newYear, leapSecond], 0 ≤ n.createdAt.seconds := by decide
  have index := noncesNewest since
  refine ⟨?_, ?_, by decide, by decide, mt (index.kept newYear).mp ?_, (index.newest guest leapSecond).mpr ?_⟩
  · decide +kernel
  · decide +kernel
  · decide +kernel
  · decide +kernel

end Store
end HolderGate
