import HolderGate.Proofs.FreshChallenge
import HolderGate.Proofs.IndexedDocuments
import HolderGate.Proofs.StoredDocument

/-! Consuming the live nonce of a wallet. Whatever the clock says, the replacement is of a later instant than the nonce
before it. It is the live one from then on, unless the nonce before it is of a leap second that the index takes for
later. -/
namespace HolderGate
open Identity Newest

namespace Time.Timestamp

def last : Timestamp := ⟨9223372036, 854775807⟩

def Indexable (t : Timestamp) : Prop := 0 ≤ t.seconds ∧ ¬ last ≤ t

instance (t : Timestamp) : Decidable t.Indexable := inferInstanceAs (Decidable (_ ∧ _))

variable {t own previous : Timestamp}

theorem nextAfter (t : Timestamp) : ¬ t.next ≤ t := by
  show ¬ Le _ _
  unfold next
  split
  · simp only [Le]
    omega
  · simp only [Le]
    omega

theorem laterAfter (own previous : Timestamp) : ¬ Store.later own previous ≤ previous := by
  unfold Store.later
  split
  next => exact nextAfter previous
  next after => exact after

theorem laterRange (h : own.Indexable) (k : previous.Indexable) :
    0 ≤ (Store.later own previous).seconds ∧ (Store.later own previous).seconds ≤ 9223372037 := by
  have bound : ∀ u : Timestamp, u.Indexable → 0 ≤ u.seconds ∧ u.seconds ≤ 9223372036 := by
    intro u indexable
    obtain ⟨since, before⟩ := indexable
    have before : ¬ Le last u := before
    simp only [Le, last] at before
    omega
  have first := bound own h
  have second := bound previous k
  unfold Store.later next
  split
  · split
    · simp only
      omega
    · simp only
      omega
  · omega

theorem indexedAfter (h : previous.Indexable) (ordinary : previous.nanos < 1000000000) (after : ¬ t ≤ previous) :
    previous.indexed < t.indexed := by
  obtain ⟨_, before⟩ := h
  have before : ¬ Le last previous := before
  have after : ¬ Le t previous := after
  simp only [Le, last] at before after
  simp only [indexed, count]
  omega

theorem rangeCivil (since : 0 ≤ t.seconds) (before : t.seconds ≤ 9223372037) (ordinary : t.nanos < 1000000000) :
    t.Civil := by
  -- 106752 days after 1970 it is 2262, so the year is found within two cycles of 400 years.
  have days : 0 ≤ t.seconds / 86400 ∧ t.seconds / 86400 ≤ 106752 := by omega
  have year : 0 ≤ (Date.ofDays (t.seconds / 86400)).year ∧ (Date.ofDays (t.seconds / 86400)).year ≤ 9999 := by
    generalize t.seconds / 86400 = n at days
    unfold Date.ofDays
    simp only
    split
    · simp only
      omega
    · simp only
      omega
  exact ⟨year.1, year.2, ordinary⟩

end Time.Timestamp

namespace Store
open Time

structure Replaced (s : Store) (live given n : Nonce) (rotated : Store) : Prop where
  same : n = { given with createdAt := n.createdAt }
  instant : n.createdAt = later given.createdAt live.createdAt
  after : ¬ n.createdAt ≤ live.createdAt
  frame : rotated = { s with nonces := rotated.nonces }
  kept : ∀ other, Holds rotated.nonces other ↔ other = n ∨ Holds s.nonces other
  first : rotated.latestNonce given.wallet = .ok n ↔ Leads n live
  second : ¬ Leads n live → rotated.latestNonce given.wallet = .ok live
  ordinary : live.createdAt.nanos < 1000000000 → rotated.latestNonce given.wallet = .ok n
  restored : n.createdAt.nanos < 1000000000 → (Json.read (Json.render n) : Except Json.Fault Nonce) = .ok n

variable {s : Store} {n live next : Nonce}

theorem supersedesLeads (since : 0 ≤ n.createdAt.seconds) (before : 0 ≤ live.createdAt.seconds)
    (found : s.liveNonce n.wallet = .ok (some live)) : s.Supersedes n ↔ Leads n live := by
  have leads : Leads n live ↔ n.createdAt.recency < live.createdAt.recency ∨
      (n.createdAt.recency = live.createdAt.recency ∧ (compare (utf8 n.id) (utf8 live.id)).isLE) :=
    leadsRecency since before
  rw [leads]
  constructor
  · exact fun supersedes => supersedes live found
  · intro ahead other current
    cases found.symm.trans current
    exact ahead

theorem replacedLive (filed : Filed s.nonces) (instants : ∀ n, Holds s.nonces n → n.createdAt.Indexable)
    (instant : next.createdAt.Indexable) (fresh : ∀ n, Holds s.nonces n → n.id ≠ next.id)
    (found : s.liveNonce next.wallet = .ok (some live)) :
    Replaced s live next { next with createdAt := later next.createdAt live.createdAt }
      (s.insertNonce { next with createdAt := later next.createdAt live.createdAt }) := by
  obtain ⟨_, held, _⟩ := (liveSome filed).mp found
  obtain ⟨since, before⟩ := Timestamp.laterRange instant (instants live held)
  have after := Timestamp.laterAfter next.createdAt live.createdAt
  -- Under a name, what is kept stands in the goals as one nonce, of the wallet and the identifier that were given.
  obtain ⟨n, made⟩ : ∃ n, n = { next with createdAt := later next.createdAt live.createdAt } := ⟨_, rfl⟩
  have own : n.wallet = next.wallet := by rw [made]
  have moved : n.createdAt = later next.createdAt live.createdAt := by rw [made]
  have named : n.id = next.id := by rw [made]
  rw [← made]
  rw [← moved] at since before after
  have leads : s.Supersedes n ↔ Leads n live := supersedesLeads since (instants live held).1 (own ▸ found)
  have latest : (s.insertNonce n).latestNonce next.wallet = .ok n ↔ Leads n live := by
    rw [← leads, ← own]
    exact insertedLatest filed
  exact {
    same := by rw [moved, made]
    instant := moved
    after := after
    frame := rfl
    kept := by
      intro other
      rw [insertNonceTable, holdsPut]
      refine or_congr_right (and_iff_right_of_imp fun held taken => ?_)
      exact fresh other held ((keyInjective taken).2.2.trans named)
    first := latest
    second := by
      intro behind
      rw [supersededLatest filed (mt leads.mp behind)]
      exact (latestLive filed).mpr found
    ordinary := fun plain => latest.mpr (.inl (Timestamp.indexedAfter (instants live held) plain after))
    restored := fun plain => Json.readRender (Nonce.restores (Timestamp.rangeCivil since before plain)) }

/-- A nonce is consumed exactly where it is live. What comes back then is the replacement that is kept, of a later
instant and beside all that is there, and it is the live one wherever the index can put it first. -/
theorem consumedReplaced (filed : Filed s.nonces) (instants : ∀ n, Holds s.nonces n → n.createdAt.Indexable)
    (instant : next.createdAt.Indexable) (fresh : ∀ n, Holds s.nonces n → n.id ≠ next.id) (expected : String) :
    ((∃ n rotated, s.consumeNonce expected next = .ok (some n, rotated)) ↔
      ∃ live, s.latestNonce next.wallet = .ok live ∧ live.value = expected) ∧
    (∀ n rotated, s.consumeNonce expected next = .ok (some n, rotated) →
      ∃ live, s.latestNonce next.wallet = .ok live ∧ live.value = expected ∧ Replaced s live next n rotated) ∧
    ((¬ ∃ live, s.latestNonce next.wallet = .ok live ∧ live.value = expected) →
      s.consumeNonce expected next = .ok (none, s)) := by
  obtain ⟨live, found, same, ran⟩ | ⟨others, ran⟩ := consumeCases filed expected next
  · have current : s.latestNonce next.wallet = .ok live := (latestLive filed).mpr found
    refine ⟨⟨fun _ => ⟨live, current, same⟩, fun _ => ⟨_, _, ran⟩⟩, ?_, fun unmet => absurd ⟨live, current, same⟩ unmet⟩
    intro n rotated answered
    cases ran.symm.trans answered
    exact ⟨live, current, same, replacedLive filed instants instant fresh found⟩
  · have unmet : ¬ ∃ live, s.latestNonce next.wallet = .ok live ∧ live.value = expected := by
      intro met
      obtain ⟨live, current, same⟩ := met
      exact others live ((latestLive filed).mp current) same
    have refused : ∀ n rotated, s.consumeNonce expected next ≠ .ok (some n, rotated) := by
      intro n rotated answered
      cases ran.symm.trans answered
    exact ⟨⟨fun ⟨n, rotated, answered⟩ => absurd answered (refused n rotated), fun met => absurd met unmet⟩,
      fun n rotated answered => absurd answered (refused n rotated), fun _ => ran⟩

theorem holdsAlone (n other : Nonce) : Holds (empty.insertNonce n).nonces other ↔ other = n := by
  rw [insertNonceTable, holdsPut]
  simp [Holds, empty]

theorem liveAlone (n : Nonce) : (empty.insertNonce n).liveNonce n.wallet = .ok (some n) := by
  refine (liveSome (filedPut filedEmpty n)).mpr ⟨rfl, holdsNew n, fun outdone => ?_⟩
  obtain ⟨other, held, _, before⟩ := outdone
  cases (holdsAlone n other).mp held
  simp at before

def issuedNonce : Nonce := ⟨"a", ⟨5, 999999999⟩, "N1", none, guest⟩

def nextNonce : Nonce := ⟨"b", ⟨3, 0⟩, "N2", none, guest⟩

theorem consumedReplacedSteppedBack :
    (Filed (empty.insertNonce issuedNonce).nonces ∧
      (∀ n, Holds (empty.insertNonce issuedNonce).nonces n → n.createdAt.Indexable) ∧
      nextNonce.createdAt.Indexable ∧ ∀ n, Holds (empty.insertNonce issuedNonce).nonces n → n.id ≠ nextNonce.id) ∧
      ∃ rotated, (empty.insertNonce issuedNonce).consumeNonce "N1" nextNonce =
          .ok (some { nextNonce with createdAt := ⟨6, 0⟩ }, rotated) ∧
        rotated.latestNonce guest = .ok { nextNonce with createdAt := ⟨6, 0⟩ } ∧ Holds rotated.nonces issuedNonce := by
  have filed : Filed (empty.insertNonce issuedNonce).nonces := filedPut filedEmpty issuedNonce
  have instants : ∀ n, Holds (empty.insertNonce issuedNonce).nonces n → n.createdAt.Indexable := by
    intro n held
    cases (holdsAlone issuedNonce n).mp held
    decide
  have fresh : ∀ n, Holds (empty.insertNonce issuedNonce).nonces n → n.id ≠ nextNonce.id := by
    intro n held
    cases (holdsAlone issuedNonce n).mp held
    decide
  have instant : nextNonce.createdAt.Indexable := by decide
  have current : (empty.insertNonce issuedNonce).latestNonce guest = .ok issuedNonce :=
    (latestLive filed).mpr (liveAlone issuedNonce)
  obtain ⟨rotates, consumed, _⟩ := consumedReplaced filed instants instant fresh "N1"
  obtain ⟨n, rotated, answered⟩ := rotates.mpr ⟨issuedNonce, current, rfl⟩
  obtain ⟨live, found, _, replaced⟩ := consumed n rotated answered
  cases current.symm.trans found
  have moved : n = { nextNonce with createdAt := ⟨6, 0⟩ } := by
    rw [replaced.same, replaced.instant]
    decide
  have kept := (replaced.kept issuedNonce).mpr (.inr ((holdsAlone issuedNonce issuedNonce).mpr rfl))
  refine ⟨⟨filed, instants, instant, fresh⟩, rotated, moved ▸ answered, moved ▸ replaced.ordinary (by decide), kept⟩

def leapNonce : Nonce := ⟨"a", ⟨1483228799, 1500000000⟩, "N1", none, guest⟩

def newYearNonce : Nonce := ⟨"b", ⟨1483228800, 250000000⟩, "N2", none, guest⟩

theorem leapSecondStaysLive :
    Rfc3339.read? "2016-12-31T23:59:60.5Z" = some leapNonce.createdAt ∧
      Rfc3339.read? "2017-01-01T00:00:00.25Z" = some newYearNonce.createdAt ∧
      leapNonce.createdAt.Indexable ∧ newYearNonce.createdAt.Indexable ∧ ¬ newYearNonce.createdAt ≤ leapNonce.createdAt ∧
      (∀ n, Holds (empty.insertNonce leapNonce).nonces n → n = leapNonce) ∧
      (empty.insertNonce leapNonce).consumeNonce "N1" newYearNonce =
        .ok (some newYearNonce, (empty.insertNonce leapNonce).insertNonce newYearNonce) ∧
      ((empty.insertNonce leapNonce).insertNonce newYearNonce).latestNonce guest = .ok leapNonce := by
  have filed : Filed (empty.insertNonce leapNonce).nonces := filedPut filedEmpty leapNonce
  have alone : ∀ n, Holds (empty.insertNonce leapNonce).nonces n → n = leapNonce := fun n => (holdsAlone leapNonce n).mp
  have found : (empty.insertNonce leapNonce).liveNonce newYearNonce.wallet = .ok (some leapNonce) := liveAlone leapNonce
  have replaced := replacedLive filed (fun n held => alone n held ▸ (by decide)) (by decide)
    (fun n held => alone n held ▸ (by decide)) found
  refine ⟨?_, ?_, by decide, by decide, by decide, alone, ?_, replaced.second (by decide +kernel)⟩
  · decide +kernel
  · decide +kernel
  · obtain ⟨live, current, _, ran⟩ | ⟨others, _⟩ := consumeCases filed "N1" newYearNonce
    · cases found.symm.trans current
      exact ran
    · exact absurd rfl (others leapNonce found)

end Store
end HolderGate
