import HolderGate.Proofs.SessionHistory
import HolderGate.Proofs.SignedToken

/-! What a new session does to those before it. Its key ends them where the index puts it before all keys of the
wallet, which it does by the clock and then by identifier, and otherwise changes nothing but to be there. -/
namespace HolderGate
open Identity Newest

namespace Auth

variable {issuer : Issuer} {s : Store} {draw : Draw} {w : Wallet} {key : SessionKey}

theorem aheadLatest (filed : Filed s.sessionKeys) (ahead : ¬ Outdone s.sessionKeys key) :
    (s.insertSessionKey key).latestSessionKey key.wallet = .ok key :=
  Store.foundOk.mpr (firstAhead filed ahead)

theorem aheadCounts (filed : Filed s.sessionKeys) (signable : (issuer.claims w draw.now).Signable)
    (lasting : 0 < issuer.lifetime) (ahead : ¬ Outdone s.sessionKeys (Gated.sessionKey draw w)) :
    issuer.verify (issuer.issue draw w s).2 draw.now (issuer.issue draw w s).1 = .ok w ↔
      0 ≤ draw.now.seconds + issuer.lifetime := by
  have unexpired : draw.now.seconds - leeway ≤ draw.now.seconds + issuer.lifetime := by
    simp only [leeway]
    omega
  exact (verifyOwn signable (aheadLatest filed ahead) rfl rfl).trans (and_iff_left unexpired)

theorem behindSame (filed : Filed s.sessionKeys) (behind : Outdone s.sessionKeys key) (issuer : Issuer)
    (now : Time.Timestamp) (token : String) :
    issuer.verify (s.insertSessionKey key) now token = issuer.verify s now token := by
  have kept : ∀ w, Issuer.keyOf (s.insertSessionKey key) w = Issuer.keyOf s w := by
    intro w
    have same : first (s.insertSessionKey key).sessionKeys w = first s.sessionKeys w :=
      firstBehind filed behind w
    simp only [Issuer.keyOf, Store.latestSessionKey, same]
  unfold Issuer.verify
  simp only [kept]

theorem behindRefused (filed : Filed s.sessionKeys) (signable : (issuer.claims w draw.now).Signable)
    (apart : ∀ other, Holds s.sessionKeys other → other.wallet = w →
      issuer.mac (utf8 other.secret) (issuer.claims w draw.now).signed ≠
        issuer.mac (utf8 (Gated.sessionKey draw w).secret) (issuer.claims w draw.now).signed)
    (behind : Outdone s.sessionKeys (Gated.sessionKey draw w)) (now : Time.Timestamp) :
    issuer.verify (issuer.issue draw w s).2 now (issuer.issue draw w s).1 = .error .badSignature := by
  refine (behindSame filed behind issuer now _).trans ?_
  obtain ⟨other, held, same, _⟩ := behind
  obtain ⟨document, found⟩ := firstPresent held
  obtain ⟨latest, rfl, own, among, _⟩ := (firstSome filed).mp found
  have current : s.latestSessionKey w = .ok latest := Store.foundOk.mpr ((congrArg _ same).symm.trans found)
  exact verifyOther signable current (apart latest among (own.trans same))

theorem signSame {earlier : Issuer} (same : earlier.mac = issuer.mac) (secret : String) (c : Claims) :
    earlier.sign secret c = issuer.sign secret c := by
  simp only [Issuer.sign, same]

end Auth

namespace Service
open Auth

variable {svc : Service} {calls : List Call} {key : SessionKey} {issuer : Issuer} {draw : Draw} {w : Wallet}
  {token : String} {later : Store}

/-- Of a later instant than every session of its wallet that was answered, or of the same one with a lesser
identifier. Instants that the index does not tell apart are the same. -/
def Supersedes (svc : Service) (calls : List Call) (key : SessionKey) : Prop :=
  ∀ issuer other, Answered svc calls issuer other → other.wallet = key.wallet →
    key.createdAt.recency < other.createdAt.recency ∨
      (key.createdAt.recency = other.createdAt.recency ∧ compare (utf8 key.id) (utf8 other.id) = .lt)

theorem filingSupersedes {other : SessionKey} (same : other.wallet = key.wallet) :
    compare (filing key) (filing other) = .lt ↔ key.createdAt.recency < other.createdAt.recency ∨
      (key.createdAt.recency = other.createdAt.recency ∧ compare (utf8 key.id) (utf8 other.id) = .lt) := by
  rw [compareFiling same.symm, Ordering.then_eq_lt, Nat.compare_eq_lt, Nat.compare_eq_eq]
  rfl

theorem supersedesAhead (held : ∀ other, Holds (after svc calls).store.sessionKeys other ↔
      ∃ issuer, Answered svc calls issuer other)
    (fresh : ∀ other, Holds (after svc calls).store.sessionKeys other → other.id ≠ key.id) :
    Supersedes svc calls key ↔ ¬ Outdone (after svc calls).store.sessionKeys key := by
  constructor
  · rintro supersedes ⟨other, present, same, before⟩
    obtain ⟨issuer, answered⟩ := (held other).mp present
    have behind := (filingSupersedes same).mpr (supersedes issuer other answered same)
    simpa using Std.TransCmp.lt_trans before behind
  · intro ahead issuer other answered same
    have present := (held other).mpr ⟨issuer, answered⟩
    rw [← filingSupersedes same]
    cases order : compare (filing key) (filing other) with
    | lt => rfl
    | eq => exact absurd (keyInjective (Std.LawfulEqCmp.eq_of_compare order)).2.2.symm (fresh other present)
    | gt => exact absurd ⟨other, present, same, Std.OrientedCmp.gt_iff_lt.mp order⟩ ahead

/-- A new session counts at once, and ends those of its wallet that were answered before, if it supersedes them.
If not, it never counts, and all others count as before. Tokens are told apart by their digests, so the digests of
one text under two secrets have to differ. -/
theorem issueEndsEarlier (empty : svc.store = .empty) (users : (made svc calls).Nodup)
    (single : (draw.id :: (keys calls).map SessionKey.id).Nodup)
    (issued : issuer.issue draw w (after svc calls).store = (token, later))
    (signable : (issuer.claims w draw.now).Signable) (lasting : 0 < issuer.lifetime)
    (apart : ∀ earlier other, Answered svc calls earlier other → other.wallet = w →
      issuer.mac (utf8 other.secret) (issuer.claims w draw.now).signed ≠
        issuer.mac (utf8 (Gated.sessionKey draw w).secret) (issuer.claims w draw.now).signed) :
    (issuer.verify later draw.now token = .ok w ↔
      Supersedes svc calls (Gated.sessionKey draw w) ∧ 0 ≤ draw.now.seconds + issuer.lifetime) ∧
    (Supersedes svc calls (Gated.sessionKey draw w) →
      ∀ earlier other, Answered svc calls earlier other → other.wallet = w → earlier.mac = issuer.mac →
        (earlier.claims w other.createdAt).Signable →
        issuer.mac (utf8 (Gated.sessionKey draw w).secret) (earlier.claims w other.createdAt).signed ≠
          issuer.mac (utf8 other.secret) (earlier.claims w other.createdAt).signed →
        ∀ now, issuer.verify later now (Gated.tokenUnder earlier other) = .error .badSignature) ∧
    (¬ Supersedes svc calls (Gated.sessionKey draw w) →
      ∀ now, issuer.verify later now token = .error .badSignature ∧
        ∀ other, issuer.verify later now other = issuer.verify (after svc calls).store now other) := by
  obtain ⟨unused, single⟩ := List.nodup_cons.mp single
  obtain ⟨rfl, rfl⟩ := Prod.mk.inj issued
  have filed : Filed (after svc calls).store.sessionKeys := (readyEmpty empty users).whole.1.mirrored.keysFiled
  have held : ∀ other, Holds (after svc calls).store.sessionKeys other ↔ ∃ issuer, Answered svc calls issuer other :=
    fun other => heldAnswered empty users single
  have fresh : ∀ other, Holds (after svc calls).store.sessionKeys other → other.id ≠ draw.id := by
    intro other present equal
    obtain ⟨earlier, answered⟩ := (held other).mp present
    exact unused (equal ▸ List.mem_map_of_mem (answeredOffered answered))
  have supersedes : Supersedes svc calls (Gated.sessionKey draw w) ↔
      ¬ Outdone (after svc calls).store.sessionKeys (Gated.sessionKey draw w) := supersedesAhead held fresh
  have late : ¬ Supersedes svc calls (Gated.sessionKey draw w) →
      Outdone (after svc calls).store.sessionKeys (Gated.sessionKey draw w) := fun unmet =>
    Classical.not_not.mp fun ahead => unmet (supersedes.mpr ahead)
  have differ : ∀ other, Holds (after svc calls).store.sessionKeys other → other.wallet = w →
      issuer.mac (utf8 other.secret) (issuer.claims w draw.now).signed ≠
        issuer.mac (utf8 (Gated.sessionKey draw w).secret) (issuer.claims w draw.now).signed := by
    intro other present own
    obtain ⟨earlier, answered⟩ := (held other).mp present
    exact apart earlier other answered own
  have refused := fun unmet => behindRefused filed signable differ (late unmet)
  refine ⟨⟨?first, ?counts⟩, ?ends, fun unmet now =>
    ⟨refused unmet now, behindSame filed (late unmet) issuer now⟩⟩
  case first =>
    intro passed
    have first : Supersedes svc calls (Gated.sessionKey draw w) := Classical.byContradiction fun unmet =>
      absurd ((refused unmet draw.now).symm.trans passed) (by simp)
    exact ⟨first, (aheadCounts filed signable lasting (supersedes.mp first)).mp passed⟩
  case counts =>
    rintro ⟨first, counted⟩
    exact (aheadCounts filed signable lasting (supersedes.mp first)).mpr counted
  case ends =>
    rintro first earlier other answered rfl mac each sealed now
    rw [Gated.tokenUnder, signSame mac]
    exact verifyOther each (aheadLatest filed (supersedes.mp first)) sealed

def gallery : Service := { trusting with issuer := .standard "gallery" 3600 }

def drawn (name : String) (nanos : Nat) (octet : UInt8) : Draw := ⟨name, ⟨100, nanos⟩, [octet]⟩

def visit : List Call :=
  [.preflight (still "a" 5) zeroWallet, .gated (fun _ => drawn "b" 500 1) .unknown (.create stamp)]

def visitKey : SessionKey := Gated.sessionKey (drawn "b" 500 1) zeroWallet

def visitClaims : Claims := gallery.issuer.claims zeroWallet ⟨100, 500⟩

def revisit (nanos : Nat) : String × Store :=
  gallery.issuer.issue (drawn "c" nanos 2) zeroWallet (after gallery visit).store

def revisitKey (nanos : Nat) : SessionKey := Gated.sessionKey (drawn "c" nanos 2) zeroWallet

theorem visitReady : Ready gallery visit := readyEmpty rfl (by decide +kernel)

theorem visitAnswered : Answered gallery visit gallery.issuer visitKey := by
  have first : Ready gallery (visit.take 1 ++ visit.drop 1) := visitReady
  obtain ⟨asked, _⟩ := first.run
  rcases gatedKeys (asked.mirrored.indexed asked.nonces) (.create stamp) (fun _ => drawn "b" 500 1) .unknown with
    ⟨same, _⟩ | ⟨key, user, has, _, answer⟩
  · have added : ((Gated.create stamp).run (after gallery (visit.take 1)) (fun _ => drawn "b" 500 1)
        .unknown).2.store.sessionKeys ≠ (after gallery (visit.take 1)).store.sessionKeys := by
      decide +kernel
    exact absurd same added
  · cases has
    have own : (after gallery (visit.take 1)).issuer = gallery.issuer := rfl
    rw [own] at answer
    exact ⟨visit.take 1, _, _, _, [], user, rfl, own, rfl, answer⟩

theorem visitOnly {other : SessionKey} (answered : Answered gallery visit issuer other) : other = visitKey :=
  List.mem_singleton.mp (answeredOffered answered)

theorem visitSigned : visitClaims.Signable := by decide

theorem visitSealed (nanos : Nat) : gallery.issuer.mac (utf8 visitKey.secret) visitClaims.signed ≠
    gallery.issuer.mac (utf8 (revisitKey nanos).secret) visitClaims.signed := by
  show Crypto.Sha256.mac (utf8 visitKey.secret) visitClaims.signed ≠
    Crypto.Sha256.mac (utf8 (revisitKey 0).secret) visitClaims.signed
  decide +kernel

theorem issueEndsEarlierOfVisit :
    (made gallery visit).Nodup ∧ ("c" :: (keys visit).map SessionKey.id).Nodup ∧ visitClaims.Signable ∧
      Answered gallery visit gallery.issuer visitKey ∧ Supersedes gallery visit (revisitKey 600) ∧
      gallery.issuer.verify (revisit 600).2 ⟨100, 600⟩ (revisit 600).1 = .ok zeroWallet ∧
      ∀ now, gallery.issuer.verify (revisit 600).2 now (Gated.tokenUnder gallery.issuer visitKey) =
        .error .badSignature := by
  have supersedes : Supersedes gallery visit (revisitKey 600) := by
    intro issuer other answered _
    cases visitOnly answered
    exact .inl (by decide)
  have single : ("c" :: (keys visit).map SessionKey.id).Nodup := by decide
  have issued : gallery.issuer.issue (drawn "c" 600 2) zeroWallet (after gallery visit).store =
      ((revisit 600).1, (revisit 600).2) := rfl
  have lasting : 0 < gallery.issuer.lifetime := by decide
  have apart : ∀ earlier other, Answered gallery visit earlier other → other.wallet = zeroWallet →
      gallery.issuer.mac (utf8 other.secret) visitClaims.signed ≠
        gallery.issuer.mac (utf8 (revisitKey 600).secret) visitClaims.signed := by
    intro earlier other answered _
    cases visitOnly answered
    exact visitSealed 600
  obtain ⟨counts, ends, _⟩ := issueEndsEarlier rfl visitReady.distinct single issued visitSigned lasting apart
  refine ⟨visitReady.distinct, single, visitSigned, visitAnswered, supersedes, ?_, ?_⟩
  · exact counts.mpr ⟨supersedes, by decide⟩
  · exact ends supersedes gallery.issuer visitKey visitAnswered rfl rfl visitSigned (visitSealed 600).symm

theorem steppedBackClockSparesEarlier :
    Answered gallery visit gallery.issuer visitKey ∧
      (∀ now, gallery.issuer.verify (revisit 400).2 now (revisit 400).1 = .error .badSignature) ∧
      gallery.issuer.verify (revisit 400).2 ⟨100, 400⟩ (Gated.tokenUnder gallery.issuer visitKey) =
        .ok zeroWallet := by
  have latest : (revisit 400).2.latestSessionKey zeroWallet = .ok visitKey := by
    refine toOptionSome.mp ?_
    decide +kernel
  refine ⟨visitAnswered, fun now => verifyOther visitSigned latest (visitSealed 400), ?_⟩
  exact (verifyOwn visitSigned latest rfl rfl).mpr (by decide)

end Service
end HolderGate
