import HolderGate.Auth.Session
import HolderGate.Proofs.Except
import HolderGate.Proofs.SegmentText

/-! What it takes for a session token to be let through. Its text is three segments, which say what they have to
say, and the last of them is the digest of the others under the latest secret of the wallet that they name. -/
namespace HolderGate.Auth
open Identity Time Text

structure Presented.Of (t : Presented) (head body : List Char) : Prop where
  algorithm : ∃ octets, Base64Url.decode? head = some octets ∧ algorithm? octets = some t.algorithm
  payload : Base64Url.decode? body = some t.payload
  claims : (Json.read t.payload : Except Json.Fault Claims) = .ok t.claims
  signed : t.signed = utf8 (String.ofList (head ++ dot :: body))

variable {token : String} {t : Presented} {issuer : Issuer} {s : Store} {now : Timestamp} {w : Wallet}
  {key : SessionKey}

theorem presentedIff : Presented.ofText? token = some t ↔
    ∃ head body, split dot token.toList = [head, body, t.signature] ∧ t.Of head body := by
  unfold Presented.ofText?
  constructor
  · intro found
    split at found
    next head body signature parts =>
      simp only [Option.bind_eq_bind, Option.bind_eq_some_iff] at found
      obtain ⟨octets, decoded, named, names, payload, read, claims, parsed, same⟩ := found
      cases same
      exact ⟨head, body, parts, ⟨octets, decoded, names⟩, read, toOptionSome.mp parsed, rfl⟩
    next => contradiction
  · rintro ⟨head, body, parts, ⟨octets, decoded, names⟩, read, parsed, signed⟩
    simp only [parts, decoded, names, read, toOptionSome.mpr parsed, ← signed, Option.bind_eq_bind,
      Option.bind_some]

theorem keyOfOk : Issuer.keyOf s w = .ok key ↔ s.latestSessionKey w = .ok key := by
  unfold Issuer.keyOf
  cases s.latestSessionKey w with
  | ok found => simp
  | error e => cases e <;> simp

theorem authenticOk {secret : String} : issuer.authentic secret t = .ok () ↔
    t.signature = Base64Url.encode (issuer.mac (utf8 secret) t.signed) := by
  rw [← Base64Url.decodeIff]
  unfold Issuer.authentic
  cases Base64Url.decode? t.signature with
  | none => simp
  | some digest =>
    simp only [Option.some.injEq, eq_comm (a := digest)]
    split
    next same => simp [same]
    next differ => simp [differ]

theorem verifyOk : issuer.verify s now token = .ok w ↔
    ∃ t key, Presented.ofText? token = some t ∧ t.claims.wallet = w ∧ s.latestSessionKey w = .ok key ∧
      t.algorithm = digestName ∧ issuer.authentic key.secret t = .ok () ∧ issuer.current now t = .ok () ∧
      key.wallet = w := by
  unfold Issuer.verify
  constructor
  · intro passed
    split at passed
    next => contradiction
    next t presented =>
      obtain ⟨key, latest, passed⟩ := exceptBindOk.mp passed
      split at passed
      next => contradiction
      next named =>
        obtain ⟨_, digest, passed⟩ := exceptBindOk.mp passed
        obtain ⟨_, claims, passed⟩ := exceptBindOk.mp passed
        split at passed
        next own =>
          cases passed
          exact ⟨t, key, presented, rfl, keyOfOk.mp latest, Decidable.not_not.mp named, digest, claims, own.symm⟩
        next => contradiction
  · rintro ⟨t, key, presented, rfl, latest, named, digest, claims, own⟩
    simp only [presented, keyOfOk.mpr latest, named, digest, claims, own, bind, Except.bind, ne_eq,
      not_true_eq_false, if_false, if_true]

def purseOne : Wallet := .ofAddress 0x0101010101010101010101010101010101010101

def galleryKey : SessionKey := ⟨"a", purseOne, "k", ⟨100, 0⟩⟩

end HolderGate.Auth
