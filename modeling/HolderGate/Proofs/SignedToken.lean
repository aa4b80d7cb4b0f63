import HolderGate.Proofs.JsonForms
import HolderGate.Proofs.SessionCheck

/-! Session tokens, read back as they were signed. A token says what was signed, and no more, so the secret under
which it is checked alone decides whether its digest is good. -/
namespace HolderGate.Auth
open Identity Time Text Json

def Claims.Signable (c : Claims) : Prop := Whole c.issuedAt ∧ Whole c.expires

instance (c : Claims) : Decidable c.Signable := inferInstanceAs (Decidable (_ ∧ _))

variable {issuer : Issuer} {s : Store} {now : Timestamp} {c : Claims} {key : SessionKey} {secret : String}

theorem Claims.restores (signable : c.Signable) : Claims.codec.Restores c := by
  refine restoresMap rfl (Fields.codecRestores ?_ (by decide))
  exact ⟨Wallet.codecRestores c.wallet, restoresText c.issuer, restoresInteger signable.1, restoresInteger signable.2,
    trivial⟩

theorem Claims.unaddressed (c : Claims) : Claims.addressed? (Json.render c) = some false := by
  have apart : ∀ m ∈ Claims.fields.write (c.wallet, c.issuer, c.issuedAt, c.expires, ()),
      m.1 ∉ Claims.registered.names ∧ Skips m.2 := by
    intro m member
    simp only [Claims.fields, Fields.write, Field.required, Bool.false_eq_true, if_false, List.mem_cons,
      List.not_mem_nil, or_false] at member
    rcases member with rfl | rfl | rfl | rfl
    · exact ⟨show "address" ∉ _ by decide, fun rest _ => skipText c.wallet.text rest⟩
    · exact ⟨show "iss" ∉ _ by decide, fun rest _ => skipText c.issuer rest⟩
    · exact ⟨show "iat" ∉ _ by decide, fun _ ends => skipInteger c.issuedAt ends⟩
    · exact ⟨show "exp" ∉ _ by decide, fun _ ends => skipInteger c.expires ends⟩
  have read : Claims.registered.codec.read (Json.render c) = .ok ((none, none, none, ()), []) := by
    rw [← List.append_nil (Json.render c)]
    exact Fields.codecUnknown rfl apart []
  rw [Claims.addressed?, parseRead read]
  rfl

def Claims.signed (c : Claims) : Bytes :=
  utf8 (String.ofList (Base64Url.encode header ++ dot :: Base64Url.encode (Json.render c)))

theorem headerNames : algorithm? header = some digestName := by decide

theorem presentedSigned (issuer : Issuer) (secret : String) (signable : c.Signable) :
    Presented.ofText? (issuer.sign secret c) =
      some ⟨digestName, c, Json.render c, c.signed, Base64Url.encode (issuer.mac (utf8 secret) c.signed)⟩ := by
  refine presentedIff.mpr ⟨Base64Url.encode header, Base64Url.encode (Json.render c), ?_, ?_⟩
  · refine splitThree.mpr ⟨?_, Base64Url.encodeApart _, Base64Url.encodeApart _, Base64Url.encodeApart _⟩
    simp [Issuer.sign, Claims.signed]
  · exact ⟨⟨header, Base64Url.decodeEncode _, headerNames⟩, Base64Url.decodeEncode _,
      readRender (Claims.restores signable), rfl⟩

theorem verifyOther (signable : c.Signable) (latest : s.latestSessionKey c.wallet = .ok key)
    (differ : issuer.mac (utf8 key.secret) c.signed ≠ issuer.mac (utf8 secret) c.signed) :
    issuer.verify s now (issuer.sign secret c) = .error .badSignature := by
  have presented := presentedSigned issuer secret signable
  have digest : issuer.authentic key.secret
      ⟨digestName, c, Json.render c, c.signed, Base64Url.encode (issuer.mac (utf8 secret) c.signed)⟩ =
        .error .badSignature := by
    simp only [Issuer.authentic, Base64Url.decodeEncode, if_neg differ]
  unfold Issuer.verify
  simp only [presented, keyOfOk.mpr latest, digest, bind, Except.bind, ne_eq, not_true_eq_false, if_false]

theorem currentSigned (issuer : Issuer) (now : Timestamp) (c : Claims) (signed : Bytes) (signature : List Char) :
    issuer.current now ⟨digestName, c, Json.render c, signed, signature⟩ =
      if c.expires < 0 then .error .malformedToken
      else if c.expires < now.seconds - leeway then .error .expired
      else if c.issuer = issuer.name then .ok () else .error .wrongIssuer := by
  simp only [Issuer.current, Claims.unaddressed, Bool.false_eq_true, if_false, ne_eq, ite_not]

theorem verifySealed (signable : c.Signable) (latest : s.latestSessionKey c.wallet = .ok key)
    (holder : key.wallet = c.wallet) (name : String) (lifetime : Int) :
    Issuer.verify { issuer with name, lifetime } s now (issuer.sign key.secret c) =
      if c.expires < 0 then .error .malformedToken
      else if c.expires < now.seconds - leeway then .error .expired
      else if c.issuer = name then .ok c.wallet else .error .wrongIssuer := by
  have digest : ∀ signed, Issuer.authentic { issuer with name, lifetime } key.secret
      ⟨digestName, c, Json.render c, signed, Base64Url.encode (issuer.mac (utf8 key.secret) signed)⟩ = .ok () :=
    fun _ => authenticOk.mpr rfl
  simp only [Issuer.verify, presentedSigned issuer key.secret signable, keyOfOk.mpr latest, digest, currentSigned,
    holder, bind, Except.bind, ne_eq, not_true_eq_false, if_false, if_true]
  split_ifs <;> rfl

theorem verifyOwn (signable : c.Signable) (latest : s.latestSessionKey c.wallet = .ok key)
    (holder : key.wallet = c.wallet) (own : c.issuer = issuer.name) :
    issuer.verify s now (issuer.sign key.secret c) = .ok c.wallet ↔
      0 ≤ c.expires ∧ now.seconds - leeway ≤ c.expires := by
  rw [verifySealed signable latest holder issuer.name issuer.lifetime, if_pos own]
  split_ifs with negative late
  · exact iff_of_false (by simp) fun standing => Int.not_lt.mpr standing.1 negative
  · exact iff_of_false (by simp) fun standing => Int.not_lt.mpr standing.2 late
  · exact iff_of_true rfl ⟨Int.not_lt.mp negative, Int.not_lt.mp late⟩

end HolderGate.Auth
