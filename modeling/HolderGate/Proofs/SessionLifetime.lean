import HolderGate.Proofs.GatedOperation
import HolderGate.Proofs.SignedToken

/-! How long a session lasts. While its key is the latest of the wallet, a token is let through until a minute after
it expires, wherever the issuer has the name that it was issued under, and from then on it is told to be expired. -/
namespace HolderGate.Auth
open Identity Time

variable {issuer : Issuer} {s before stored : Store} {draw : Draw} {w : Wallet} {token : String}

/-- A token is let through, under the name of its issuer, exactly until a minute after it expires. -/
theorem sessionLasts (issued : issuer.issue draw w before = (token, stored)) (reading : Json.Whole draw.now.seconds)
    (begins : 0 ≤ draw.now.seconds + issuer.lifetime)
    (ends : draw.now.seconds + issuer.lifetime ≤ 0x7FFFFFFFFFFFFFFF)
    (newest : s.latestSessionKey w = .ok (Gated.sessionKey draw w)) (name : String) (lifetime : Int)
    (now : Timestamp) :
    Issuer.verify { issuer with name, lifetime } s now token =
      if now.seconds - 60 ≤ draw.now.seconds + issuer.lifetime then
        if name = issuer.name then .ok w else .error .wrongIssuer
      else .error .expired := by
  obtain ⟨rfl, _⟩ := Prod.mk.inj issued
  have signable : (issuer.claims w draw.now).Signable := ⟨reading, by simp only [Issuer.claims, Json.Whole]; omega⟩
  refine (verifySealed signable newest rfl name lifetime).trans ?_
  have expiry : (issuer.claims w draw.now).expires = draw.now.seconds + issuer.lifetime := rfl
  have named : (issuer.claims w draw.now).issuer = issuer.name := rfl
  rw [expiry, named, if_neg (Int.not_lt.mpr begins), leeway]
  by_cases fresh : now.seconds - 60 ≤ draw.now.seconds + issuer.lifetime
  · rw [if_pos fresh, if_neg (Int.not_lt.mpr fresh)]
    exact if_congr eq_comm rfl rfl
  · rw [if_neg fresh, if_pos (Int.not_le.mp fresh)]

def pier : Issuer := .standard "Café \"Pier\"\n" (-30)

def landing : Draw := ⟨"b", ⟨100, 500⟩, List.replicate 32 0xA5⟩

def landed : String × Store := pier.issue landing purseOne (Store.empty.insertSessionKey galleryKey)

theorem landedNewest : landed.2.latestSessionKey purseOne = .ok (Gated.sessionKey landing purseOne) := by
  refine toOptionSome.mp ?_
  decide

theorem sessionLastsOfPier :
    Json.Whole landing.now.seconds ∧ 0 ≤ landing.now.seconds + pier.lifetime ∧
      landing.now.seconds + pier.lifetime ≤ 0x7FFFFFFFFFFFFFFF ∧
      landed.2.latestSessionKey purseOne = .ok (Gated.sessionKey landing purseOne) ∧
      pier.verify landed.2 ⟨130, 999999999⟩ landed.1 = .ok purseOne ∧
      pier.verify landed.2 ⟨131, 0⟩ landed.1 = .error .expired ∧
      (Issuer.standard "Pier" 3600).verify landed.2 ⟨130, 0⟩ landed.1 = .error .wrongIssuer := by
  have issued : pier.issue landing purseOne (Store.empty.insertSessionKey galleryKey) = (landed.1, landed.2) := rfl
  have lasts := sessionLasts issued (by decide) (by decide) (by decide) landedNewest
  exact ⟨by decide, by decide, by decide, landedNewest, lasts pier.name pier.lifetime _, lasts pier.name pier.lifetime _,
    lasts "Pier" 3600 _⟩

end HolderGate.Auth
