import Mathlib.Data.List.Nodup
import Mathlib.Data.Set.List
import HolderGate.Access.Holdings
import HolderGate.Access.Notification
import HolderGate.Proofs.JsonForms
import HolderGate.Proofs.SortedMap

/-! Documents as they are kept: what is read of a written document is the document. Holdings are written with the texts
of tokens as names, one member for each token, so none of them is lost to another. -/
namespace HolderGate

namespace Json

theorem quotesText (s : String) : Codec.string.Quotes s := ⟨s, rfl⟩

theorem restoresOptionalText (v : Option String) : Codec.string.optional.Restores v :=
  restoresOptional fun w _ => ⟨quotesText w, restoresText w⟩

end Json

namespace Identity
open Json

theorem Wallet.codecQuotes (w : Wallet) : codec.Quotes w := ⟨w.text, rfl⟩

theorem headerTableRestores (m : HeaderTable) : headerTableCodec.Restores m :=
  restoresMap (SortedMap.ofListEntries m) (restoresTable fun e _ => restoresText e.2)

theorem User.restores {u : User} (created : u.createdAt.Civil) (updated : u.updatedAt.Civil) : codec.Restores u := by
  refine restoresMap rfl (Fields.codecRestores ?_ (by decide))
  exact ⟨restoresText u.id, restoresOptionalText u.username, restoresOptionalText u.bio,
    restoresArray fun w _ => ⟨w.codecQuotes, w.codecRestores⟩, timestampRestores created, timestampRestores updated,
    trivial⟩

theorem Nonce.restores {n : Nonce} (created : n.createdAt.Civil) : codec.Restores n := by
  refine restoresMap rfl (Fields.codecRestores ?_ (by decide))
  exact ⟨restoresText n.id, timestampRestores created, restoresText n.value, restoresOptionalText n.user,
    n.wallet.codecRestores, trivial⟩

theorem Attempt.restores {a : Attempt} (created : a.createdAt.Civil) : codec.Restores a := by
  refine restoresMap rfl (Fields.codecRestores ?_ (by decide))
  exact ⟨restoresText a.id, a.wallet.codecRestores, restoresText a.signature, restoresText a.nonceValue,
    restoresBoolean a.userExists, restoresBoolean a.signatureValid, restoresOptionalText a.host,
    headerTableRestores a.headers, timestampRestores created, trivial⟩

theorem SessionKey.restores {k : SessionKey} (created : k.createdAt.Civil) : codec.Restores k := by
  refine restoresMap rfl (Fields.codecRestores ?_ (by decide))
  exact ⟨restoresText k.id, k.wallet.codecRestores, restoresText k.secret, timestampRestores created, trivial⟩

end Identity

namespace Access
open Json Chain

theorem Standard.restores (s : Standard) : codec.Restores s := restoresNamed (by cases s <;> rfl)

theorem Occasion.restores (o : Occasion) : codec.Restores o := restoresNamed (by cases o <;> rfl)

theorem Feature.restores (f : Feature) : codec.Restores f := by
  refine restoresMap rfl (Fields.codecRestores ?_ (by decide))
  exact ⟨restoresText f.name, f.required.codecRestores, restoresUInt64 f.threshold, f.standard.restores, trivial⟩

theorem Notification.restores (n : Notification) : codec.Restores n := by
  refine restoresMap rfl (Fields.codecRestores ?_ (by decide))
  refine ⟨restoresText n.user, n.occasion.restores, ?_, trivial⟩
  obtain ⟨user, occasion, wallet⟩ := n
  cases wallet with
  | none => rfl
  | some w => exact restoresOptional fun w _ => ⟨w.codecQuotes, w.codecRestores⟩

namespace Holdings

def member (e : Token × UInt64) : String × UInt64 := (e.1.text, e.2)

theorem memberInjective : Function.Injective member := by
  rintro ⟨s, m⟩ ⟨t, n⟩ same
  obtain ⟨names, amounts⟩ := Prod.mk.inj same
  exact Prod.ext (Token.textInjective names) amounts

theorem membersDistinct (owned : SortedMap Token UInt64) : ((membersOfOwned owned).map Prod.fst).Nodup := by
  have names : (membersOfOwned owned).map Prod.fst = (owned.entries.map Prod.fst).map Token.text := by
    simp [membersOfOwned]
  rw [names]
  exact List.Nodup.map (fun _ _ => Token.textInjective) owned.keysDistinct

theorem membersRead (pairs : List (Token × UInt64)) :
    (pairs.map member).mapM (fun (e : String × UInt64) => (Token.parse? e.1).map (·, e.2)) = some pairs := by
  induction pairs with
  | nil => rfl
  | cons e pairs ih =>
    obtain ⟨token, amount⟩ := e
    rw [List.map_cons, List.mapM_cons, ih]
    simp [member, Token.parseText]

theorem ownedBack (owned : SortedMap Token UInt64) : ownedOfMembers (membersOfOwned owned) = some owned := by
  obtain ⟨byName, named⟩ : ∃ byName : SortedMap String UInt64, byName = .ofList (membersOfOwned owned) := ⟨_, rfl⟩
  have members : ∀ e, e ∈ byName.entries ↔ e ∈ owned.entries.map member := by
    rintro ⟨name, amount⟩
    rw [← SortedMap.getSome, named, SortedMap.getOfList (membersDistinct owned)]
    rfl
  obtain ⟨pairs, sorted⟩ : byName.entries ∈ Set.range (List.map member) := by
    rw [Set.range_list_map]
    intro e listed
    obtain ⟨pair, _, same⟩ := List.mem_map.mp ((members e).mp listed)
    exact ⟨pair, same⟩
  have same : ∀ e, e ∈ pairs ↔ e ∈ owned.entries := fun e => by
    rw [← List.mem_map_of_injective memberInjective, sorted, members, List.mem_map_of_injective memberInjective]
  have distinct : (pairs.map Prod.fst).Nodup := by
    have names : (pairs.map Prod.fst).map Token.text = byName.entries.map Prod.fst := by
      simp [← sorted, member]
    exact List.Nodup.of_map Token.text (names ▸ byName.keysDistinct)
  have back : SortedMap.ofList pairs = owned := SortedMap.extensional fun token => Option.ext fun amount => by
    rw [SortedMap.getOfList distinct, same, SortedMap.getSome]
  rw [ownedOfMembers, ← named, ← sorted, membersRead, Option.map_some, back]

theorem restores (h : Holdings) : codec.Restores h := by
  refine restoresMap rfl (Fields.codecRestores ?_ (by decide))
  exact ⟨restoresText h.user, restoresSuch (ownedBack h.owned) (restoresTable fun e _ => restoresUInt64 e.2),
    restoresUInt64 h.block, trivial⟩

theorem ownedMember {owned : SortedMap Token UInt64} {token : Token} {amount : UInt64} :
    owned.get? token = some amount ↔ (token.text, amount) ∈ membersOfOwned owned := by
  rw [SortedMap.getSome]
  exact (List.mem_map_of_injective memberInjective (a := (token, amount))).symm

end Holdings
end Access

namespace Store
open Identity Access Chain Json

/-- Every document that is kept is read back from its text as it was, leap seconds and years of other than four digits
aside, and the texts of tokens tell the members of holdings apart. -/
theorem documentsSurvive :
    (∀ u : User, u.createdAt.Civil → u.updatedAt.Civil → (Json.read (render u) : Except Fault User) = .ok u) ∧
    (∀ n : Nonce, n.createdAt.Civil → (Json.read (render n) : Except Fault Nonce) = .ok n) ∧
    (∀ a : Attempt, a.createdAt.Civil → (Json.read (render a) : Except Fault Attempt) = .ok a) ∧
    (∀ k : SessionKey, k.createdAt.Civil → (Json.read (render k) : Except Fault SessionKey) = .ok k) ∧
    (∀ f : Feature, (Json.read (render f) : Except Fault Feature) = .ok f) ∧
    (∀ h : Holdings, (Json.read (render h) : Except Fault Holdings) = .ok h) ∧
    (∀ n : Notification, (Json.read (render n) : Except Fault Notification) = .ok n) ∧
    (∀ s t : Token, s.text = t.text → s = t) ∧
    (∀ h : Holdings, ((Holdings.membersOfOwned h.owned).map Prod.fst).Nodup ∧
      (∀ token amount, h.owned.get? token = some amount ↔ (token.text, amount) ∈ Holdings.membersOfOwned h.owned) ∧
      Holdings.ownedOfMembers (Holdings.membersOfOwned h.owned) = some h.owned) :=
  ⟨fun _ created updated => readRender (User.restores created updated),
    fun _ created => readRender (Nonce.restores created),
    fun _ created => readRender (Attempt.restores created),
    fun _ created => readRender (SessionKey.restores created),
    fun f => readRender f.restores,
    fun h => readRender h.restores,
    fun n => readRender n.restores,
    fun _ _ => Token.textInjective,
    fun h => ⟨Holdings.membersDistinct h.owned, fun _ _ => Holdings.ownedMember, Holdings.ownedBack h.owned⟩⟩

def lateUser : User :=
  ⟨"u", some "\t\"é\"", none, [.ofAddress 1, .ofAddress 2], ⟨951782400, 120000000⟩, ⟨253402300799, 999999999⟩⟩

def earlyNonce : Nonce := ⟨"n", ⟨-62167219200, 0⟩, "sign", some "u", .ofAddress 1⟩

theorem documentsSurviveLate :
    (lateUser.createdAt.Civil ∧ lateUser.updatedAt.Civil ∧ earlyNonce.createdAt.Civil) ∧
    (Json.read (render lateUser) : Except Fault User) = .ok lateUser ∧
    (Json.read (render earlyNonce) : Except Fault Nonce) = .ok earlyNonce := by
  have created : lateUser.createdAt.Civil := by decide
  have updated : lateUser.updatedAt.Civil := by decide
  have early : earlyNonce.createdAt.Civil := by decide
  obtain ⟨user, nonce, _⟩ := documentsSurvive
  exact ⟨⟨created, updated, early⟩, user lateUser created updated, nonce earlyNonce early⟩

end Store
end HolderGate
