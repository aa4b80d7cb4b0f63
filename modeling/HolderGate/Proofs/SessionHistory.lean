import HolderGate.Proofs.AccountHistory

/-! The session keys of a history. A key is put in by an operation that is answered with a session under it, and
by nothing else, and stays for good where identifiers do not come twice. -/
namespace HolderGate
open Identity Auth Newest

namespace Service

def Call.key? : Call → Option SessionKey
  | gated supply _ op => op.key? supply
  | _ => none

def keys (calls : List Call) : List SessionKey := calls.filterMap Call.key?

def Answered (svc : Service) (calls : List Call) (issuer : Issuer) (key : SessionKey) : Prop :=
  ∃ earlier supply caller op rest user, calls = earlier ++ .gated supply caller op :: rest ∧
    (after svc earlier).issuer = issuer ∧ op.key? supply = some key ∧
    (op.run (after svc earlier) supply caller).1 =
      .ok (.accepted key.wallet user (some (Gated.tokenUnder issuer key)))

variable {svc : Service} {calls rest : List Call} {supply : Supply} {caller : Caller} {op : Gated} {s : Store}
  {w : Wallet} {key : SessionKey} {issuer : Issuer}

theorem gatedKeys (indexed : svc.store.Indexed) (op : Gated) (supply : Supply) (caller : Caller) :
    ((op.run svc supply caller).2.store.sessionKeys = svc.store.sessionKeys ∧
      ∀ w user token, (op.run svc supply caller).1 ≠ .ok (.accepted w user (some token))) ∨
    ∃ key user, op.key? supply = some key ∧
      (op.run svc supply caller).2.store.sessionKeys = put svc.store.sessionKeys key ∧
      (op.run svc supply caller).1 = .ok (.accepted key.wallet user (some (Gated.tokenUnder svc.issuer key))) := by
  rcases Gated.outcomes indexed op supply caller with ⟨e, _, same⟩ | ⟨_, live, _, ⟨_, same⟩ | ⟨_, n, u, _, _, same⟩⟩
  · rw [same]
    exact .inl ⟨rfl, by simp⟩
  · rw [same, Gated.rejected]
    refine .inl ⟨rfl, fun w user token => ?_⟩
    cases Account.verdict svc.scheme live op.proof <;> simp [Account.denied]
  · rw [same, Gated.accepted, announceAnyStore]
    cases op with
    | create p => exact .inr ⟨_, u.id, rfl, rfl, rfl⟩
    | login p => exact .inr ⟨_, u.id, rfl, rfl, rfl⟩
    | addWallet session p =>
      refine .inl ⟨?_, by simp [Gated.key?]⟩
      simp only [Gated.grant, Store.linked]
      split <;> rfl

theorem callKeys (indexed : svc.store.Indexed) (call : Call) :
    (call.run svc).store.sessionKeys = svc.store.sessionKeys ∨
    ∃ supply caller op key user, call = .gated supply caller op ∧ op.key? supply = some key ∧
      (call.run svc).store.sessionKeys = put svc.store.sessionKeys key ∧
      (op.run svc supply caller).1 = .ok (.accepted key.wallet user (some (Gated.tokenUnder svc.issuer key))) := by
  cases callEffect indexed call with
  | nothing alike => exact .inl alike.sessionKeys
  | challenge _ same => exact .inl ((congrArg Store.sessionKeys same).trans rfl)
  | profile _ _ _ same => exact .inl ((congrArg Store.sessionKeys same).trans rfl)
  | rejected _ same => exact .inl ((congrArg Store.sessionKeys same).trans rfl)
  | @accepted supply caller op =>
    rcases gatedKeys indexed op supply caller with ⟨same, _⟩ | ⟨key, user, has, same, answer⟩
    · exact .inl same
    · exact .inr ⟨supply, caller, op, key, user, rfl, has, same, answer⟩

theorem callHeld (indexed : svc.store.Indexed) (call : Call) (rest : List Call)
    (held : Holds (call.run svc).store.sessionKeys key) :
    Holds svc.store.sessionKeys key ∨ Answered svc (call :: rest) svc.issuer key := by
  rcases callKeys indexed call with same | ⟨supply, caller, op, next, user, rfl, has, same, answer⟩
  · exact .inl (same ▸ held)
  · rw [same] at held
    rcases holdsPut.mp held with rfl | ⟨_, held⟩
    · exact .inr ⟨[], supply, caller, op, rest, user, rfl, rfl, has, answer⟩
    · exact .inl held

theorem answeredOffered (answered : Answered svc calls issuer key) : key ∈ keys calls := by
  obtain ⟨earlier, supply, caller, op, rest, _, rfl, _, has, _⟩ := answered
  have among : Call.gated supply caller op ∈ earlier ++ .gated supply caller op :: rest := by simp
  exact List.mem_filterMap.mpr ⟨_, among, has⟩

theorem answeredLater (call : Call) (answered : Answered (call.run svc) calls issuer key) :
    Answered svc (call :: calls) issuer key := by
  obtain ⟨earlier, supply, caller, op, rest, user, rfl, own, has, same⟩ := answered
  exact ⟨call :: earlier, supply, caller, op, rest, user, rfl, own, has, same⟩

theorem heldRun (ready : Ready svc calls) (held : Holds (after svc calls).store.sessionKeys key) :
    Holds svc.store.sessionKeys key ∨ ∃ issuer, Answered svc calls issuer key := by
  induction calls generalizing svc with
  | nil => exact .inl held
  | cons call calls ih =>
    obtain ⟨_, next⟩ := ready.step
    rcases ih next held with between | ⟨issuer, later⟩
    · rcases callHeld (ready.mirrored.indexed ready.nonces) call calls between with before | now
      · exact .inl before
      · exact .inr ⟨svc.issuer, now⟩
    · exact .inr ⟨issuer, answeredLater call later⟩

structure Keyed (svc : Service) (calls : List Call) : Prop extends Ready svc calls where
  single : ((keys calls).map SessionKey.id).Nodup
  unheld : ∀ other, Holds svc.store.sessionKeys other → ∀ next ∈ keys calls, other.id ≠ next.id

theorem keysGated (supply : Supply) (caller : Caller) (op : Gated) (has : op.key? supply = some key) :
    keys (.gated supply caller op :: rest) = key :: keys rest := List.filterMap_cons_some has

theorem keysRest (call : Call) {next : SessionKey} (member : next ∈ keys rest) : next ∈ keys (call :: rest) := by
  obtain ⟨later, among, has⟩ := List.mem_filterMap.mp member
  exact List.mem_filterMap.mpr ⟨later, List.mem_cons_of_mem _ among, has⟩

theorem singleRest (call : Call) (single : ((keys (call :: rest)).map SessionKey.id).Nodup) :
    ((keys rest).map SessionKey.id).Nodup := by
  rw [keys, List.filterMap_cons] at single
  split at single
  next => exact single
  next => exact single.of_cons

theorem Keyed.step {call : Call} (keyed : Keyed svc (call :: rest)) :
    Extends svc.store.sessionKeys (call.run svc).store.sessionKeys ∧ Keyed (call.run svc) rest := by
  obtain ⟨_, next⟩ := keyed.toReady.step
  have single := singleRest call keyed.single
  have unheld : ∀ other, Holds svc.store.sessionKeys other → ∀ next ∈ keys rest, other.id ≠ next.id :=
    fun other held later member => keyed.unheld other held later (keysRest call member)
  rcases callKeys (keyed.mirrored.indexed keyed.nonces) call with
    same | ⟨supply, caller, op, key, user, rfl, has, same, _⟩
  · exact ⟨same ▸ fun _ held => held, next, single, same ▸ unheld⟩
  · -- Only the key of this call is new, and its identifier comes once.
    have offered : keys (.gated supply caller op :: rest) = key :: keys rest := keysGated supply caller op has
    refine ⟨?_, next, single, ?_⟩
    · rw [same]
      exact extendsPut fun other held => keyed.unheld other held key (offered ▸ List.mem_cons_self)
    · intro other held later member
      rw [same] at held
      rcases holdsPut.mp held with rfl | ⟨_, held⟩
      · have whole := keyed.single
        rw [offered, List.map_cons, List.nodup_cons] at whole
        exact fun equal => whole.1 (equal ▸ List.mem_map_of_mem member)
      · exact unheld other held later member

theorem Keyed.run (keyed : Keyed svc calls) :
    Extends svc.store.sessionKeys (after svc calls).store.sessionKeys := by
  induction calls generalizing svc with
  | nil => exact fun _ held => held
  | cons call calls ih =>
    obtain ⟨grown, next⟩ := keyed.step
    exact extendsTrans grown (ih next)

theorem Keyed.answered (keyed : Keyed svc calls) (answered : Answered svc calls issuer key) :
    Holds (after svc calls).store.sessionKeys key := by
  obtain ⟨earlier, supply, caller, op, rest, user, rfl, rfl, has, same⟩ := answered
  induction earlier generalizing svc with
  | nil =>
    obtain ⟨_, next⟩ := keyed.step
    refine next.run key ?_
    rcases gatedKeys (keyed.mirrored.indexed keyed.nonces) op supply caller with
      ⟨_, unanswered⟩ | ⟨other, _, offered, put, _⟩
    · exact absurd same (unanswered _ _ _)
    · cases has.symm.trans offered
      show Holds (op.run svc supply caller).2.store.sessionKeys key
      rw [put]
      exact holdsNew key
  | cons call earlier ih =>
    obtain ⟨_, next⟩ := keyed.step
    exact ih next same

theorem heldAnswered (empty : svc.store = .empty) (users : (made svc calls).Nodup)
    (single : ((keys calls).map SessionKey.id).Nodup) :
    Holds (after svc calls).store.sessionKeys key ↔ ∃ issuer, Answered svc calls issuer key := by
  have none : ∀ key, ¬ Holds svc.store.sessionKeys key := fun key held => by simp [Holds, empty, Store.empty] at held
  have ready := readyEmpty empty users
  constructor
  · intro held
    exact (heldRun ready held).resolve_left (none key)
  · rintro ⟨issuer, answered⟩
    have keyed : Keyed svc calls := ⟨ready, single, fun other held => absurd held (none other)⟩
    exact keyed.answered answered

end Service
end HolderGate
