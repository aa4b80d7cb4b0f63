import HolderGate.Http.Endpoint
import HolderGate.Proofs.SignatureVerdict
import HolderGate.Proofs.SignedEffects

/-! Texts that are no signature at all. What is wrong with one is only told to those who answer the live nonce of
the wallet; for all others it counts as one of another key. Either way an audit record is all that it leaves. -/
namespace HolderGate
open Identity Auth Crypto Text

namespace Auth

def Malformed (text : String) : Prop :=
  ¬ ∃ rs v, Hex.Writes (trim text) (rs ++ [v]) ∧ (rs ++ [v]).length = signatureLength ∧ v ∈ recoveryBytes

def SignatureError.Textual (e : SignatureError) : Prop := ∀ reason, e ≠ .notRecoverable reason

variable {text : String} {scheme : Scheme} {live : Option Nonce} {p : Proof} {e : SignatureError}

theorem readMalformed (malformed : Malformed text) : ∃ e, readSignature text = .error e ∧ e.Textual := by
  rcases shapes text with garbled | ⟨octets, written, misfit⟩ | ⟨rs, v, written, length, stray⟩ | ⟨r, s, v, formed⟩
  · obtain ⟨reason, refused⟩ := readGarbled garbled
    exact ⟨_, refused, nofun⟩
  · exact ⟨_, readMisfit written misfit, nofun⟩
  · exact ⟨_, readStray written length stray, nofun⟩
  · refine absurd ⟨r ++ s, v, formed.octets, ?_, formed.recovery⟩ malformed
    simp [formed.first, formed.second, signatureLength]

namespace Account

def Answers (live : Option Nonce) (p : Proof) : Prop := ∃ n, live = some n ∧ ∀ supplied ∈ p.nonce, supplied = n.value

theorem verdictAnswering (answers : Answers live p) (refused : readSignature p.signature = .error e) :
    verdict scheme live p = .error e := by
  obtain ⟨n, rfl, same⟩ := answers
  have supplied : p.nonce.all (· == n.value) = true := by
    cases given : p.nonce with
    | none => rfl
    | some value => simp [same value given]
  simp only [verdict, supplied, if_true, verifyRefused refused]

theorem verdictAstray (astray : ¬ Answers live p) : verdict scheme live p = .ok false := by
  unfold verdict
  split
  next => rfl
  next n =>
    refine if_neg fun supplied => astray ⟨n, rfl, fun value given => ?_⟩
    rw [Option.mem_def.mp given] at supplied
    simpa using supplied

theorem unsignedMalformed (refused : readSignature p.signature = .error e) : ¬ Signed scheme live p := by
  rintro ⟨n, _, _, signed⟩
  rw [verifyRefused refused] at signed
  cases signed

end Account
end Auth

namespace Gated

variable {svc : Service} {supply : Supply} {caller : Caller} {op : Gated} {e : AccountError}

theorem refusalKinds (refused : op.refusal? svc.store = some e) : ∃ w, e = .userNotFound w ∨ e = .addressTaken w := by
  cases op with
  | create p =>
    obtain ⟨_, same⟩ := Option.ite_none_right_eq_some.mp refused
    exact ⟨_, .inr (Option.some.inj same).symm⟩
  | login p =>
    obtain ⟨_, same⟩ := Option.ite_none_left_eq_some.mp refused
    exact ⟨_, .inl (Option.some.inj same).symm⟩
  | addWallet session p =>
    simp only [refusal?] at refused
    split at refused
    next => exact ⟨_, .inl (Option.some.inj refused).symm⟩
    next =>
      obtain ⟨_, same⟩ := Option.ite_none_right_eq_some.mp refused
      exact ⟨_, .inr (Option.some.inj same).symm⟩

theorem passedIff (indexed : svc.store.Indexed) : op.refusal? svc.store = none ↔
    ∀ w, (op.run svc supply caller).1 ≠ .error (.userNotFound w) ∧
      (op.run svc supply caller).1 ≠ .error (.addressTaken w) := by
  rcases outcomes indexed op supply caller with ⟨e, refused, same⟩ | ⟨passed, live, current, ends⟩
  · obtain ⟨w, kind⟩ := refusalKinds refused
    rw [refused, same]
    refine iff_of_false (by simp) fun each => ?_
    rcases kind with rfl | rfl
    · exact (each w).1 rfl
    · exact (each w).2 rfl
  · refine iff_of_true passed fun w => ?_
    rcases ends with ⟨_, same⟩ | ⟨_, n, u, _, _, same⟩
    · rw [same]
      cases answer : Account.verdict svc.scheme live op.proof <;> simp [rejected, Account.denied, answer]
    · simp [same, accepted]

theorem rejectedMalformed {defect : SignatureError} (indexed : svc.store.Indexed)
    (unrefused : op.refusal? svc.store = none) (malformed : readSignature op.proof.signature = .error defect)
    (supply : Supply) (caller : Caller) : ∃ live, svc.store.liveNonce op.wallet = .ok live ∧
      op.run svc supply caller = op.rejected supply caller svc live := by
  rcases outcomes indexed op supply caller with ⟨_, refused, _⟩ | ⟨_, live, current, ⟨_, ran⟩ | ⟨signed, _⟩⟩
  · simp [unrefused] at refused
  · exact ⟨live, current, ran⟩
  · exact absurd signed (Account.unsignedMalformed malformed)

end Gated

namespace Http

variable {result : Except AccountError Outcome × Service} {e : SignatureError} {outcome : Outcome}

theorem statusSignature (failed : result.1 = .error (.signature e)) :
    (answering result outcomeMembers).1.status = 400 := by
  obtain ⟨_, later⟩ := result
  cases failed
  rfl

theorem statusOutcome (answered : result.1 = .ok outcome) : (answering result outcomeMembers).1.status = 200 := by
  obtain ⟨_, later⟩ := result
  cases answered
  rfl

end Http

namespace Service

variable {svc : Service} {op : Gated}

/-- A text that is no signature is refused as what it is exactly where the live nonce of the wallet is answered, and
counts as a signature of another key where there is none, or where another one is supplied. In either case
it is recorded as invalid, and nothing else is changed. -/
theorem malformedAnswered (reachable : Reachable svc) (supply : Supply) (caller : Caller)
    (passed : ∀ w, (op.run svc supply caller).1 ≠ .error (.userNotFound w) ∧
      (op.run svc supply caller).1 ≠ .error (.addressTaken w))
    (malformed : Malformed op.proof.signature) :
    ∃ live e, svc.store.liveNonce op.wallet = .ok live ∧ readSignature op.proof.signature = .error e ∧ e.Textual ∧
      (Account.Answers live op.proof → (op.run svc supply caller).1 = .error (.signature e)) ∧
      (¬ Account.Answers live op.proof → (op.run svc supply caller).1 = .ok (.rejected op.wallet)) ∧
      ((Http.answering (op.run svc supply caller) Http.outcomeMembers).1.status = 400 ↔
        Account.Answers live op.proof) ∧
      (op.run svc supply caller).2 =
        { svc with store := svc.store.recordAttempt (op.record supply caller svc.store live false) } ∧
      (op.run svc supply caller).2.store.nonces = svc.store.nonces := by
  have indexed := reachableIndexed reachable
  obtain ⟨e, refused, textual⟩ := readMalformed malformed
  obtain ⟨live, current, ran⟩ :=
    Gated.rejectedMalformed indexed ((Gated.passedIff indexed).mpr passed) refused supply caller
  have told (answers : Account.Answers live op.proof) :
      (op.rejected supply caller svc live).1 = .error (.signature e) := by
    rw [Gated.rejected, Account.verdictAnswering answers refused]
    rfl
  have untold (astray : ¬ Account.Answers live op.proof) :
      (op.rejected supply caller svc live).1 = .ok (.rejected op.wallet) := by
    rw [Gated.rejected, Account.verdictAstray astray]
    rfl
  refine ⟨live, e, current, refused, textual, ?_⟩
  rw [ran]
  refine ⟨told, untold, ?_, rfl, rfl⟩
  by_cases answers : Account.Answers live op.proof
  · exact iff_of_true (Http.statusSignature (told answers)) answers
  · exact iff_of_false (by simp [Http.statusOutcome (untold answers)]) answers

def scrap : Proof := ⟨zeroWallet, "0x1234", none⟩

theorem scrapWritten : Hex.Writes (trim scrap.signature) [0x12, 0x34] := Hex.writesIff.mpr (by decide)

theorem scrapMalformed : Malformed scrap.signature := by
  rintro ⟨rs, v, written, length, _⟩
  rw [Hex.writesOnce written scrapWritten] at length
  contradiction

theorem malformedAnsweredScrap :
    Reachable (asked 5) ∧ (asked 5).store.liveNonce zeroWallet = .ok (some (challenge 5)) ∧
      Malformed scrap.signature ∧
      ((Gated.create scrap).run (asked 5) (still "b" 4) .unknown).1 = .error (.signature (.wrongLength 2)) ∧
      ((Gated.create scrap).run (asked 5) (still "b" 4) .unknown).2.store.liveNonce zeroWallet =
        .ok (some (challenge 5)) := by
  have indexed := reachableIndexed (askedReachable 5)
  have current : (asked 5).store.liveNonce zeroWallet = .ok (some (challenge 5)) := by decide +kernel
  have passed := (@Gated.passedIff _ (still "b" 4) .unknown (.create scrap) indexed).mp rfl
  obtain ⟨live, e, found, refused, _, told, _, _, _, kept⟩ :=
    malformedAnswered (askedReachable 5) (still "b" 4) .unknown passed scrapMalformed
  cases current.symm.trans found
  cases refused.symm.trans (readMisfit scrapWritten (by decide))
  exact ⟨askedReachable 5, current, scrapMalformed, told ⟨_, rfl, nofun⟩, (Store.liveSame kept).trans current⟩

theorem malformedUnanswered :
    Reachable trusting ∧ Malformed scrap.signature ∧
      (∀ w, ((Gated.create scrap).run trusting (still "b" 4) .unknown).1 ≠ .error (.userNotFound w) ∧
        ((Gated.create scrap).run trusting (still "b" 4) .unknown).1 ≠ .error (.addressTaken w)) ∧
      ((Gated.create scrap).run trusting (still "b" 4) .unknown).1 = .ok (.rejected zeroWallet) := by
  have started : Reachable trusting := ⟨trusting, [], rfl, rfl⟩
  have indexed := reachableIndexed started
  refine ⟨started, scrapMalformed, (Gated.passedIff indexed).mp rfl, ?_⟩
  obtain ⟨live, found, ran⟩ := @Gated.rejectedMalformed _ (.create scrap) _ indexed rfl
    (readMisfit scrapWritten (by decide)) (still "b" 4) .unknown
  have silent : trusting.store.liveNonce zeroWallet = .ok none := rfl
  cases silent.symm.trans found
  rw [ran, Gated.rejected, Account.verdictAstray (by rintro ⟨n, absent, _⟩; cases absent)]
  rfl

end Service
end HolderGate
