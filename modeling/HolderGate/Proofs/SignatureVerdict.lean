import HolderGate.Auth.Signature
import HolderGate.Proofs.HexText

/-! What a signature text says about a message. It is of sixty-five octets, or it is refused for its shape. Of those
that are, one is good that a key of the claimed address signed under one of the two digests of the message, and no
key at all can be recovered where the text is refused. -/
namespace HolderGate.Auth
open Identity Crypto Text

def signedDigests (scheme : Scheme) (message : Bytes) : List Bytes :=
  [scheme.digest message,
    scheme.digest (utf8 "\x19Ethereum Signed Message:\n" ++ utf8 (Numeral.decimal message.length) ++ message)]

def recoveryBytes : List UInt8 := [0, 1, 27, 28]

def recoversOdd (v : UInt8) : Bool := (if 27 ≤ v then v - 27 else v) = 1

structure Formed (text : String) (r s : Bytes) (v : UInt8) : Prop where
  octets : Hex.Writes (trim text) (r ++ s ++ [v])
  first : r.length = 32
  second : s.length = 32
  recovery : v ∈ recoveryBytes

def signatureOf (r s : Bytes) : Secp256k1.Signature := ⟨ofBigEndian r, ofBigEndian s⟩

def Ranged (r s : Bytes) : Prop :=
  0 < ofBigEndian r ∧ ofBigEndian r < Secp256k1.order ∧ 0 < ofBigEndian s ∧ ofBigEndian s < Secp256k1.order

instance (r s : Bytes) : Decidable (Ranged r s) := inferInstanceAs (Decidable (_ ∧ _))

variable {scheme : Scheme} {text : String} {message : Bytes} {claimed : Wallet} {octets r s rs : Bytes} {v : UInt8}
  {signature : Secp256k1.Signature} {odd : Bool}

theorem recoveryByteOk (known : v ∈ recoveryBytes) : recoveryByte v = .ok (recoversOdd v) := by
  simp only [recoveryBytes, List.mem_cons, List.not_mem_nil, or_false] at known
  rcases known with rfl | rfl | rfl | rfl <;> rfl

theorem recoveryByteBad (unknown : v ∉ recoveryBytes) : recoveryByte v = .error (.badRecoveryByte v) := by
  simp only [recoveryBytes, List.mem_cons, List.not_mem_nil, or_false, not_or] at unknown
  simp [recoveryByte, unknown]

theorem readGarbled (garbled : ∀ octets, ¬ Hex.Writes (trim text) octets) :
    ∃ reason, readSignature text = .error (.notHex reason) := by
  unfold readSignature
  cases read : Hex.decode (trim text) with
  | error defect => exact ⟨_, rfl⟩
  | ok octets => exact absurd (Hex.decodeIff.mp read) (garbled octets)

theorem readMisfit (written : Hex.Writes (trim text) octets) (misfit : octets.length ≠ signatureLength) :
    readSignature text = .error (.wrongLength octets.length) := by
  simp only [readSignature, Hex.decodeIff.mpr written, misfit, ne_eq, not_false_eq_true, if_true]

theorem readStray (written : Hex.Writes (trim text) (rs ++ [v])) (length : rs.length = 64)
    (stray : v ∉ recoveryBytes) : readSignature text = .error (.badRecoveryByte v) := by
  have fits : (rs ++ [v]).length = signatureLength := by simp [length, signatureLength]
  simp only [readSignature, Hex.decodeIff.mpr written, fits, List.getLast?_concat, Option.getD_some,
    recoveryByteBad stray]
  rfl

theorem parseRanged (length : r.length = 32) :
    Secp256k1.Signature.parse? (r ++ s) = if Ranged r s then some (signatureOf r s) else none := by
  have high : (r ++ s).take 32 = r := by rw [← length, List.take_left]
  have low : (r ++ s).drop 32 = s := by rw [← length, List.drop_left]
  simp only [Secp256k1.Signature.parse?, high, low]
  rfl

theorem readFormed (formed : Formed text r s v) : readSignature text =
    if Ranged r s then .ok (signatureOf r s, recoversOdd v) else .error (.notRecoverable "signature error") := by
  have fits : (r ++ s ++ [v]).length = signatureLength := by
    simp [formed.first, formed.second, signatureLength]
  have numbers : (r ++ s ++ [v]).take 64 = r ++ s := by
    rw [List.take_append_of_le_length (by simp [formed.first, formed.second]), List.take_of_length_le]
    simp [formed.first, formed.second]
  simp only [readSignature, Hex.decodeIff.mpr formed.octets, fits, List.getLast?_concat, Option.getD_some,
    recoveryByteOk formed.recovery, numbers, parseRanged formed.first, bind, Except.bind, ne_eq, not_true_eq_false,
    if_false]
  by_cases ranged : Ranged r s
  · simp only [if_pos ranged]
  · simp only [if_neg ranged]

theorem shapes (text : String) :
    (∀ octets, ¬ Hex.Writes (trim text) octets) ∨
    (∃ octets, Hex.Writes (trim text) octets ∧ octets.length ≠ signatureLength) ∨
    (∃ rs v, Hex.Writes (trim text) (rs ++ [v]) ∧ rs.length = 64 ∧ v ∉ recoveryBytes) ∨
    ∃ r s v, Formed text r s v := by
  cases read : Hex.decode (trim text) with
  | error defect => exact .inl fun octets written => by simp [Hex.decodeIff.mpr written] at read
  | ok octets =>
    have written := Hex.decodeIff.mp read
    by_cases fits : octets.length = signatureLength
    · rcases List.eq_nil_or_concat octets with rfl | ⟨rs, v, ends⟩
      · simp [signatureLength] at fits
      · rw [List.concat_eq_append] at ends
        subst ends
        have length : rs.length = 64 := by simpa [signatureLength] using fits
        by_cases known : v ∈ recoveryBytes
        · refine .inr (.inr (.inr ⟨rs.take 32, rs.drop 32, v, ?_, ?_, ?_, known⟩))
          · rwa [List.take_append_drop]
          · simp [length]
          · simp [length]
        · exact .inr (.inr (.inl ⟨rs, v, written, length, known⟩))
    · exact .inr (.inl ⟨octets, written, fits⟩)

def Recovered (scheme : Scheme) (message r s : Bytes) (v : UInt8) : Prop :=
  ∃ digest ∈ signedDigests scheme message, ∃ key,
    scheme.recover digest (signatureOf r s) (recoversOdd v) = some key

def Genuine (scheme : Scheme) (message : Bytes) (claimed : Wallet) (r s : Bytes) (v : UInt8) : Prop :=
  ∃ digest ∈ signedDigests scheme message, ∃ key,
    scheme.recover digest (signatureOf r s) (recoversOdd v) = some key ∧ scheme.address key = claimed.address ∧
      scheme.verifies key digest (signatureOf r s) = true

theorem encodingDigests : Encoding.all.map (fun encoding => encoding.digest scheme message) =
    signedDigests scheme message := by
  have header : utf8 ("\x19Ethereum Signed Message:\n" ++ Numeral.decimal message.length) =
      utf8 "\x19Ethereum Signed Message:\n" ++ utf8 (Numeral.decimal message.length) := by
    simp [utf8]
  simp [Encoding.all, Encoding.digest, signedDigests, header]

def verdicts (scheme : Scheme) (message : Bytes) (claimed : Wallet) (signature : Secp256k1.Signature) (odd : Bool) :
    List (Option Bool) :=
  (signedDigests scheme message).map (signedBy scheme claimed.address signature odd)

def judged (scheme : Scheme) (message : Bytes) (claimed : Wallet) (signature : Secp256k1.Signature) (odd : Bool) :
    Except SignatureError Bool :=
  if (verdicts scheme message claimed signature odd).contains (some true) then .ok true
  else if (verdicts scheme message claimed signature odd).contains (some false) then .ok false
  else .error (.notRecoverable "signature error")

theorem verifyRead (scheme : Scheme) (text : String) (message : Bytes) (claimed : Wallet) :
    verify scheme text message claimed =
      readSignature text >>= fun (signature, odd) => judged scheme message claimed signature odd := by
  unfold verify judged verdicts
  simp only [← encodingDigests, List.map_map]
  rfl

theorem verifyRefused {e : SignatureError} (refused : readSignature text = .error e) :
    verify scheme text message claimed = .error e := by
  rw [verifyRead, refused]
  rfl

theorem verifyFormed (formed : Formed text r s v) : verify scheme text message claimed =
    if Ranged r s then judged scheme message claimed (signatureOf r s) (recoversOdd v)
    else .error (.notRecoverable "signature error") := by
  rw [verifyRead, readFormed formed]
  split <;> rfl

theorem someSigned : some true ∈ verdicts scheme message claimed (signatureOf r s) (recoversOdd v) ↔
    Genuine scheme message claimed r s v := by
  simp [verdicts, signedBy, Genuine]

theorem someRecovered : (∃ answer, some answer ∈ verdicts scheme message claimed (signatureOf r s) (recoversOdd v)) ↔
    Recovered scheme message r s v := by
  simp only [verdicts, List.mem_map, signedBy, Option.map_eq_some_iff, Recovered]
  constructor
  · rintro ⟨_, digest, among, key, recovered, _⟩
    exact ⟨digest, among, key, recovered⟩
  · rintro ⟨digest, among, key, recovered⟩
    exact ⟨_, digest, among, key, recovered, rfl⟩

theorem Genuine.recovered (genuine : Genuine scheme message claimed r s v) : Recovered scheme message r s v := by
  obtain ⟨digest, among, key, recovered, _⟩ := genuine
  exact ⟨digest, among, key, recovered⟩

theorem judgedGenuine (genuine : Genuine scheme message claimed r s v) :
    judged scheme message claimed (signatureOf r s) (recoversOdd v) = .ok true := by
  simp only [judged, List.contains_iff_mem, someSigned.mpr genuine, if_true]

theorem judgedForeign (recovered : Recovered scheme message r s v)
    (foreign : ¬ Genuine scheme message claimed r s v) :
    judged scheme message claimed (signatureOf r s) (recoversOdd v) = .ok false := by
  obtain ⟨answer, among⟩ : ∃ answer, some answer ∈ verdicts scheme message claimed _ _ :=
    someRecovered.mpr recovered
  cases answer with
  | true => exact absurd (someSigned.mp among) foreign
  | false => simp only [judged, List.contains_iff_mem, someSigned, foreign, among, if_true, if_false]

theorem judgedUnrecovered (unrecovered : ¬ Recovered scheme message r s v) :
    judged scheme message claimed (signatureOf r s) (recoversOdd v) = .error (.notRecoverable "signature error") := by
  have silent (answer : Bool) :
      some answer ∉ verdicts scheme message claimed (signatureOf r s) (recoversOdd v) :=
    fun among => unrecovered (someRecovered.mp ⟨answer, among⟩)
  simp only [judged, List.contains_iff_mem, silent, if_false]

/-- The answer that a text, a message and an address are to have. -/
inductive Contract (scheme : Scheme) (text : String) (message : Bytes) (claimed : Wallet) :
    Except SignatureError Bool → Prop where
  | garbled (reason : String) (garbled : ∀ octets, ¬ Hex.Writes (trim text) octets) :
      Contract scheme text message claimed (.error (.notHex reason))
  | misfit (octets : Bytes) (written : Hex.Writes (trim text) octets) (misfit : octets.length ≠ signatureLength) :
      Contract scheme text message claimed (.error (.wrongLength octets.length))
  | stray (rs : Bytes) (v : UInt8) (written : Hex.Writes (trim text) (rs ++ [v])) (length : rs.length = 64)
      (stray : v ∉ recoveryBytes) : Contract scheme text message claimed (.error (.badRecoveryByte v))
  | lost (r s : Bytes) (v : UInt8) (formed : Formed text r s v)
      (lost : Ranged r s → ¬ Recovered scheme message r s v) :
      Contract scheme text message claimed (.error (.notRecoverable "signature error"))
  | foreign (r s : Bytes) (v : UInt8) (formed : Formed text r s v) (ranged : Ranged r s)
      (recovered : Recovered scheme message r s v) (foreign : ¬ Genuine scheme message claimed r s v) :
      Contract scheme text message claimed (.ok false)
  | genuine (r s : Bytes) (v : UInt8) (formed : Formed text r s v) (ranged : Ranged r s)
      (genuine : Genuine scheme message claimed r s v) : Contract scheme text message claimed (.ok true)

theorem verifyGenuine (formed : Formed text r s v) (ranged : Ranged r s)
    (genuine : Genuine scheme message claimed r s v) : verify scheme text message claimed = .ok true := by
  rw [verifyFormed formed, if_pos ranged, judgedGenuine genuine]

theorem verifyForeign (formed : Formed text r s v) (ranged : Ranged r s) (recovered : Recovered scheme message r s v)
    (foreign : ¬ Genuine scheme message claimed r s v) : verify scheme text message claimed = .ok false := by
  rw [verifyFormed formed, if_pos ranged, judgedForeign recovered foreign]

theorem verifyLost (formed : Formed text r s v) (lost : Ranged r s → ¬ Recovered scheme message r s v) :
    verify scheme text message claimed = .error (.notRecoverable "signature error") := by
  rw [verifyFormed formed]
  by_cases ranged : Ranged r s
  · rw [if_pos ranged, judgedUnrecovered (lost ranged)]
  · rw [if_neg ranged]

theorem verifyContract (scheme : Scheme) (text : String) (message : Bytes) (claimed : Wallet) :
    Contract scheme text message claimed (verify scheme text message claimed) := by
  rcases shapes text with garbled | ⟨octets, written, misfit⟩ | ⟨rs, v, written, length, stray⟩ | ⟨r, s, v, formed⟩
  · obtain ⟨reason, refused⟩ := readGarbled garbled
    rw [verifyRefused refused]
    exact .garbled reason garbled
  · rw [verifyRefused (readMisfit written misfit)]
    exact .misfit octets written misfit
  · rw [verifyRefused (readStray written length stray)]
    exact .stray rs v written length stray
  · by_cases lost : Ranged r s → ¬ Recovered scheme message r s v
    · rw [verifyLost formed lost]
      exact .lost r s v formed lost
    · obtain ⟨ranged, recovered⟩ : Ranged r s ∧ Recovered scheme message r s v := by
        simpa only [Classical.not_imp, Classical.not_not] using lost
      by_cases genuine : Genuine scheme message claimed r s v
      · rw [verifyGenuine formed ranged genuine]
        exact .genuine r s v formed ranged genuine
      · rw [verifyForeign formed ranged recovered genuine]
        exact .foreign r s v formed ranged recovered genuine

theorem verifyTrueIff : verify scheme text message claimed = .ok true ↔
    ∃ r s v, Formed text r s v ∧ Ranged r s ∧ Genuine scheme message claimed r s v := by
  constructor
  · intro answer
    cases answer ▸ verifyContract scheme text message claimed with
    | genuine r s v formed ranged genuine => exact ⟨r, s, v, formed, ranged, genuine⟩
  · rintro ⟨r, s, v, formed, ranged, genuine⟩
    exact verifyGenuine formed ranged genuine

theorem verifyFalseIff : verify scheme text message claimed = .ok false ↔
    ∃ r s v, Formed text r s v ∧ Ranged r s ∧ Recovered scheme message r s v ∧
      ¬ Genuine scheme message claimed r s v := by
  constructor
  · intro answer
    cases answer ▸ verifyContract scheme text message claimed with
    | foreign r s v formed ranged recovered foreign => exact ⟨r, s, v, formed, ranged, recovered, foreign⟩
  · rintro ⟨r, s, v, formed, ranged, recovered, foreign⟩
    exact verifyForeign formed ranged recovered foreign

theorem verifyLostIff : (∃ reason, verify scheme text message claimed = .error (.notRecoverable reason)) ↔
    ∃ r s v, Formed text r s v ∧ (¬ Ranged r s ∨ ¬ Recovered scheme message r s v) := by
  constructor
  · rintro ⟨reason, answer⟩
    cases answer ▸ verifyContract scheme text message claimed with
    | lost r s v formed lost => exact ⟨r, s, v, formed, Decidable.imp_iff_not_or.mp lost⟩
  · rintro ⟨r, s, v, formed, lost⟩
    exact ⟨_, verifyLost formed (Decidable.imp_iff_not_or.mpr lost)⟩

theorem verifyGarbledIff : (∃ reason, verify scheme text message claimed = .error (.notHex reason)) ↔
    ∀ octets, ¬ Hex.Writes (trim text) octets := by
  constructor
  · rintro ⟨reason, answer⟩
    cases answer ▸ verifyContract scheme text message claimed with
    | garbled _ garbled => exact garbled
  · intro garbled
    obtain ⟨reason, refused⟩ := readGarbled garbled
    exact ⟨reason, verifyRefused refused⟩

theorem verifyMisfitIff {n : Nat} : verify scheme text message claimed = .error (.wrongLength n) ↔
    n ≠ signatureLength ∧ ∃ octets, Hex.Writes (trim text) octets ∧ octets.length = n := by
  constructor
  · intro answer
    cases answer ▸ verifyContract scheme text message claimed with
    | misfit octets written misfit => exact ⟨misfit, octets, written, rfl⟩
  · rintro ⟨misfit, octets, written, rfl⟩
    exact verifyRefused (readMisfit written misfit)

theorem verifyStrayIff : verify scheme text message claimed = .error (.badRecoveryByte v) ↔
    v ∉ recoveryBytes ∧ ∃ rs, rs.length = 64 ∧ Hex.Writes (trim text) (rs ++ [v]) := by
  constructor
  · intro answer
    cases answer ▸ verifyContract scheme text message claimed with
    | stray rs _ written length stray => exact ⟨stray, rs, length, written⟩
  · rintro ⟨stray, rs, length, written⟩
    exact verifyRefused (readStray written length stray)

theorem readSame {again : String} (written : Hex.Writes (trim text) octets)
    (alike : Hex.Writes (trim again) octets) : readSignature again = readSignature text := by
  simp only [readSignature, Hex.decodeIff.mpr written, Hex.decodeIff.mpr alike]

theorem recoveryByteShifted (counted : v = 0 ∨ v = 1) : recoveryByte (v + 27) = recoveryByte v := by
  rcases counted with rfl | rfl <;> rfl

theorem readShifted {again : String} (counted : v = 0 ∨ v = 1) (written : Hex.Writes (trim text) (rs ++ [v]))
    (shifted : Hex.Writes (trim again) (rs ++ [v + 27])) : readSignature again = readSignature text := by
  simp only [readSignature, Hex.decodeIff.mpr written, Hex.decodeIff.mpr shifted, List.length_append,
    List.length_singleton, List.getLast?_concat, Option.getD_some, recoveryByteShifted counted]
  by_cases length : rs.length = 64
  · have numbers (last : UInt8) : (rs ++ [last]).take 64 = rs := by rw [← length, List.take_left]
    simp only [numbers]
  · have misfit : rs.length + 1 ≠ signatureLength := by simpa [signatureLength] using length
    simp only [misfit, ne_eq, not_false_eq_true, if_true]

/-- A text is answered as its octets are: by whether they are those of a signature, by whether a key can be recovered
at all, and by whether a key of the claimed address is, and made the signature. -/
theorem verifyDecides (scheme : Scheme) (text : String) (message : Bytes) (claimed : Wallet) :
    (verify scheme text message claimed = .ok true ↔
      ∃ r s v, Formed text r s v ∧ Ranged r s ∧ Genuine scheme message claimed r s v) ∧
    (verify scheme text message claimed = .ok false ↔
      ∃ r s v, Formed text r s v ∧ Ranged r s ∧ Recovered scheme message r s v ∧
        ¬ Genuine scheme message claimed r s v) ∧
    ((∃ reason, verify scheme text message claimed = .error (.notRecoverable reason)) ↔
      ∃ r s v, Formed text r s v ∧ (¬ Ranged r s ∨ ¬ Recovered scheme message r s v)) ∧
    ((∃ reason, verify scheme text message claimed = .error (.notHex reason)) ↔
      ∀ octets, ¬ Hex.Writes (trim text) octets) ∧
    (∀ n, verify scheme text message claimed = .error (.wrongLength n) ↔
      n ≠ signatureLength ∧ ∃ octets, Hex.Writes (trim text) octets ∧ octets.length = n) ∧
    (∀ v, verify scheme text message claimed = .error (.badRecoveryByte v) ↔
      v ∉ recoveryBytes ∧ ∃ rs, rs.length = 64 ∧ Hex.Writes (trim text) (rs ++ [v])) ∧
    (∀ again octets, Hex.Writes (trim text) octets → Hex.Writes (trim again) octets →
      verify scheme again message claimed = verify scheme text message claimed) ∧
    ∀ again rs v, (v = 0 ∨ v = 1) → Hex.Writes (trim text) (rs ++ [v]) → Hex.Writes (trim again) (rs ++ [v + 27]) →
      verify scheme again message claimed = verify scheme text message claimed := by
  refine ⟨verifyTrueIff, verifyFalseIff, verifyLostIff, verifyGarbledIff, fun _ => verifyMisfitIff,
    fun _ => verifyStrayIff, ?same, ?shifted⟩
  case same =>
    intro again octets written alike
    rw [verifyRead, verifyRead, readSame written alike]
  case shifted =>
    intro again rs v counted written shifted
    rw [verifyRead, verifyRead, readShifted counted written shifted]

def headed : Scheme where
  digest := List.take 1
  -- One key, and only under digests of messages behind a header.
  recover digest _ odd := if digest = [0x19] ∧ odd then some ⟨0, 0⟩ else none
  verifies _ _ _ := true

def keyHolder : Wallet := .ofAddress (headed.address ⟨0, 0⟩)

def numbers : Bytes := List.replicate 32 10 ++ List.replicate 32 11

def shouted : String := String.ofList (" 0X".toList ++ (List.replicate 32 "0a".toList).flatten ++
  (List.replicate 32 "0B".toList).flatten ++ "1C\n".toList)

theorem plainForm : Formed (String.ofList (Hex.digits (numbers ++ [1]))) (List.replicate 32 10)
    (List.replicate 32 11) 1 := by
  refine ⟨Hex.writesIff.mpr ?_, by decide, by decide, by decide⟩
  unfold trim
  simp only [String.toList_ofList]
  rfl

theorem shoutedForm : Hex.Writes (trim shouted) (numbers ++ [1 + 27]) := by
  refine Hex.writesIff.mpr ?_
  unfold shouted trim
  simp only [String.toList_ofList]
  rfl

theorem headedGenuine : Genuine headed (utf8 "a") keyHolder (List.replicate 32 10) (List.replicate 32 11) 1 :=
  ⟨[0x19], by decide, ⟨0, 0⟩, by decide, by decide, rfl⟩

theorem verifyDecidesHeaded :
    verify headed (String.ofList (Hex.digits (numbers ++ [1]))) (utf8 "a") keyHolder = .ok true ∧
    verify headed shouted (utf8 "a") keyHolder = .ok true := by
  have plain := verifyDecides headed (String.ofList (Hex.digits (numbers ++ [1]))) (utf8 "a") keyHolder
  have accepted := plain.1.mpr ⟨_, _, _, plainForm, by decide +kernel, headedGenuine⟩
  have other := plain.2.2.2.2.2.2.2 shouted numbers 1 (.inr rfl) plainForm.octets shoutedForm
  exact ⟨accepted, other.trans accepted⟩

end HolderGate.Auth
