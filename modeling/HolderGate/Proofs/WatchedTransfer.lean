import HolderGate.Access.Watch
import HolderGate.Proofs.AlignedChanges
import HolderGate.Proofs.EmittedTransfer
import HolderGate.Proofs.SortedMap
import HolderGate.Proofs.TransferReport

/-! The subscription to what the features are about. Its logs are those of the contracts of the features and of the
kinds that are read, and each transfer of a token that a feature asks for is among them and tells of that token. -/
namespace HolderGate

namespace Chain

def Emitted.Paired : Emitted → Prop
  | .erc1155Batch _ _ _ ids amounts => ids.length = amounts.length
  | .erc20 .. | .erc721 .. | .erc1155 .. => True

theorem Emitted.eventPaired {t : Emitted} (paired : t.Paired) : ∃ event, t.event = .ok event := by
  cases t with
  | erc20 | erc721 | erc1155 => exact ⟨_, rfl⟩
  | erc1155Batch => exact ⟨_, if_pos paired⟩

theorem Emitted.kindWatched (t : Emitted) : hash t.signature ∈ watchedTopics := by
  cases t with
  | erc20 | erc721 => simp [signature, transferHash, watchedTopics]
  | erc1155 => simp [signature, singleHash, watchedTopics]
  | erc1155Batch => simp [signature, batchHash, watchedTopics]

theorem Emitted.tellsEvent {t : Emitted} {event : Event} (told : t.event = .ok event)
    (fits : t.data.length < Word.limit) : Event.Tells t.topics t.data event := by
  cases t with
  | erc20 sender receiver amount =>
    cases told
    have tells : Event.Tells [transferTopic, padded sender, padded receiver] (Abi.layout [amount]) _ :=
      .erc20 firstWord
    simpa only [topics, signature, transferHash, indexed, data, Emitted.words, addressPadded] using tells
  | erc721 sender receiver id =>
    cases told
    have tells : Event.Tells [transferTopic, padded sender, padded receiver, id] (Abi.layout []) _ := .erc721
    simpa only [topics, signature, transferHash, indexed, data, Emitted.words, addressPadded] using tells
  | erc1155 operator sender receiver id amount =>
    cases told
    have tells : Event.Tells [transferSingleTopic, padded operator, padded sender, padded receiver]
        (Abi.layout [id, amount]) _ := .erc1155 firstWord secondWord
    simpa only [topics, signature, singleHash, indexed, data, Emitted.words, addressPadded] using tells
  | erc1155Batch operator sender receiver ids amounts =>
    simp only [Emitted.event] at told
    split at told
    next paired =>
      cases told
      have first : Abi.array? (Abi.layout (Abi.arranged [ids, amounts])) 0 = some ids := Abi.arrayRead fits rfl
      have second : Abi.array? (Abi.layout (Abi.arranged [ids, amounts])) 1 = some amounts := Abi.arrayRead fits rfl
      have tells : Event.Tells [transferBatchTopic, padded operator, padded sender, padded receiver]
          (Abi.layout (Abi.arranged [ids, amounts])) _ := .erc1155Batch first second paired
      simpa only [topics, signature, batchHash, indexed, data, Emitted.words, addressPadded] using tells
    next => cases told

end Chain

namespace Access
open Chain

variable {features : List Feature} {f : Feature} {contract : Address} {fromBlock block : UInt64} {log : Log}

def Concerns (f : Feature) : Emitted → Prop
  | .erc20 .. => f.standard = .erc20
  | .erc721 _ _ id => f.standard = .erc721 ∧ id = f.required.id
  | .erc1155 _ _ _ id _ => f.standard = .erc1155 ∧ id = f.required.id
  | .erc1155Batch _ _ _ ids _ => f.standard = .erc1155 ∧ f.required.id ∈ ids

def Touches (f : Feature) (event : Event) : Prop :=
  f.token ∈ (changes f.required.contract event).1.map Delta.token ∧
    f.token ∈ (changes f.required.contract event).2.map Delta.token

theorem watchedIff : contract ∈ watched features ↔ ∃ f ∈ features, f.required.contract = contract := by
  rw [watched, SortedMap.keysOfList]
  simp

theorem admitsIff (some : features ≠ []) : (Filter.ofFeatures features fromBlock).admits log block = true ↔
    fromBlock ≤ block ∧ (∃ f ∈ features, f.required.contract = log.contract) ∧
      ∃ kind ∈ log.topics.head?, kind ∈ watchedTopics := by
  obtain ⟨f, first⟩ := List.exists_mem_of_ne_nil features some
  have contracts : (watched features).isEmpty = false := by
    rw [List.isEmpty_eq_false_iff_exists_mem]
    exact ⟨_, watchedIff.mpr ⟨f, first, rfl⟩⟩
  unfold Filter.admits Filter.ofFeatures
  cases log.topics <;> simp [contracts, watchedIff, and_assoc]

theorem touchesTold {t : Emitted} {event : Event} (concerns : Concerns f t) (told : t.event = .ok event) :
    Touches f event := by
  obtain ⟨given, taken⟩ := changesTokens ⟨f.required.contract, 0, none, event⟩
  suffices among : f.token ∈ Mined.tokens ⟨f.required.contract, 0, none, event⟩ from
    ⟨given.symm ▸ among, taken.symm ▸ among⟩
  cases t with
  | erc20 sender receiver amount =>
    cases told
    have standard : f.standard = .erc20 := concerns
    simp [Mined.tokens, Mined.moves, Feature.token, standard]
  | erc721 sender receiver id =>
    cases told
    obtain ⟨standard, rfl⟩ := concerns
    simp [Mined.tokens, Mined.moves, Feature.token, standard]
  | erc1155 operator sender receiver id amount =>
    cases told
    obtain ⟨standard, rfl⟩ := concerns
    simp [Mined.tokens, Mined.moves, Feature.token, standard]
  | erc1155Batch operator sender receiver ids amounts =>
    obtain ⟨standard, among⟩ := concerns
    simp only [Emitted.event] at told
    split at told
    next paired =>
      cases told
      have whole : (ids.zip amounts).map Prod.fst = ids := List.map_fst_zip (Nat.le_of_eq paired)
      rw [← whole] at among
      obtain ⟨pair, member, same⟩ := List.mem_map.mp among
      have token : f.token = ⟨f.required.contract, pair.1⟩ := by
        rw [same]
        simp [Feature.token, standard]
      simp only [Mined.tokens, Mined.moves, List.map_map, token]
      exact List.mem_map.mpr ⟨pair, member, rfl⟩
    next => nomatch told

/-- The logs of a subscription are those of the contracts of the features and of the kinds that are read, and none of
them is unknown. Each transfer of what a feature is about is among them, and tells both sides of its token. -/
theorem nothingMissed {features : List Feature} (some : features ≠ []) (fromBlock : UInt64) :
    (∀ log block, fromBlock ≤ block → ((Filter.ofFeatures features fromBlock).admits log block = true ↔
      (∃ f ∈ features, f.required.contract = log.contract) ∧ ∃ kind ∈ log.topics.head?, kind ∈ watchedTopics)) ∧
    (∀ log block, (Filter.ofFeatures features fromBlock).admits log block = true →
      ∀ topic, Event.decode log.topics log.data ≠ .ok (.unknown topic)) ∧
    ∀ f ∈ features, ∀ t, Concerns f t → t.data.length < Word.limit → ∀ log block, fromBlock ≤ block →
      log.contract = f.required.contract → log.topics = t.topics → log.data = t.data →
        (Filter.ofFeatures features fromBlock).admits log block = true ∧
        (t.Paired → ∃ event, t.event = .ok event ∧ Event.decode log.topics log.data = .ok event ∧ Touches f event) := by
  refine ⟨fun log block since => ?_, fun log block admitted topic unknown => ?_, ?_⟩
  · rw [admitsIff some]
    exact and_iff_right since
  · obtain ⟨_, _, kind, first, watched⟩ := (admitsIff some).mp admitted
    exact (Event.unknownIff.mp unknown).2 kind first watched
  · intro f member t concerns fits log block since contract topics data
    refine ⟨(admitsIff some).mpr ⟨since, ⟨f, member, contract.symm⟩, ?_⟩, fun paired => ?_⟩
    · rw [topics]
      exact ⟨Emitted.hash t.signature, rfl, t.kindWatched⟩
    · obtain ⟨event, told⟩ := Emitted.eventPaired paired
      rw [topics, data]
      exact ⟨event, told, Event.decodeIff.mpr (Emitted.tellsEvent told fits), touchesTold concerns told⟩

def voucher : Feature := ⟨"voucher", ⟨0x11, 5⟩, 10, .erc20⟩

def poster : Feature := ⟨"poster", ⟨0x22, 3⟩, 1, .erc1155⟩

def shipment : Emitted := .erc1155Batch 7 8 9 [1, 3] [2, 0x10000000000000000]

def shipped : Log := ⟨0x22, shipment.topics, shipment.data, some 12, none, false⟩

theorem nothingMissedShipment : [voucher, poster] ≠ [] ∧ Concerns poster shipment ∧
    shipment.data.length < Word.limit ∧ shipment.Paired ∧
    (Filter.ofFeatures [voucher, poster] 10).admits shipped 12 = true ∧
    ∃ event, shipment.event = .ok event ∧ Event.decode shipped.topics shipped.data = .ok event ∧
      Touches poster event := by
  have some : [voucher, poster] ≠ [] := List.cons_ne_nil _ _
  have concerns : Concerns poster shipment := ⟨rfl, by decide⟩
  have fits : shipment.data.length < Word.limit := by
    rw [Emitted.data, Abi.layoutLength]
    decide
  have paired : shipment.Paired := rfl
  obtain ⟨admitted, tells⟩ := (nothingMissed some 10).2.2 poster (by simp) shipment concerns fits shipped 12 (by decide)
    rfl rfl rfl
  exact ⟨some, concerns, fits, paired, admitted, tells paired⟩

end Access
end HolderGate
