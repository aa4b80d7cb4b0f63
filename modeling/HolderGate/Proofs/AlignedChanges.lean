import Mathlib.Algebra.GroupWithZero.Nat
import Mathlib.Data.List.Basic
import HolderGate.Proofs.Except
import HolderGate.Proofs.HoldingsChange
import HolderGate.Proofs.WordLayout

/-! What topics and data are read as, whatever they are. The endpoints of a transfer are the last octets of two of its
topics, and what it changes for the one endpoint and for the other is of the same tokens by the same amounts. -/
namespace HolderGate
open Chain Access

theorem bigEndianDrop (k width n : Nat) : (bigEndian (k + width) n).drop k = bigEndian width n := by
  induction width generalizing n with
  | zero => exact List.drop_eq_nil_of_le (Nat.le_of_eq (bigEndianLength k n))
  | succ width ih =>
    have within : k ≤ (bigEndian (k + width) (n / 256)).length := by
      rw [bigEndianLength]
      exact Nat.le_add_right k width
    rw [← Nat.add_assoc, bigEndian, List.drop_append_of_le_length within, ih, bigEndian]

namespace Chain

def Address.ofTopic (topic : Word) : Address := .ofOctets (topic.octets.drop 12)

theorem Address.ofTopicLow (topic : Word) : Abi.address topic = .ofTopic topic := by
  have low : topic.octets.drop 12 = bigEndian 20 topic.toNat := bigEndianDrop 12 20 _
  have width : Nat.pow 256 20 = 2 ^ 160 := by decide
  rw [ofTopic, ofOctets, low, ofBigEndianBigEndian]
  apply BitVec.eq_of_toNat_eq
  rw [Abi.address, BitVec.toNat_setWidth, BitVec.toNat_ofNat, width, Nat.mod_mod]

namespace Event

inductive Tells : List Word → Bytes → Event → Prop where
  | foreign {topics data} (unwatched : ∀ kind ∈ topics.head?, kind ∉ watchedTopics) :
      Tells topics data (.unknown topics.head?)
  | erc20 {sender receiver data w} (amount : Abi.wordAt? data 0 = some w) :
      Tells [transferTopic, sender, receiver] data (.erc20 (Abi.address sender) (Abi.address receiver) w)
  | erc721 {sender receiver id data} :
      Tells [transferTopic, sender, receiver, id] data (.erc721 (Abi.address sender) (Abi.address receiver) id)
  | erc1155 {operator sender receiver data i w} (id : Abi.wordAt? data 0 = some i)
      (amount : Abi.wordAt? data 32 = some w) :
      Tells [transferSingleTopic, operator, sender, receiver] data
        (.erc1155 (Abi.address sender) (Abi.address receiver) i w)
  | erc1155Batch {operator sender receiver data is ws} (ids : Abi.array? data 0 = some is)
      (amounts : Abi.array? data 1 = some ws) (paired : is.length = ws.length) :
      Tells [transferBatchTopic, operator, sender, receiver] data
        (.erc1155Batch (Abi.address sender) (Abi.address receiver) is ws)

def senderPlace : Event → Nat
  | .erc20 .. | .erc721 .. => 1
  | .erc1155 .. | .erc1155Batch .. => 2
  | .unknown _ => 0

variable {topics indexed : List Word} {data : Bytes} {event : Event} {kind : Word} {n : Nat} {α : Type} {what : String}
  {read : Option α} {v : α}

theorem orLayoutOk : orLayout what read = .ok v ↔ read = some v := by
  cases read <;> simp [orLayout]

theorem orLayoutCount {rest : α → Except DecodeError Event} (none : ∀ v, rest v ≠ .error (.topicCount n)) :
    (orLayout what read >>= rest) ≠ .error (.topicCount n) := by
  cases read with
  | none => simp [orLayout, bind, Except.bind]
  | some v => exact none v

theorem decodeMultiOk {body : Address → Address → Except DecodeError Event} :
    decodeMulti (kind :: indexed) body = .ok event ↔ ∃ operator sender receiver,
      indexed = [operator, sender, receiver] ∧ body (Abi.address sender) (Abi.address receiver) = .ok event := by
  unfold decodeMulti
  split
  next operator sender receiver shape =>
    cases shape
    simp [and_assoc]
  next other =>
    refine iff_of_false (by simp) ?_
    rintro ⟨operator, sender, receiver, rfl, _⟩
    exact other _ _ _ _ rfl

theorem decodeMultiCount {body : Address → Address → Except DecodeError Event}
    (none : ∀ sender receiver, body sender receiver ≠ .error (.topicCount n)) :
    decodeMulti topics body ≠ .error (.topicCount n) := by
  unfold decodeMulti
  split
  next => exact none _ _
  next => simp

theorem unwatchedIff : kind ∉ watchedTopics ↔
    kind ≠ transferTopic ∧ kind ≠ transferSingleTopic ∧ kind ≠ transferBatchTopic := by
  simp [watchedTopics]

theorem tellsOfDecode (decoded : decode topics data = .ok event) : Tells topics data event := by
  unfold decode at decoded
  split at decoded
  next =>
    cases decoded
    exact .foreign (by simp)
  next kind indexed =>
    split at decoded
    next transfer =>
      subst transfer
      split at decoded
      next sender receiver =>
        obtain ⟨w, amount, decoded⟩ := exceptBindOk.mp decoded
        cases decoded
        exact .erc20 (orLayoutOk.mp amount)
      next sender receiver id =>
        cases decoded
        exact .erc721
      next => contradiction
    next noTransfer =>
      split at decoded
      next single =>
        obtain ⟨operator, sender, receiver, rfl, decoded⟩ := decodeMultiOk.mp decoded
        obtain ⟨i, id, decoded⟩ := exceptBindOk.mp decoded
        obtain ⟨w, amount, decoded⟩ := exceptBindOk.mp decoded
        cases decoded
        rw [single]
        exact .erc1155 (orLayoutOk.mp id) (orLayoutOk.mp amount)
      next noSingle =>
        split at decoded
        next batch =>
          obtain ⟨operator, sender, receiver, rfl, decoded⟩ := decodeMultiOk.mp decoded
          obtain ⟨is, ids, decoded⟩ := exceptBindOk.mp decoded
          obtain ⟨ws, amounts, decoded⟩ := exceptBindOk.mp decoded
          split at decoded
          next paired =>
            cases decoded
            rw [batch]
            exact .erc1155Batch (orLayoutOk.mp ids) (orLayoutOk.mp amounts) paired
          next => contradiction
        next noBatch =>
          cases decoded
          exact .foreign (by simp [unwatchedIff, noTransfer, noSingle, noBatch])

theorem decodeOfTells (tells : Tells topics data event) : decode topics data = .ok event := by
  have single : transferSingleTopic ≠ transferTopic := by decide
  have batch : transferBatchTopic ≠ transferTopic ∧ transferBatchTopic ≠ transferSingleTopic := by decide
  cases tells with
  | foreign unwatched =>
    cases topics with
    | nil => rfl
    | cons kind indexed =>
      obtain ⟨noTransfer, noSingle, noBatch⟩ := unwatchedIff.mp (unwatched kind rfl)
      simp [decode, noTransfer, noSingle, noBatch]
  | erc20 amount => simp [decode, amount, orLayout, bind, Except.bind]
  | erc721 => simp [decode]
  | erc1155 id amount =>
    simp [decode, single, decodeMulti, id, amount, orLayout, bind, Except.bind]
  | erc1155Batch ids amounts paired =>
    simp [decode, batch, decodeMulti, ids, amounts, paired, orLayout, bind, Except.bind]

theorem decodeIff : decode topics data = .ok event ↔ Tells topics data event := ⟨tellsOfDecode, decodeOfTells⟩

theorem unknownIff {topic : Option Word} : decode topics data = .ok (.unknown topic) ↔
    topic = topics.head? ∧ ∀ kind ∈ topics.head?, kind ∉ watchedTopics := by
  rw [decodeIff]
  constructor
  · intro tells
    cases tells with
    | foreign unwatched => exact ⟨rfl, unwatched⟩
  · rintro ⟨rfl, unwatched⟩
    exact .foreign unwatched

theorem tellsEndpoints (tells : Tells topics data event) (known : ∀ topic, event ≠ .unknown topic) :
    ∃ sender receiver, topics[event.senderPlace]? = some sender ∧ topics[event.senderPlace + 1]? = some receiver ∧
      event.endpoints? = some (.ofTopic sender, .ofTopic receiver) := by
  cases tells with
  | foreign => exact absurd rfl (known _)
  | erc20 | erc721 | erc1155 | erc1155Batch => exact ⟨_, _, rfl, rfl, by simp [endpoints?, Address.ofTopicLow]⟩

theorem tellsPaired {sender receiver : Address} {ids amounts : List Word}
    (tells : Tells topics data (.erc1155Batch sender receiver ids amounts)) : ids.length = amounts.length := by
  cases tells with
  | erc1155Batch _ _ paired => exact paired

theorem topicCountIff : decode topics data = .error (.topicCount n) ↔
    topics.head? = some transferTopic ∧ n = topics.length ∧ n ≠ 3 ∧ n ≠ 4 := by
  unfold decode
  split
  next => simp
  next kind indexed =>
    split
    next transfer =>
      split
      next sender receiver =>
        refine iff_of_false (orLayoutCount (by simp)) ?_
        rintro ⟨_, rfl, three, _⟩
        exact three rfl
      next sender receiver id =>
        refine iff_of_false (by simp) ?_
        rintro ⟨_, rfl, _, four⟩
        exact four rfl
      next notTwo notThree =>
        have two : indexed.length ≠ 2 := fun two => by
          obtain ⟨sender, receiver, rfl⟩ := List.length_eq_two.mp two
          exact notTwo _ _ rfl
        have three : indexed.length ≠ 3 := fun three => by
          obtain ⟨sender, receiver, id, rfl⟩ := List.length_eq_three.mp three
          exact notThree _ _ _ rfl
        simp only [Except.error.injEq, DecodeError.topicCount.injEq, List.head?_cons, transfer, true_and,
          List.length_cons, eq_comm (a := n)]
        omega
    next noTransfer =>
      refine iff_of_false ?_ (by simp [noTransfer])
      split
      next => exact decodeMultiCount fun _ _ => orLayoutCount fun _ => orLayoutCount (by simp)
      next =>
        split
        next =>
          refine decodeMultiCount fun _ _ => orLayoutCount fun _ => orLayoutCount fun _ => ?_
          split <;> simp
        next => simp

end Event
end Chain

namespace Access

structure Parcel where
  id : Word
  amount : Option Word
  deriving DecidableEq, Repr

inductive Carries : Event → List Parcel → Prop where
  | erc20 {sender receiver w} : Carries (.erc20 sender receiver w) [⟨0, some w⟩]
  | erc721 {sender receiver id} : Carries (.erc721 sender receiver id) [⟨id, none⟩]
  | erc1155 {sender receiver id w} : Carries (.erc1155 sender receiver id w) [⟨id, some w⟩]
  | erc1155Batch {sender receiver} (pairs : List (Word × Word)) :
      Carries (.erc1155Batch sender receiver (pairs.map Prod.fst) (pairs.map Prod.snd))
        (pairs.map fun pair => ⟨pair.1, some pair.2⟩)

inductive Passes : Option Word → Change → Change → Prop where
  | amount {w : Word} {x : UInt64} (least : x.toNat = min w.toNat (2 ^ 64 - 1)) :
      Passes (some w) (.decrease x) (.increase x)
  | whole : Passes none (.set 0) (.set 1)

structure Sides (contract : Address) (parcels : List Parcel) (given taken : List Delta) : Prop where
  givenLength : given.length = parcels.length
  takenLength : taken.length = parcels.length
  each : ∀ (i : Nat) (parcel : Parcel), parcels[i]? = some parcel → ∃ less more, Passes parcel.amount less more ∧
    given[i]? = some ⟨⟨contract, parcel.id⟩, less⟩ ∧ taken[i]? = some ⟨⟨contract, parcel.id⟩, more⟩

structure Aligned (topics : List Word) (event : Event) : Prop where
  endpoints : ∃ sender receiver, topics[event.senderPlace]? = some sender ∧
    topics[event.senderPlace + 1]? = some receiver ∧
    event.endpoints? = some (.ofTopic sender, .ofTopic receiver)
  paired : ∀ sender receiver ids amounts, event = .erc1155Batch sender receiver ids amounts →
    ids.length = amounts.length
  sides : ∃ parcels, Carries event parcels ∧
    ∀ contract, Sides contract parcels (changes contract event).1 (changes contract event).2

variable {contract : Address} {topics : List Word} {data : Bytes} {event : Event}

theorem passesMoved (w : Word) : Passes (some w) (.decrease w.clamp) (.increase w.clamp) := .amount (clampNat w)

theorem sidesOne {parcel : Parcel} {less more : Change} (passes : Passes parcel.amount less more) :
    Sides contract [parcel] [⟨⟨contract, parcel.id⟩, less⟩] [⟨⟨contract, parcel.id⟩, more⟩] where
  givenLength := rfl
  takenLength := rfl
  each := by
    intro i found there
    obtain ⟨rfl, rfl⟩ : i = 0 ∧ parcel = found := by simpa [List.getElem?_singleton] using there
    exact ⟨less, more, passes, rfl, rfl⟩

theorem sidesMany (pairs : List (Word × Word)) :
    Sides contract (pairs.map fun pair => ⟨pair.1, some pair.2⟩)
      (pairs.map fun pair => (moved ⟨contract, pair.1⟩ pair.2).1)
      (pairs.map fun pair => (moved ⟨contract, pair.1⟩ pair.2).2) where
  givenLength := by simp
  takenLength := by simp
  each := by
    intro i parcel found
    rw [List.getElem?_map, Option.map_eq_some_iff] at found
    obtain ⟨pair, found, rfl⟩ := found
    exact ⟨_, _, passesMoved pair.2, by simp [found, moved], by simp [found, moved]⟩

theorem carriesSides {parcels : List Parcel} (carries : Carries event parcels) (contract : Address) :
    Sides contract parcels (changes contract event).1 (changes contract event).2 := by
  cases carries with
  | @erc20 _ _ w => exact sidesOne (passesMoved w)
  | erc721 => exact sidesOne .whole
  | @erc1155 _ _ _ w => exact sidesOne (passesMoved w)
  | @erc1155Batch sender receiver pairs =>
    have whole : (pairs.map Prod.fst).zip (pairs.map Prod.snd) = pairs := (List.zip_of_prod rfl rfl).symm
    simp only [changes, whole, List.unzip_eq_map, List.map_map]
    exact sidesMany pairs

theorem carriesPaired {sender receiver : Address} {ids amounts : List Word} (paired : ids.length = amounts.length) :
    ∃ parcels, Carries (.erc1155Batch sender receiver ids amounts) parcels := by
  have first : (ids.zip amounts).map Prod.fst = ids := List.map_fst_zip (Nat.le_of_eq paired)
  have second : (ids.zip amounts).map Prod.snd = amounts := List.map_snd_zip (Nat.le_of_eq paired.symm)
  have carries := @Carries.erc1155Batch sender receiver (ids.zip amounts)
  rw [first, second] at carries
  exact ⟨_, carries⟩

theorem tellsCarries (tells : Event.Tells topics data event) (known : ∀ topic, event ≠ .unknown topic) :
    ∃ parcels, Carries event parcels := by
  cases tells with
  | foreign => exact absurd rfl (known _)
  | erc20 => exact ⟨_, .erc20⟩
  | erc721 => exact ⟨_, .erc721⟩
  | erc1155 => exact ⟨_, .erc1155⟩
  | erc1155Batch _ _ paired => exact carriesPaired paired

/-- What is not watched is unknown, and a plain transfer is refused for a count of topics that no standard has. Whatever
else is read at all is aligned. -/
theorem decodedAligned (topics : List Word) (data : Bytes) :
    (∀ topic, Event.decode topics data = .ok (.unknown topic) ↔
      topic = topics.head? ∧ ∀ kind ∈ topics.head?, kind ∉ watchedTopics) ∧
    (∀ n, Event.decode topics data = .error (.topicCount n) ↔
      topics.head? = some transferTopic ∧ n = topics.length ∧ n ≠ 3 ∧ n ≠ 4) ∧
    ∀ event, Event.decode topics data = .ok event → (∀ topic, event ≠ .unknown topic) → Aligned topics event := by
  refine ⟨fun _ => Event.unknownIff, fun _ => Event.topicCountIff, fun event decoded known => ?_⟩
  have tells := Event.decodeIff.mp decoded
  obtain ⟨parcels, carries⟩ := tellsCarries tells known
  exact {
    endpoints := Event.tellsEndpoints tells known
    paired := fun _ _ _ _ batch => Event.tellsPaired (batch ▸ tells)
    sides := ⟨parcels, carries, carriesSides carries⟩ }

-- The topic of the sender holds more than an address, and the first amount is one that 64 bits cannot hold.
def crate : List Word := [transferBatchTopic, 7, 0xff0000000000000000000000000000000000000008, 9]

def crateData : Bytes := Abi.layout (Abi.arranged [[3, 3], [0x10000000000000000, 1]])

def crateEvent : Event := .erc1155Batch 8 9 [3, 3] [0x10000000000000000, 1]

theorem decodedAlignedCrate : Event.decode crate crateData = .ok crateEvent ∧
    (∀ topic, crateEvent ≠ .unknown topic) ∧ Aligned crate crateEvent := by
  have fits : crateData.length < Word.limit := by
    rw [crateData, Abi.layoutLength]
    decide
  have ids : Abi.array? crateData 0 = some [3, 3] := Abi.arrayRead fits rfl
  have amounts : Abi.array? crateData 1 = some [0x10000000000000000, 1] := Abi.arrayRead fits rfl
  have sender : Abi.address 0xff0000000000000000000000000000000000000008 = 8 := by decide
  have receiver : Abi.address 9 = 9 := by decide
  have decoded : Event.decode crate crateData = .ok crateEvent := by
    rw [Event.decodeIff, crateEvent, ← sender, ← receiver]
    exact .erc1155Batch ids amounts rfl
  have known : ∀ topic, crateEvent ≠ .unknown topic := by simp [crateEvent]
  exact ⟨decoded, known, (decodedAligned crate crateData).2.2 crateEvent decoded known⟩

end Access
end HolderGate
