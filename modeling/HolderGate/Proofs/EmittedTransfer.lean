import HolderGate.Chain.Event
import HolderGate.Crypto.Keccak
import HolderGate.Proofs.WordLayout

/-! The logs by which contracts tell of transfers. A log says by the digest of a signature what it is of, gives the
endpoints and whatever else is indexed as topics, and the rest as its data. The transfer is read back from it. -/
namespace HolderGate.Chain
open Crypto

inductive Emitted where
  | erc20 (sender receiver : Address) (amount : Word)
  | erc721 (sender receiver : Address) (id : Word)
  | erc1155 (operator sender receiver : Address) (id amount : Word)
  | erc1155Batch (operator sender receiver : Address) (ids amounts : List Word)
  deriving DecidableEq, Repr

namespace Emitted

def signature : Emitted → String
  | erc20 .. | erc721 .. => "Transfer(address,address,uint256)"
  | erc1155 .. => "TransferSingle(address,address,address,uint256,uint256)"
  | erc1155Batch .. => "TransferBatch(address,address,address,uint256[],uint256[])"

def hash (signature : String) : Word := BitVec.ofNat 256 (ofBigEndian (Keccak.digest (utf8 signature)))

def padded (a : Address) : Word := a.setWidth 256

def indexed : Emitted → List Word
  | erc20 sender receiver _ => [padded sender, padded receiver]
  | erc721 sender receiver id => [padded sender, padded receiver, id]
  | erc1155 operator sender receiver _ _ => [padded operator, padded sender, padded receiver]
  | erc1155Batch operator sender receiver _ _ => [padded operator, padded sender, padded receiver]

def words : Emitted → List Word
  | erc20 _ _ amount => [amount]
  | erc721 .. => []
  | erc1155 _ _ _ id amount => [id, amount]
  | erc1155Batch _ _ _ ids amounts => Abi.arranged [ids, amounts]

def topics (t : Emitted) : List Word := hash t.signature :: t.indexed

def data (t : Emitted) : Bytes := Abi.layout t.words

def event : Emitted → Except DecodeError Event
  | erc20 sender receiver amount => .ok (.erc20 sender receiver amount)
  | erc721 sender receiver id => .ok (.erc721 sender receiver id)
  | erc1155 _ sender receiver id amount => .ok (.erc1155 sender receiver id amount)
  | erc1155Batch _ sender receiver ids amounts =>
    if ids.length = amounts.length then .ok (.erc1155Batch sender receiver ids amounts)
    else .error (.batchLength ids.length amounts.length)

variable {words : List Word} {w : Word}

theorem transferHash : hash "Transfer(address,address,uint256)" = transferTopic := by decide +kernel

theorem singleHash : hash "TransferSingle(address,address,address,uint256,uint256)" = transferSingleTopic := by
  decide +kernel

theorem batchHash : hash "TransferBatch(address,address,address,uint256[],uint256[])" = transferBatchTopic := by
  decide +kernel

theorem topicsDiffer : transferSingleTopic ≠ transferTopic ∧ transferBatchTopic ≠ transferTopic ∧
    transferBatchTopic ≠ transferSingleTopic := by decide

@[simp] theorem addressPadded (a : Address) : Abi.address (padded a) = a := by
  rw [Abi.address, padded, BitVec.setWidth_setWidth_of_le a (by decide), BitVec.setWidth_eq]

theorem firstWord : Abi.wordAt? (Abi.layout (w :: words)) 0 = some w := Abi.wordRead (k := 0)

theorem secondWord {first : Word} : Abi.wordAt? (Abi.layout (first :: w :: words)) 32 = some w := Abi.wordRead (k := 1)

/-- The log of a transfer is read as that transfer. Of a batch whose arrays differ in length the lengths are told.
No log has as many octets of data as a word can count. -/
theorem decodeEmitted (t : Emitted) (fits : t.data.length < Word.limit) : Event.decode t.topics t.data = t.event := by
  obtain ⟨single, batch, other⟩ := topicsDiffer
  cases t with
  | erc20 sender receiver amount =>
    simp only [topics, signature, transferHash, indexed, data, Emitted.words, Event.decode, if_true, firstWord,
      Event.orLayout, addressPadded]
    rfl
  | erc721 sender receiver id =>
    simp only [topics, signature, transferHash, indexed, Event.decode, if_true, addressPadded]
    rfl
  | erc1155 operator sender receiver id amount =>
    simp only [topics, signature, singleHash, indexed, data, Emitted.words, Event.decode, single, if_false, if_true,
      Event.decodeMulti, firstWord, secondWord, Event.orLayout, addressPadded]
    rfl
  | erc1155Batch operator sender receiver ids amounts =>
    have first : Abi.array? (Abi.layout (Abi.arranged [ids, amounts])) 0 = some ids := Abi.arrayRead fits rfl
    have second : Abi.array? (Abi.layout (Abi.arranged [ids, amounts])) 1 = some amounts := Abi.arrayRead fits rfl
    simp only [topics, signature, batchHash, indexed, data, Emitted.words, Event.decode, batch, other, if_false,
      if_true, Event.decodeMulti, first, second, Event.orLayout, addressPadded]
    rfl

def parcel : Emitted := .erc1155Batch 7 8 9 [1, 2, 3] [4, 5, 6]

def lopsided : Emitted := .erc1155Batch 7 8 9 [1, 2, 3] [4, 5]

theorem decodeEmittedBatches : parcel.data.length < Word.limit ∧ lopsided.data.length < Word.limit ∧
    Event.decode parcel.topics parcel.data = .ok (.erc1155Batch 8 9 [1, 2, 3] [4, 5, 6]) ∧
    Event.decode lopsided.topics lopsided.data = .error (.batchLength 3 2) := by
  have parcelFits : parcel.data.length < Word.limit := by
    rw [data, Abi.layoutLength]
    decide
  have lopsidedFits : lopsided.data.length < Word.limit := by
    rw [data, Abi.layoutLength]
    decide
  exact ⟨parcelFits, lopsidedFits, decodeEmitted parcel parcelFits, decodeEmitted lopsided lopsidedFits⟩

end Emitted
end HolderGate.Chain
