import HolderGate.Chain.Abi

/-! Transfer events of three token standards, and the logs that carry them. -/
namespace HolderGate.Chain

inductive Event where
  | erc20 (sender receiver : Address) (amount : Word)
  | erc721 (sender receiver : Address) (id : Word)
  | erc1155 (sender receiver : Address) (id amount : Word)
  | erc1155Batch (sender receiver : Address) (ids amounts : List Word)
  | unknown (topic : Option Word)
  deriving DecidableEq, Repr

def transferTopic : Word := 0xddf252ad1be2c89b69c2b068fc378daa952ba7f163c4a11628f55a4df523b3ef

def transferSingleTopic : Word := 0xc3d58168c5ae7397731d063d5bbf3d657854427343f4c083240f7aacaa2d0f62

def transferBatchTopic : Word := 0x4a39dc06d4c0dbc64b70af90fd698a233a518aa5d07e595d983b8c0526c8f7fb

def watchedTopics : List Word := [transferTopic, transferSingleTopic, transferBatchTopic]

inductive DecodeError where
  | topicCount (n : Nat)
  | layout (detail : String)
  | batchLength (ids amounts : Nat)
  | pending
  deriving DecidableEq, Repr

def DecodeError.message : DecodeError → String
  | topicCount n => "Transfer log with " ++ Text.Numeral.decimal n ++ " topics"
  | layout detail => "ABI decode failed: " ++ detail
  | batchLength ids amounts =>
    "batch has " ++ Text.Numeral.decimal ids ++ " ids but " ++ Text.Numeral.decimal amounts ++ " values"
  | pending => "log is not mined (no block number)"

namespace Event

def orLayout {α : Type} (what : String) : Option α → Except DecodeError α
  | some v => .ok v
  | none => .error (.layout what)

def decodeMulti (topics : List Word) (body : Address → Address → Except DecodeError Event) :
    Except DecodeError Event :=
  match topics with
  | [_, _, sender, receiver] => body (Abi.address sender) (Abi.address receiver)
  | _ => .error (.layout "a multi-token transfer has four topics")

def decode (topics : List Word) (data : Bytes) : Except DecodeError Event :=
  match topics with
  | [] => .ok (.unknown none)
  | kind :: indexed =>
    if kind = transferTopic then
      match indexed with
      | [sender, receiver] => do
        let amount ← orLayout "the amount is cut short" (Abi.wordAt? data 0)
        .ok (.erc20 (Abi.address sender) (Abi.address receiver) amount)
      | [sender, receiver, id] => .ok (.erc721 (Abi.address sender) (Abi.address receiver) id)
      | _ => .error (.topicCount topics.length)
    else if kind = transferSingleTopic then
      decodeMulti topics (fun sender receiver => do
        let id ← orLayout "the identifier is cut short" (Abi.wordAt? data 0)
        let amount ← orLayout "the amount is cut short" (Abi.wordAt? data 32)
        .ok (.erc1155 sender receiver id amount))
    else if kind = transferBatchTopic then
      decodeMulti topics (fun sender receiver => do
        let ids ← orLayout "the identifiers are cut short" (Abi.array? data 0)
        let amounts ← orLayout "the amounts are cut short" (Abi.array? data 1)
        if ids.length = amounts.length then .ok (.erc1155Batch sender receiver ids amounts)
        else .error (.batchLength ids.length amounts.length))
    else .ok (.unknown (some kind))

def endpoints? : Event → Option (Address × Address)
  | erc20 sender receiver _ => some (sender, receiver)
  | erc721 sender receiver _ => some (sender, receiver)
  | erc1155 sender receiver _ _ => some (sender, receiver)
  | erc1155Batch sender receiver _ _ => some (sender, receiver)
  | unknown _ => none

end Event

structure Log where
  contract : Address
  topics : List Word
  data : Bytes
  block : Option UInt64
  transaction : Option Word
  removed : Bool
  deriving DecidableEq, Repr

structure Mined where
  contract : Address
  block : UInt64
  transaction : Option Word
  event : Event
  deriving DecidableEq, Repr

def Log.mined (log : Log) : Except DecodeError Mined :=
  match log.block with
  | none => .error .pending
  | some block => do
    let event ← Event.decode log.topics log.data
    .ok ⟨log.contract, block, log.transaction, event⟩

end HolderGate.Chain
