import HolderGate.Chain.Address
import HolderGate.Chain.Word

/-! The layout of values in the data of a log: words of 32 octets, big-endian, with arrays of words
behind the head of the data at an offset that the head gives. -/
namespace HolderGate.Chain.Abi

def wordAt? (data : Bytes) (offset : Nat) : Option Word :=
  let octets := (data.drop offset).take 32
  if octets.length = 32 then some (BitVec.ofNat 256 (ofBigEndian octets)) else none

def words? (data : Bytes) (count : Nat) : Option (List Word) :=
  if 32 * count ≤ data.length then
    some ((chunks 32 (data.take (32 * count))).map (fun octets => BitVec.ofNat 256 (ofBigEndian octets)))
  else none

def array? (data : Bytes) (index : Nat) : Option (List Word) := do
  let offset ← wordAt? data (32 * index)
  if offset.toNat ≤ data.length then
    let length ← wordAt? data offset.toNat
    words? (data.drop (offset.toNat + 32)) length.toNat
  else none

def address (topic : Word) : Address := topic.setWidth 160

end HolderGate.Chain.Abi
