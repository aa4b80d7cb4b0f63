import HolderGate.Json.Codec

/-! Account addresses: twenty octets, written as hexadecimal digits in lower case after `0x`. -/
namespace HolderGate.Chain

abbrev Address := BitVec 160

-- By name, so that every module decides by the same instance whether an address is among others.
instance : LawfulBEq Address := inferInstance

namespace Address

def zero : Address := 0

def octets (a : Address) : Bytes := bigEndian 20 a.toNat

def ofOctets (octets : Bytes) : Address := BitVec.ofNat 160 (ofBigEndian octets)

def text (a : Address) : String := Text.Hex.marked a.octets

def parse? (s : String) : Option Address :=
  let digits := Text.Hex.unmark s.toList
  if digits.length = 40 then (Text.Numeral.digits? 16 digits).map (BitVec.ofNat 160) else none

def octetsFrom : Nat → Bool → Json.Reader Bytes
  | 0, _ => pure []
  | wanted + 1, first => do
    if ← Json.another first then
      let octet ← Json.natural 256
      let rest ← octetsFrom wanted false
      pure (UInt8.ofNat octet :: rest)
    else Json.fail .mismatched

def noMore : Json.Reader Unit := fun input =>
  let more : Json.Reader Bool := do
    if ← Json.another false then
      let _ ← Json.natural 256
      pure true
    else pure false
  match more input with
  | .ok (true, rest) => .error ⟨.mismatched, rest⟩
  | .ok (false, rest) => .ok ((), rest)
  | .error failure => .ok ((), failure.rest)

def codec : Json.Codec Address where
  read := do
    match (← Json.peek) with
    | none => Json.fail .truncated
    | some b =>
      if b = 0x22 then Json.such Json.string parse?
      else if b = 0x5B then do
        Json.advance
        let octets ← octetsFrom 20 true
        noMore
        Json.closeArray
        pure (ofOctets octets)
      else Json.otherType b
  write := fun a => Json.quoted a.text

end Address
end HolderGate.Chain
