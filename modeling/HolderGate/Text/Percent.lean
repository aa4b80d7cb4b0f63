import HolderGate.Text.Hex

/-! Percent encoding: an octet as a percent sign and two hexadecimal digits. -/
namespace HolderGate.Text.Percent

def hexOctet? (high low : UInt8) : Option UInt8 := do
  let h ← Hex.hexValue? (Char.ofNat high.toNat)
  let l ← Hex.hexValue? (Char.ofNat low.toNat)
  some (UInt8.ofNat (16 * h + l))

def decode : Bytes → Bytes
  | [] => []
  | b :: rest =>
    if b = 0x25 then
      match rest with
      | high :: low :: more =>
        match hexOctet? high low with
        | some octet => octet :: decode more
        | none => b :: decode (high :: low :: more)
      | rest => b :: rest
    else b :: decode rest

end HolderGate.Text.Percent
