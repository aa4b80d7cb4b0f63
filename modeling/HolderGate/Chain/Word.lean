import HolderGate.Json.Codec

/-! Unsigned words of 256 bits and their texts. -/
namespace HolderGate.Chain

abbrev Word := BitVec 256

namespace Word

def limit : Nat := Nat.pow 2 256

def text (w : Word) : String := Text.Numeral.hexadecimal w.toNat

def base : List Char → Nat × List Char
  | '0' :: c :: rest =>
    if c = 'x' ∨ c = 'X' then (16, rest)
    else if c = 'o' ∨ c = 'O' then (8, rest)
    else if c = 'b' ∨ c = 'B' then (2, rest)
    else (10, '0' :: c :: rest)
  | cs => (10, cs)

def parse? (s : String) : Option Word :=
  let (base, digits) := base s.toList
  ((Text.Numeral.digits? base (digits.filter (· != '_'))).filter (· < limit)).map (BitVec.ofNat 256)

def saturatingAdd (a b : Word) : Word := BitVec.ofNat 256 (min (a.toNat + b.toNat) (limit - 1))

def clamp (w : Word) : UInt64 := UInt64.ofNat (min w.toNat (UInt64.size - 1))

def octets (w : Word) : Bytes := bigEndian 32 w.toNat

def codec : Json.Codec Word where
  read := do
    match (← Json.peek) with
    | none => Json.fail .truncated
    | some b =>
      if b = 0x22 then Json.such Json.string parse?
      else if Json.isDigit b then
        match (← Json.number true) with
        | .natural n => pure (BitVec.ofNat 256 n)
        | _ => Json.fail .mismatched
      else Json.otherType b
  write := fun w => Json.quoted w.text

end Word
end HolderGate.Chain
