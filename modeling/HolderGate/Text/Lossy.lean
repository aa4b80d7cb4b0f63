import HolderGate.Bytes

/-! Text of octets that need not be UTF-8. Where they are not, the longest stretch that could
have begun a character gives one replacement character. -/
namespace HolderGate.Text.Lossy

def replacement : Char := '\ufffd'

def lead? (b : UInt8) : Option (Nat × UInt8 × UInt8) :=
  if 0xC2 ≤ b ∧ b ≤ 0xDF then some (1, 0x80, 0xBF)
  else if b = 0xE0 then some (2, 0xA0, 0xBF)
  else if b = 0xED then some (2, 0x80, 0x9F)
  else if 0xE1 ≤ b ∧ b ≤ 0xEF then some (2, 0x80, 0xBF)
  else if b = 0xF0 then some (3, 0x90, 0xBF)
  else if 0xF1 ≤ b ∧ b ≤ 0xF3 then some (3, 0x80, 0xBF)
  else if b = 0xF4 then some (3, 0x80, 0x8F)
  else none

def leadBits (following : Nat) (b : UInt8) : Nat := b.toNat % Nat.pow 2 (6 - following)

structure Pending where
  following : Nat
  low : UInt8
  high : UInt8
  bits : Nat

def begin (b : UInt8) : Option Char × Option Pending :=
  if b < 0x80 then (some (Char.ofNat b.toNat), none)
  else match lead? b with
    | some (following, low, high) => (none, some ⟨following, low, high, leadBits following b⟩)
    | none => (some replacement, none)

def decodeFrom : Option Pending → Bytes → List Char
  | none, [] => []
  | some _, [] => [replacement]
  | none, b :: rest =>
    let (c, pending) := begin b
    c.toList ++ decodeFrom pending rest
  | some p, b :: rest =>
    if p.low ≤ b ∧ b ≤ p.high then
      let bits := p.bits * 64 + b.toNat % 64
      if p.following ≤ 1 then Char.ofNat bits :: decodeFrom none rest
      else decodeFrom (some ⟨p.following - 1, 0x80, 0xBF, bits⟩) rest
    else
      let (c, pending) := begin b
      replacement :: c.toList ++ decodeFrom pending rest

def decode (octets : Bytes) : String := String.ofList (decodeFrom none octets)

end HolderGate.Text.Lossy
