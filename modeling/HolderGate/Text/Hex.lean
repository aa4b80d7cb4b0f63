import HolderGate.Bytes

/-! Hexadecimal text: two digits an octet, written in lower case and read in either,
after an optional `0x` or `0X`. -/
namespace HolderGate.Text.Hex

def digit (n : Nat) : Char := Nat.digitChar (n % 16)

def digits (octets : Bytes) : List Char :=
  octets.flatMap (fun octet => [digit (octet.toNat / 16), digit octet.toNat])

def encode (octets : Bytes) : String := String.ofList (digits octets)

def marked (octets : Bytes) : String := "0x" ++ encode octets

def value? (c : Char) : Option Nat :=
  if '0' ≤ c ∧ c ≤ '9' then some (c.toNat - '0'.toNat)
  else if 'a' ≤ c ∧ c ≤ 'z' then some (c.toNat - 'a'.toNat + 10)
  else if 'A' ≤ c ∧ c ≤ 'Z' then some (c.toNat - 'A'.toNat + 10)
  else none

def hexValue? (c : Char) : Option Nat := (value? c).filter (· < 16)

def unmark : List Char → List Char
  | '0' :: 'x' :: rest => rest
  | '0' :: 'X' :: rest => rest
  | cs => cs

inductive Defect where
  | oddLength
  | badDigit (octet : UInt8) (index : Nat)
  deriving DecidableEq, Repr

def pairs (index : Nat) : Bytes → Except Defect Bytes
  | high :: low :: rest =>
    match hexValue? (Char.ofNat high.toNat) with
    | none => .error (.badDigit high index)
    | some h =>
      match hexValue? (Char.ofNat low.toNat) with
      | none => .error (.badDigit low (index + 1))
      | some l =>
        match pairs (index + 2) rest with
        | .error defect => .error defect
        | .ok octets => .ok (UInt8.ofNat (16 * h + l) :: octets)
  | _ => .ok []

def decode (s : String) : Except Defect Bytes :=
  let body := utf8 (String.ofList (unmark s.toList))
  if body.length % 2 = 0 then pairs 0 body else .error .oddLength

def decode? (s : String) : Option Bytes := (decode s).toOption

end HolderGate.Text.Hex
