import HolderGate.Text.Numeral
import HolderGate.Text.Split

/-! Addresses of hosts as numbers: of 32 bits in one to four parts, and of 128 bits in eight pieces. -/
namespace HolderGate.Net

namespace Ipv4

def part? : List Char → Option Nat
  | [] => none
  | '0' :: 'x' :: digits => Text.Numeral.digits? 16 digits
  | '0' :: 'X' :: digits => Text.Numeral.digits? 16 digits
  | '0' :: c :: digits => Text.Numeral.digits? 8 (c :: digits)
  | digits => Text.Numeral.digits? 10 digits

def parts (name : List Char) : List (List Char) :=
  let all := Text.split '.' name
  if all.getLast? = some [] then all.dropLast else all

def isMeant (name : List Char) : Bool :=
  match (parts name).getLast? with
  | some [] => false
  | some last => last.all (fun c => '0' ≤ c && c ≤ '9') || (part? last).isSome
  | none => false

def parse? (name : List Char) : Option Nat := do
  let parts := parts name
  let numbers ← parts.mapM part?
  let last ← numbers.getLast?
  let octets := numbers.dropLast
  if parts.length ≤ 4 ∧ octets.all (· < 256) ∧ last < Nat.pow 256 (4 - octets.length) then
    some (octets.foldl (fun n octet => 256 * n + octet) 0 * Nat.pow 256 (4 - octets.length) + last)
  else none

end Ipv4

namespace Ipv6

def octet? (cs : List Char) : Option Nat :=
  if cs.isEmpty || (cs.head? == some '0' && cs.length != 1) then none
  else (Text.Numeral.digits? 10 cs).filter (· < 256)

def quad? (cs : List Char) : Option (List Nat) := do
  match (← (Text.split '.' cs).mapM octet?) with
  | [a, b, c, d] => some [256 * a + b, 256 * c + d]
  | _ => none

def piecesFrom : Nat → Nat → Bool → List Char → Option (List (Option Nat))
  | _, _, _, [] => some []
  | 0, _, _, _ => none
  | fuel + 1, seen, gap, c :: cs =>
    if seen = 8 then none
    else if c = ':' then
      if gap then none else (none :: ·) <$> piecesFrom fuel (seen + 1) true cs
    else
      let digits := ((c :: cs).take 4).takeWhile (fun d => (Text.Hex.hexValue? d).isSome)
      let value := (Text.Numeral.digits? 16 digits).getD 0
      match (c :: cs).drop digits.length with
      | [] => some [some value]
      | d :: rest =>
        if d = ':' ∧ !rest.isEmpty then (some value :: ·) <$> piecesFrom fuel (seen + 1) gap rest
        else if d = '.' ∧ !digits.isEmpty ∧ seen ≤ 6 then (·.map some) <$> quad? (c :: cs)
        else none

def expand (pieces : List (Option Nat)) : List Nat :=
  pieces.flatMap (fun
    | some n => [n]
    | none => List.replicate (9 - pieces.length) 0)

def parse? (cs : List Char) : Option (List Nat) := do
  let pieces ← match cs with
    | ':' :: ':' :: rest => (none :: ·) <$> piecesFrom rest.length 1 true rest
    | ':' :: _ => none
    | cs => if cs.length < 2 then none else piecesFrom cs.length 0 false cs
  if pieces.length = 8 ∨ (pieces.contains none ∧ pieces.length < 8) then some (expand pieces) else none

end Ipv6
end HolderGate.Net
