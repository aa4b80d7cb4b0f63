import HolderGate.Json.Reader

/-! Strings in JSON text, and the characters that their escapes stand for. -/
namespace HolderGate.Json

inductive StringState where
  | plain
  | escape
  | unit (high : Option Nat) (digits : Bytes)
  | backslash (high : Nat)
  | marker (high : Nat)
  deriving DecidableEq, Repr

def escapes : List (UInt8 × UInt8) :=
  [(0x22, 0x22), (0x5C, 0x5C), (0x2F, 0x2F), (0x62, 0x08), (0x66, 0x0C), (0x6E, 0x0A),
    (0x72, 0x0D), (0x74, 0x09)]

def unitValue? (digits : Bytes) : Option Nat :=
  digits.foldlM (fun n b => (Text.Hex.hexValue? (Char.ofNat b.toNat)).map (16 * n + ·)) 0

def isHigh (n : Nat) : Bool := 0xD800 ≤ n && n ≤ 0xDBFF

def isLow (n : Nat) : Bool := 0xDC00 ≤ n && n ≤ 0xDFFF

def scalar (n : Nat) : Bytes := utf8 (String.singleton (Char.ofNat n))

def closeUnit (paired : Bool) : Option Nat → Nat → Option (StringState × Bytes)
  | none, n =>
    if !paired then some (.plain, [])
    else if isLow n then none
    else if isHigh n then some (.backslash n, [])
    else some (.plain, scalar n)
  | some high, n =>
    if isLow n then some (.plain, scalar (0x10000 + 0x400 * (high - 0xD800) + (n - 0xDC00)))
    else none

/-- Reads from behind the opening quote to behind the closing one. With `paired` the
surrogates among the escapes must come in pairs; without, escapes give no octets.
The octets read so far are `done`, the last one first. -/
def stringFrom (paired : Bool) : StringState → Bytes → Reader Bytes
  | _, _, [] => .error ⟨.truncated, []⟩
  | .plain, done, b :: rest =>
    if b = 0x22 then .ok (done.reverse, rest)
    else if b = 0x5C then stringFrom paired .escape done rest
    else if b < 0x20 then .error ⟨.malformed, rest⟩
    else stringFrom paired .plain (b :: done) rest
  | .escape, done, b :: rest =>
    if b = 0x75 then stringFrom paired (.unit none []) done rest
    else match escapes.lookup b with
      | some c => stringFrom paired .plain (c :: done) rest
      | none => .error ⟨.malformed, rest⟩
  | .unit high digits, done, b :: rest =>
    if digits.length < 3 then stringFrom paired (.unit high (digits ++ [b])) done rest
    else match (unitValue? (digits ++ [b])).bind (closeUnit paired high) with
      | some (next, octets) => stringFrom paired next (octets.reverse ++ done) rest
      | none => .error ⟨.malformed, rest⟩
  | .backslash high, done, b :: rest =>
    if b = 0x5C then stringFrom paired (.marker high) done rest else .error ⟨.malformed, rest⟩
  | .marker high, done, b :: rest =>
    if b = 0x75 then stringFrom paired (.unit (some high) []) done rest
    else .error ⟨.malformed, rest⟩

def stringBody : Reader String := do
  let octets ← stringFrom true .plain []
  match text? octets with
  | some s => pure s
  | none => fail .malformed

end HolderGate.Json
