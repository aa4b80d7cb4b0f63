import HolderGate.Json.Reader

/-! Numbers in JSON text. Only whole ones of 64 bits are told apart; of the others it counts that they
are in the range of binary floating-point numbers of 64 bits. -/
namespace HolderGate.Json

inductive Number where
  | natural (n : Nat)
  | negative (n : Nat)
  | fractional
  deriving DecidableEq, Repr

def digitsValue (digits : Bytes) : Nat := digits.foldl (fun n b => 10 * n + (b.toNat - 0x30)) 0

def takeDigits : Reader Bytes := fun input => .ok (input.span isDigit)

/-- Numbers from here on exceed all binary floating-point numbers of 64 bits after rounding. -/
def floatLimit : Nat := Nat.pow 2 1024 - Nat.pow 2 970

def overflows (mantissa : Nat) (exponent : Int) : Bool :=
  let size : Int := (Nat.toDigits 10 mantissa).length + exponent
  mantissa != 0 && 308 < size &&
    (309 < size ||
      if 0 ≤ exponent then floatLimit ≤ mantissa * Nat.pow 10 exponent.toNat
      else floatLimit * Nat.pow 10 (-exponent).toNat ≤ mantissa)

def checked (mantissa : Nat) (exponent : Int) : Reader Number :=
  if overflows mantissa exponent then fail .malformed else pure .fractional

def exponent (mantissa : Nat) (shift : Int) : Reader Number := do
  let negative ← fun input => match input with
    | 0x2B :: rest => .ok (false, rest)
    | 0x2D :: rest => .ok (true, rest)
    | rest => .ok (false, rest)
  match (← get) with
  | [] => fail .truncated
  | b :: _ =>
    if isDigit b then
      let n : Int := digitsValue (← takeDigits)
      checked mantissa (if negative then shift - n else shift + n)
    else do advance; fail .malformed

def fraction (whole : Bytes) : Reader Number := do
  let part ← takeDigits
  if part.isEmpty then
    match (← get) with
    | [] => fail .truncated
    | _ :: _ => fail .malformed
  else
    let mantissa := digitsValue (whole ++ part)
    let shift : Int := -part.length
    match (← get) with
    | b :: _ => if b = 0x65 ∨ b = 0x45 then do advance; exponent mantissa shift else checked mantissa shift
    | [] => checked mantissa shift

def whole (positive : Bool) (n : Nat) : Reader Number :=
  if positive then
    if n < UInt64.size then pure (.natural n) else checked n 0
  else if n = 0 then pure .fractional
  else if n ≤ UInt64.size / 2 then pure (.negative n)
  else checked n 0

def number (positive : Bool) : Reader Number := do
  match (← get) with
  | [] => fail .truncated
  | b :: next =>
    if !isDigit b then do advance; fail .malformed
    else if b = 0x30 && next.head?.any isDigit then do advance; fail .malformed
    else
      let digits ← takeDigits
      match (← get) with
      | c :: _ =>
        if c = 0x2E then do advance; fraction digits
        else if c = 0x65 ∨ c = 0x45 then do advance; exponent (digitsValue digits) 0
        else whole positive (digitsValue digits)
      | [] => whole positive (digitsValue digits)

end HolderGate.Json
