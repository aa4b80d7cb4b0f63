import HolderGate.Json.Number
import HolderGate.Json.Text

/-! Texts, numbers, truth values and null where they are wanted, and what happens to a value where
something else is. -/
namespace HolderGate.Json

def otherType {α : Type} (b : UInt8) : Reader α := do
  if b = 0x6E then do advance; word [0x75, 0x6C, 0x6C]; fail .mismatched
  else if b = 0x74 then do advance; word [0x72, 0x75, 0x65]; fail .mismatched
  else if b = 0x66 then do advance; word [0x61, 0x6C, 0x73, 0x65]; fail .mismatched
  else if b = 0x2D then do advance; let _ ← number false; fail .mismatched
  else if isDigit b then do let _ ← number true; fail .mismatched
  else if b = 0x22 then do advance; let _ ← stringBody; fail .mismatched
  else if b = 0x5B || b = 0x7B then fail .mismatched
  else fail .malformed

def string : Reader String := do
  match (← peek) with
  | none => fail .truncated
  | some b => if b = 0x22 then do advance; stringBody else otherType b

def numeric : Reader Number := do
  match (← peek) with
  | none => fail .truncated
  | some b =>
    if b = 0x2D then do advance; number false
    else if isDigit b then number true
    else otherType b

def natural (limit : Nat) : Reader Nat := do
  match (← numeric) with
  | .natural n => if n < limit then pure n else fail .mismatched
  | _ => fail .mismatched

def uint64 : Reader UInt64 := do return UInt64.ofNat (← natural UInt64.size)

def integer : Reader Int := do
  match (← numeric) with
  | .natural n => if n < UInt64.size / 2 then pure n else fail .mismatched
  | .negative n => pure (-n)
  | .fractional => fail .mismatched

def boolean : Reader Bool := do
  match (← peek) with
  | none => fail .truncated
  | some b =>
    if b = 0x74 then do advance; word [0x72, 0x75, 0x65]; pure true
    else if b = 0x66 then do advance; word [0x61, 0x6C, 0x73, 0x65]; pure false
    else otherType b

def null : Reader Unit := do
  match (← peek) with
  | none => fail .truncated
  | some b => if b = 0x6E then do advance; word [0x75, 0x6C, 0x6C] else otherType b

def optional {α : Type} (value : Reader α) : Reader (Option α) := do
  match (← peek) with
  | some b => if b = 0x6E then do advance; word [0x75, 0x6C, 0x6C]; pure none else some <$> value
  | none => some <$> value

end HolderGate.Json
