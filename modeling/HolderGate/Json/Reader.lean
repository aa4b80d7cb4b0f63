import HolderGate.Text.Hex

/-! Typed reading of JSON text, octet by octet and from left to right.
A reader says what type it wants, so the first thing that is wrong decides the fault:
text that ends early, text that is no JSON, or JSON of another type or value. -/
namespace HolderGate.Json

inductive Fault where
  | truncated
  | malformed
  | mismatched
  deriving DecidableEq, Repr

structure Failure where
  fault : Fault
  rest : Bytes
  deriving DecidableEq, Repr

abbrev Reader := StateT Bytes (Except Failure)

def fail {α : Type} (fault : Fault) : Reader α := fun rest => .error ⟨fault, rest⟩

def isSpace (b : UInt8) : Bool := b == 0x20 || b == 0x0A || b == 0x09 || b == 0x0D

def isDigit (b : UInt8) : Bool := 0x30 ≤ b && b ≤ 0x39

def peek : Reader (Option UInt8) := fun input =>
  let rest := input.dropWhile isSpace
  .ok (rest.head?, rest)

def advance : Reader Unit := fun input => .ok ((), input.tail)

def word : List UInt8 → Reader Unit
  | [] => pure ()
  | expected :: more => fun input =>
    match input with
    | [] => .error ⟨.truncated, []⟩
    | b :: rest => if b = expected then word more rest else .error ⟨.malformed, rest⟩

def such {α β : Type} (read : Reader α) (convert : α → Option β) : Reader β := do
  match convert (← read) with
  | some value => pure value
  | none => fail .mismatched

def parse {α : Type} (value : Reader α) (input : Bytes) : Except Fault α :=
  match (do let v ← value; if (← peek).isSome then fail .malformed else pure v : Reader α) input with
  | .ok (v, _) => .ok v
  | .error failure => .error failure.fault

end HolderGate.Json
