import HolderGate.Json.Scalar

/-! Arrays and objects, read element by element and member by member. -/
namespace HolderGate.Json

def another (first : Bool) : Reader Bool := do
  match (← peek) with
  | none => fail .truncated
  | some b =>
    if b = 0x5D then pure false
    else if first then pure true
    else if b = 0x2C then do
      advance
      match (← peek) with
      | none => fail .truncated
      | some c => if c = 0x5D then fail .malformed else pure true
    else fail .malformed

def closeArray : Reader Unit := do
  match (← peek) with
  | none => fail .truncated
  | some b => if b = 0x5D then advance else do advance; fail .malformed

def elementsFrom {α : Type} (element : Reader α) : Nat → Bool → Reader (List α)
  | 0, _ => fail .truncated
  | fuel + 1, first => do
    if ← another first then
      let head ← element
      let tail ← elementsFrom element fuel false
      pure (head :: tail)
    else pure []

def elements {α : Type} (element : Reader α) : Reader (List α) := fun input =>
  -- Every element takes an octet at least.
  elementsFrom element (input.length + 1) true input

def array {α : Type} (element : Reader α) : Reader (List α) := do
  match (← peek) with
  | none => fail .truncated
  | some b =>
    if b = 0x5B then do
      advance
      let values ← elements element
      closeArray
      pure values
    else otherType b

def memberName (first : Bool) : Reader (Option String) := do
  match (← peek) with
  | none => fail .truncated
  | some b =>
    if b = 0x7D then pure none
    else if first then
      if b = 0x22 then do advance; some <$> stringBody else fail .malformed
    else if b = 0x2C then do
      advance
      match (← peek) with
      | none => fail .truncated
      | some c => if c = 0x22 then do advance; some <$> stringBody else fail .malformed
    else fail .malformed

def colon : Reader Unit := do
  match (← peek) with
  | none => fail .truncated
  | some b => if b = 0x3A then advance else fail .malformed

def closeObject : Reader Unit := do
  match (← peek) with
  | none => fail .truncated
  | some b => if b = 0x7D then advance else fail .malformed

def membersFrom {σ : Type} (member : σ → String → Reader σ) : Nat → Bool → σ → Reader σ
  | 0, _, _ => fail .truncated
  | fuel + 1, first, state => do
    match (← memberName first) with
    | none => pure state
    | some name =>
      let next ← member state name
      membersFrom member fuel false next

def members {σ : Type} (member : σ → String → Reader σ) (start : σ) : Reader σ := fun input =>
  membersFrom member (input.length + 1) true start input

def table {α : Type} (value : Reader α) : Reader (List (String × α)) := do
  match (← peek) with
  | none => fail .truncated
  | some b =>
    if b = 0x7B then do
      advance
      let reversed ← members (fun done name => do
        colon
        return (name, ← value) :: done) []
      closeObject
      pure reversed.reverse
    else otherType b

end HolderGate.Json
