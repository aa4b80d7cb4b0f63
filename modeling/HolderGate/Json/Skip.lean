import HolderGate.Json.Container

/-! Values of no interest, which are passed over with a stack of open brackets. -/
namespace HolderGate.Json

inductive Frame where
  | array
  | object
  deriving DecidableEq, Repr

-- Unlike a number that is read, one that is passed over has no range, and its defects are never an early end.
def skipNumber : Reader Unit := do
  match (← get) with
  | [] => fail .malformed
  | b :: next =>
    if !isDigit b then do advance; fail .malformed
    else if b = 0x30 && next.head?.any isDigit then do advance; fail .malformed
    else
      let _ ← takeDigits
      match (← get) with
      | c :: _ =>
        if c = 0x2E then do
          advance
          if (← takeDigits).isEmpty then fail .malformed
          match (← get) with
          | e :: _ => if e = 0x65 ∨ e = 0x45 then skipExponent
          | [] => pure ()
        else if c = 0x65 ∨ c = 0x45 then skipExponent
      | [] => pure ()
where
  skipExponent : Reader Unit := do
    advance
    match (← get) with
    | b :: _ => if b = 0x2B ∨ b = 0x2D then advance
    | [] => pure ()
    if (← takeDigits).isEmpty then do advance; fail .malformed

def skipName : Frame → Reader Unit
  | .array => pure ()
  | .object => do
    match (← peek) with
    | none => fail .truncated
    | some b =>
      if b = 0x22 then do
        advance
        let _ ← stringFrom false .plain []
        colon
      else fail .malformed

def skipStart : Reader (Option Frame) := do
  match (← peek) with
  | none => fail .truncated
  | some b =>
    if b = 0x6E then do advance; word [0x75, 0x6C, 0x6C]; pure none
    else if b = 0x74 then do advance; word [0x72, 0x75, 0x65]; pure none
    else if b = 0x66 then do advance; word [0x61, 0x6C, 0x73, 0x65]; pure none
    else if b = 0x2D then do advance; skipNumber; pure none
    else if isDigit b then do skipNumber; pure none
    else if b = 0x22 then do
      advance
      let _ ← stringFrom false .plain []
      pure none
    else if b = 0x5B then do advance; pure (some .array)
    else if b = 0x7B then do advance; pure (some .object)
    else fail .malformed

def skipSeparator (first : Bool) (frame : Frame) : Reader Bool := do
  match (← peek) with
  | none => fail .truncated
  | some b =>
    if b = (match frame with | .array => 0x5D | .object => 0x7D) then do advance; pure true
    else if first then do skipName frame; pure false
    else if b = 0x2C then do advance; skipName frame; pure false
    else fail .malformed

/-- Passes over a value with the frames that it leaves open; `opened` tells whether the innermost
one is still empty, and nothing tells that a value is due. -/
def skipFrom : Nat → Option Bool → List Frame → Reader Unit
  | 0, _, _ => fail .truncated
  | fuel + 1, none, frames => do
    match (← skipStart), frames with
    | some frame, frames => skipFrom fuel (some true) (frame :: frames)
    | none, [] => pure ()
    | none, frames => skipFrom fuel (some false) frames
  | _ + 1, some _, [] => pure ()
  | fuel + 1, some first, frame :: frames => do
    if ← skipSeparator first frame then
      match frames with
      | [] => pure ()
      | frames => skipFrom fuel (some false) frames
    else skipFrom fuel none (frame :: frames)

def skip : Reader Unit := fun input => skipFrom (2 * input.length + 2) none [] input

end HolderGate.Json
