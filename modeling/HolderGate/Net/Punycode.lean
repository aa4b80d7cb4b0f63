import HolderGate.Text.Hex

/-! Punycode: the letters, digits and hyphens that stand for a label with other characters. -/
namespace HolderGate.Net.Punycode

def base : Nat := 36

def digit? (c : Char) : Option Nat :=
  if 'a' ≤ c ∧ c ≤ 'z' then some (c.toNat - 'a'.toNat)
  else if 'A' ≤ c ∧ c ≤ 'Z' then some (c.toNat - 'A'.toNat)
  else if '0' ≤ c ∧ c ≤ '9' then some (c.toNat - '0'.toNat + 26)
  else none

def threshold (place bias : Nat) : Nat := min (max (place - bias) 1) 26

def shrink (place delta : Nat) : Nat × Nat :=
  if 455 < delta then shrink (place + base) (delta / 35) else (place, delta)
termination_by delta
decreasing_by omega

def adapt (delta length : Nat) (first : Bool) : Nat :=
  let scaled := if first then delta / 700 else delta / 2
  let (place, delta) := shrink 0 (scaled + scaled / length)
  place + base * delta / (delta + 38)

def number (bias : Nat) : Nat → Nat → Nat → List Char → Option (Nat × List Char)
  | _, _, _, [] => none
  | place, weight, value, c :: rest => do
    let d ← digit? c
    let t := threshold place bias
    let value := value + d * weight
    if d < t then some (value, rest) else number bias (place + base) (weight * (base - t)) value rest

theorem numberShorter {bias place weight value : Nat} {cs : List Char} {n : Nat} {rest : List Char}
    (h : number bias place weight value cs = some (n, rest)) : rest.length < cs.length := by
  induction cs generalizing place weight value with
  | nil => simp [number] at h
  | cons c cs ih =>
    simp only [number, bind, Option.bind_eq_some_iff] at h
    obtain ⟨d, _, h⟩ := h
    split at h
    · cases h; simp
    · exact Nat.lt_succ_of_lt (ih h)

def isScalar (n : Nat) : Bool := n < 0xD800 || (0xE000 ≤ n && n < 0x110000)

def insertFrom (code position bias : Nat) (label cs : List Char) : Option (List Char) :=
  if cs.isEmpty then some label
  else match h : number bias base 1 0 cs with
    | none => none
    | some (delta, rest) =>
      let position' := position + delta
      let length := label.length + 1
      let code' := code + position' / length
      let place := position' % length
      if isScalar code' then
        have := numberShorter h
        insertFrom code' (place + 1) (adapt delta length (code = 0x80 ∧ position = 0 ∧ bias = 72))
          (label.take place ++ Char.ofNat code' :: label.drop place) rest
      else none
termination_by cs.length

def decode? (cs : List Char) : Option (List Char) :=
  let tail := (cs.reverse.takeWhile (· != '-')).reverse
  let plain := cs.take (cs.length - tail.length - 1)
  if cs.head? = some '-' ∧ plain.isEmpty then none else insertFrom 0x80 0 72 plain tail

end HolderGate.Net.Punycode
