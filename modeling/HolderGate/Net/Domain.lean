import HolderGate.Net.Domain.Barred
import HolderGate.Net.Domain.Direction
import HolderGate.Net.Punycode
import HolderGate.Text.Split

/-! Domain names in the form in which they are compared: small letters of ASCII, and labels that
stand for other letters kept as they are written. -/
namespace HolderGate.Net.Domain

def isForbidden (c : Char) : Bool := c ≤ ' ' || c == '\x7f' || "%#/:<>?@[\\]^|".toList.contains c

def ignored : List (Nat × Nat) :=
  [(0xAD, 0xAD), (0x34F, 0x34F), (0x115F, 0x1160), (0x17B4, 0x17B5), (0x180B, 0x180F), (0x200B, 0x200B),
    (0x2060, 0x2064), (0x206A, 0x206F), (0x3164, 0x3164), (0xFE00, 0xFE0F), (0xFEFF, 0xFEFF),
    (0xFFA0, 0xFFA0), (0x1BCA0, 0x1BCA3), (0x1D173, 0x1D17A), (0xE0100, 0xE01EF)]

def stops : List Nat := [0x3002, 0xFF0E, 0xFF61]

def digitRuns : List (Nat × Nat × Nat) :=
  [(0xB2, 2, 2), (0xB9, 1, 1), (0x2070, 1, 0), (0x2074, 6, 4), (0x2080, 10, 0), (0x2460, 9, 1),
    (0x24EA, 1, 0), (0x1CCF0, 10, 0), (0x1D7CE, 10, 0), (0x1D7D8, 10, 0), (0x1D7E2, 10, 0),
    (0x1D7EC, 10, 0), (0x1D7F6, 10, 0), (0x1FBF0, 10, 0)]

def fold? (c : Char) : Option (List Char) :=
  let n := c.toNat
  if n < 0x80 then if isForbidden c then none else some [c.toLower]
  else if within ignored n then some []
  else if within barred n then none
  else if n ∈ stops then some ['.']
  else if 0xFF01 ≤ n ∧ n ≤ 0xFF5E then some [(Char.ofNat (n - 0xFEE0)).toLower]
  else match digitRuns.find? (fun run => run.1 ≤ n && n < run.1 + run.2.1) with
    | some (start, _, first) => some [Char.ofNat ('0'.toNat + first + (n - start))]
    | none => some [c]

def viramas : List Nat :=
  [0x94D, 0x9CD, 0xA4D, 0xACD, 0xB4D, 0xBCD, 0xC4D, 0xCCD, 0xD3B, 0xD3C, 0xD4D, 0xDCA, 0xE3A, 0xEBA, 0xF84,
    0x1039, 0x103A, 0x1714, 0x1715, 0x1734, 0x17D2, 0x1A60, 0x1B44, 0x1BAA, 0x1BAB, 0x1BF2, 0x1BF3, 0x2D7F,
    0xA806, 0xA82C, 0xA8C4, 0xA953, 0xA9C0, 0xAAF6, 0xABED, 0x10A3F, 0x11046, 0x11070, 0x1107F, 0x110B9,
    0x11133, 0x11134, 0x111C0, 0x11235, 0x112EA, 0x1134D, 0x11442, 0x114C2, 0x115BF, 0x1163F, 0x116B6,
    0x1172B, 0x11839, 0x1193D, 0x1193E, 0x119E0, 0x11A34, 0x11A47, 0x11A99, 0x11C3F, 0x11D44, 0x11D45,
    0x11D97]

def isJoiner (c : Char) : Bool := c == '\u200c' || c == '\u200d'

def joined : List Char → Bool
  | [] => true
  | [_] => true
  | a :: b :: rest => (!isJoiner b || a.toNat ∈ viramas) && joined (b :: rest)

def isWhole (label : List Char) : Bool :=
  joined label && !label.head?.any (fun c => isJoiner c || within marks c.toNat)

def decoded? (rest : List Char) : Option (List Char) :=
  (Punycode.decode? rest).filter (fun label =>
    label.any (fun c => 0x80 ≤ c.toNat) && label.all (fun c => fold? c == some [c]) && isWhole label)

def label? : List Char → Option (List Char)
  | 'x' :: 'n' :: '-' :: '-' :: rest => decoded? rest
  | label => if isWhole label then some label else none

def parse? (name : List Char) : Option (List Char) := do
  let folded ← name.mapM fold?
  let name := folded.flatten
  let labels ← (Text.split '.' name).mapM label?
  if directed labels then some name else none

end HolderGate.Net.Domain
