import HolderGate.Time.Timestamp
import HolderGate.Text.Blank
import HolderGate.Text.Numeral

/-! Instants as text. Written, they follow RFC 3339 in UTC with the fewest groups of three
fractional digits that lose nothing; years of other than four digits carry a sign.
Read, they may have blanks before their parts, fields of fewer digits and any offset. -/
namespace HolderGate.Time.Rfc3339
open Text

def writeYear (year : Int) : String :=
  if 0 ≤ year ∧ year ≤ 9999 then Numeral.padded 4 year.toNat
  else (if year < 0 then "-" else "+") ++ Numeral.padded 4 year.natAbs

def writeFraction (nanos : Nat) : String :=
  if nanos = 0 then ""
  else if nanos % 1000000 = 0 then "." ++ Numeral.padded 3 (nanos / 1000000)
  else if nanos % 1000 = 0 then "." ++ Numeral.padded 6 (nanos / 1000)
  else "." ++ Numeral.padded 9 nanos

def write (t : Timestamp) : String :=
  let date := Date.ofDays (t.seconds / 86400)
  let clock := (t.seconds % 86400).toNat
  let leap := 1000000000 ≤ t.nanos
  let second := clock % 60 + (if leap then 1 else 0)
  let nanos := if leap then t.nanos - 1000000000 else t.nanos
  writeYear date.year ++ "-" ++ Numeral.padded 2 date.month ++ "-" ++ Numeral.padded 2 date.day ++
    "T" ++ Numeral.padded 2 (clock / 3600) ++ ":" ++ Numeral.padded 2 (clock / 60 % 60) ++ ":" ++
    Numeral.padded 2 second ++ writeFraction nanos ++ "Z"

abbrev Step (α : Type) := List Char → Option (α × List Char)

def digits (width : Option Nat) : Step Nat := fun cs =>
  let run := (match width with | some w => cs.take w | none => cs).takeWhile Char.isDigit
  if run.isEmpty then none
  else (Numeral.digits? 10 run).map (·, cs.drop run.length)

def literal (c : Char) : Step Unit
  | [] => none
  | d :: rest => if d = c then some ((), rest) else none

def field (low high : Nat) : Step Nat := fun cs => do
  let (n, rest) ← digits (some 2) (trimLeft cs)
  if low ≤ n ∧ n ≤ high then some (n, rest) else none

def year : Step Int := fun cs =>
  match trimLeft cs with
  | '-' :: rest => (digits none rest).map (fun (n, rest) => (-(n : Int), rest))
  | '+' :: rest => (digits none rest).map (fun (n, rest) => ((n : Int), rest))
  | cs => (digits (some 4) cs).map (fun (n, rest) => ((n : Int), rest))

def fraction : Step Nat
  | '.' :: cs => do
    let run := (cs.take 9).takeWhile Char.isDigit
    let (n, rest) ← digits (some 9) cs
    some (n * Nat.pow 10 (9 - run.length), rest.dropWhile Char.isDigit)
  | cs => some (0, cs)

def offset : Step Int
  | 'Z' :: rest => some (0, rest)
  | 'z' :: rest => some (0, rest)
  | u :: t :: c :: rest =>
    if u.toLower = 'u' ∧ t.toLower = 't' ∧ c.toLower = 'c' then some (0, rest)
    else numeric (u :: t :: c :: rest)
  | cs => numeric cs
where
  numeric : Step Int
    | sign :: h :: l :: rest => do
      let negative ←
        if sign = '+' then some false
        else if sign = '-' ∨ sign = '\u2212' then some true
        else none
      let hours ← Numeral.digits? 10 [h, l]
      match rest.dropWhile (fun c => c == ':' || isBlank c) with
      | m :: n :: rest => do
        let minutes ← Numeral.digits? 10 [m, n]
        if minutes < 60 then
          let total : Int := 3600 * hours + 60 * minutes
          some (if negative then -total else total, rest)
        else none
      | _ => none
    | _ => none

def firstYear : Int := -262143

def lastYear : Int := 262142

def clock : Step (Nat × Nat) := fun cs => do
  let (hour, cs) ← field 0 23 cs
  let (_, cs) ← literal ':' (trimLeft cs)
  let (minute, cs) ← field 0 59 cs
  let (_, cs) ← literal ':' (trimLeft cs)
  let (second, cs) ← field 0 60 cs
  let (nanos, cs) ← fraction cs
  if second = 60 then some ((3600 * hour + 60 * minute + 59, 1000000000 + nanos), cs)
  else some ((3600 * hour + 60 * minute + second, nanos), cs)

def date : Step Int := fun cs => do
  let (year, cs) ← year cs
  let (_, cs) ← literal '-' (trimLeft cs)
  let (month, cs) ← field 1 12 cs
  let (_, cs) ← literal '-' (trimLeft cs)
  let (day, cs) ← field 1 31 cs
  let date : Date := ⟨year, month, day⟩
  if firstYear ≤ year ∧ year ≤ lastYear ∧ date.Valid then some (date.toDays, cs) else none

def separator : Step Unit
  | c :: rest => if c = 't' ∨ c = 'T' ∨ c = ' ' then some ((), rest) else none
  | [] => none

def read? (s : String) : Option Timestamp := do
  let (days, cs) ← date s.toList
  let (_, cs) ← separator cs
  let ((seconds, nanos), cs) ← clock cs
  let (shift, cs) ← offset (trimLeft cs)
  let t : Timestamp := ⟨86400 * days + seconds - shift, nanos⟩
  let first := 86400 * Date.toDays ⟨firstYear, 1, 1⟩
  let last := 86400 * Date.toDays ⟨lastYear + 1, 1, 1⟩
  if -86400 < shift ∧ shift < 86400 ∧ first ≤ t.seconds ∧ t.seconds < last ∧ (trimLeft cs).isEmpty
  then some t else none

end HolderGate.Time.Rfc3339
