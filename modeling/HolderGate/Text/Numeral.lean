import HolderGate.Text.Hex

/-! Numerals in positional notation. -/
namespace HolderGate.Text.Numeral

def decimal (n : Nat) : String := String.ofList (Nat.toDigits 10 n)

def padded (width n : Nat) : String :=
  let digits := Nat.toDigits 10 n
  String.ofList (List.replicate (width - digits.length) '0' ++ digits)

def hexadecimal (n : Nat) : String := "0x" ++ String.ofList (Nat.toDigits 16 n)

def digits? (base : Nat) (cs : List Char) : Option Nat :=
  cs.foldlM (fun n c => ((Hex.value? c).filter (· < base)).map (base * n + ·)) 0

def natural? (limit : Nat) (s : String) : Option Nat :=
  let body := match s.toList with
    | '+' :: rest => rest
    | cs => cs
  if body.isEmpty then none else (digits? 10 body).filter (· < limit)

def integer? (limit : Nat) (s : String) : Option Int :=
  match s.toList with
  | '-' :: body =>
    if body.isEmpty then none else ((digits? 10 body).filter (· ≤ limit)).map (fun n => -(n : Int))
  | _ => (natural? limit s).map (fun n => (n : Int))

end HolderGate.Text.Numeral
