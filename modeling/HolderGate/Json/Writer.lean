import HolderGate.Text.Numeral

/-! Compact JSON text: no space between tokens, and escapes only where a string needs them. -/
namespace HolderGate.Json

def escapeOctet (b : UInt8) : Bytes :=
  if b = 0x22 then [0x5C, 0x22]
  else if b = 0x5C then [0x5C, 0x5C]
  else if b = 0x08 then [0x5C, 0x62]
  else if b = 0x0C then [0x5C, 0x66]
  else if b = 0x0A then [0x5C, 0x6E]
  else if b = 0x0D then [0x5C, 0x72]
  else if b = 0x09 then [0x5C, 0x74]
  else if b < 0x20 then utf8 ("\\u00" ++ Text.Hex.encode [b])
  else [b]

def quoted (s : String) : Bytes := 0x22 :: (utf8 s).flatMap escapeOctet ++ [0x22]

def decimal (n : Nat) : Bytes := utf8 (Text.Numeral.decimal n)

def signed (n : Int) : Bytes := if n < 0 then 0x2D :: decimal n.natAbs else decimal n.natAbs

def flag (b : Bool) : Bytes := if b then utf8 "true" else utf8 "false"

def nothing : Bytes := utf8 "null"

def commas : List Bytes → Bytes
  | [] => []
  | [item] => item
  | item :: items => item ++ 0x2C :: commas items

def list (items : List Bytes) : Bytes := 0x5B :: commas items ++ [0x5D]

def object (members : List (String × Bytes)) : Bytes :=
  0x7B :: commas (members.map (fun m => quoted m.1 ++ 0x3A :: m.2)) ++ [0x7D]

end HolderGate.Json
