import HolderGate.Json.Reader

/-! What goes wrong with kept documents. -/
namespace HolderGate

inductive StoreError where
  | absent (what : String)
  | taken (what : String)
  | unreadable (fault : Json.Fault)
  | device (detail : String)
  deriving DecidableEq, Repr

namespace StoreError

def faultText : Json.Fault → String
  | .truncated => "the text ends early"
  | .malformed => "the text is no JSON"
  | .mismatched => "a value has the wrong type"

def message : StoreError → String
  | absent what => "not found: " ++ what
  | taken what => "already exists: " ++ what
  | unreadable fault => "serialization error: " ++ faultText fault
  | device detail => "io error: " ++ detail

end StoreError
end HolderGate
