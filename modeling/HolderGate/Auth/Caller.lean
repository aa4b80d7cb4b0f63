import HolderGate.Identity.Records

/-! What the audit log keeps about the sender of a request. -/
namespace HolderGate.Auth
open Identity

structure Caller where
  host : Option String
  headers : HeaderTable
  deriving DecidableEq, Repr

def Caller.unknown : Caller := ⟨none, .empty⟩

end HolderGate.Auth
