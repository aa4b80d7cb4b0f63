import HolderGate.Chain.Address
import HolderGate.Chain.Word

/-! Tokens: a contract and an identifier within it. Fungible tokens have the identifier zero. -/
namespace HolderGate.Chain

structure Token where
  contract : Address
  id : Word
  deriving DecidableEq, Repr

namespace Token

def fungible (contract : Address) : Token := ⟨contract, 0⟩

instance : Ord Token := ⟨compareLex (compareOn contract) (compareOn id)⟩

instance : Std.TransOrd Token :=
  inferInstanceAs (Std.TransCmp (compareLex (compareOn contract) (compareOn id)))

instance : Std.LawfulEqOrd Token where
  compare_self {t} := by
    change compareLex (compareOn contract) (compareOn id) t t = .eq
    simp [compareLex, compareOn]
  eq_of_compare {s t} h := by
    change compareLex (compareOn contract) (compareOn id) s t = .eq at h
    simp only [compareLex, compareOn, Ordering.then_eq_eq, Std.compare_eq_iff_eq] at h
    cases s; cases t
    simpa using h

def text (t : Token) : String := t.contract.text ++ "+" ++ t.id.text

def parse? (s : String) : Option Token :=
  let (contract, rest) := s.toList.span (· != '+')
  match rest with
  | [] => none
  | _ :: id => do
    let contract ← Address.parse? (String.ofList contract)
    let id ← Word.parse? (String.ofList id)
    some ⟨contract, id⟩

def fields : Json.Fields [Address, Word] :=
  .cons (.required "address" Address.codec) <| .cons (.required "token_id" Word.codec) .nil

def codec : Json.Codec Token :=
  fields.codec.map (fun (contract, id, ()) => ⟨contract, id⟩) (fun t => (t.contract, t.id, ()))

instance : Json.Document Token := ⟨codec⟩

end Token
end HolderGate.Chain
