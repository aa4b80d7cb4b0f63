import HolderGate.Access.Holdings
import HolderGate.Chain.Event

/-! What a transfer changes in the holdings of its two endpoints. -/
namespace HolderGate.Access
open Chain

def moved (token : Token) (amount : Word) : Delta × Delta :=
  (⟨token, .decrease amount.clamp⟩, ⟨token, .increase amount.clamp⟩)

def changes (contract : Address) : Event → List Delta × List Delta
  | .erc20 _ _ amount => [moved (.fungible contract) amount].unzip
  | .erc721 _ _ id => ([⟨⟨contract, id⟩, .set 0⟩], [⟨⟨contract, id⟩, .set 1⟩])
  | .erc1155 _ _ id amount => [moved ⟨contract, id⟩ amount].unzip
  | .erc1155Batch _ _ ids amounts =>
    ((ids.zip amounts).map (fun pair => moved ⟨contract, pair.1⟩ pair.2)).unzip
  | .unknown _ => ([], [])

end HolderGate.Access
