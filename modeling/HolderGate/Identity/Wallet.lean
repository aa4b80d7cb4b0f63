import HolderGate.Chain.Address
import HolderGate.Text.Blank

/-! Wallets: addresses in the one written form under which everything about them is kept. -/
namespace HolderGate.Identity
open Chain

structure Wallet where
  text : String
  normal : ∃ a : Address, a.text = text
  deriving DecidableEq

namespace Wallet

instance : Repr Wallet := ⟨fun w => reprPrec w.text⟩

def ofAddress (a : Address) : Wallet := ⟨a.text, a, rfl⟩

def parse? (s : String) : Option Wallet := (Address.parse? (Text.trim s)).map ofAddress

def address (w : Wallet) : Address := (Address.parse? w.text).getD .zero

def codec : Json.Codec Wallet := Json.Codec.string.such parse? text

instance : Json.Document Wallet := ⟨codec⟩

end Wallet
end HolderGate.Identity
