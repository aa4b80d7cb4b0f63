import HolderGate.Time.Timestamp
import HolderGate.Text.Hex

/-! What the surroundings supply: the clock, identifiers and randomness. An operation is given as
many draws as it could need, so it is a function of them. -/
namespace HolderGate.Identity
open Time

structure Draw where
  id : String
  now : Timestamp
  entropy : Bytes
  deriving DecidableEq, Repr

def Draw.secret (draw : Draw) (n : Nat) : String := Text.Hex.encode (draw.entropy.take n)

abbrev Supply := Nat → Draw

def Supply.after (supply : Supply) (n : Nat) : Supply := fun k => supply (n + k)

end HolderGate.Identity
