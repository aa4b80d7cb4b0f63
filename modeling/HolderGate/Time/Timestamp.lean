import HolderGate.Time.Calendar

/-! Instants of UTC to the nanosecond. A leap second is its predecessor with a
count of nanoseconds from one thousand million on. -/
namespace HolderGate.Time

structure Timestamp where
  seconds : Int
  nanos : Nat
  deriving DecidableEq, Repr

namespace Timestamp

def Le (a b : Timestamp) : Prop := a.seconds < b.seconds ∨ (a.seconds = b.seconds ∧ a.nanos ≤ b.nanos)

instance : LE Timestamp := ⟨Le⟩

instance (a b : Timestamp) : Decidable (a ≤ b) := inferInstanceAs (Decidable (_ ∨ _))

def next (t : Timestamp) : Timestamp :=
  if t.nanos + 1 = 1000000000 ∨ t.nanos + 1 = 2000000000 then ⟨t.seconds + 1, 0⟩
  else ⟨t.seconds, t.nanos + 1⟩

def wordNanos? (t : Timestamp) : Option Int :=
  let n := t.seconds * 1000000000 + t.nanos
  if -0x8000000000000000 ≤ n ∧ n < 0x8000000000000000 then some n else none

/-- A key that is smaller the later an instant is, from 1970 up to the last instant in 2262
that `wordNanos?` gives. Earlier instants count from the top, and all others as that last one. -/
def recency (t : Timestamp) : Nat :=
  (-(t.wordNanos?.getD 0x7FFFFFFFFFFFFFFF) - 1) % UInt64.size |>.toNat

end Timestamp
end HolderGate.Time
