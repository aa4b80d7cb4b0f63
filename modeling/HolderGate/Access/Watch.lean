import HolderGate.Access.Feature
import HolderGate.Chain.Event
import HolderGate.SortedMap

/-! Which logs of the chain concern the features. -/
namespace HolderGate.Access
open Chain

def watched (features : List Feature) : List Address :=
  (SortedMap.ofList (features.map (fun f => (f.required.contract, ())))).keys

structure Filter where
  contracts : List Address
  topics : List Word
  fromBlock : UInt64
  deriving DecidableEq, Repr

namespace Filter

def ofFeatures (features : List Feature) (fromBlock : UInt64) : Filter :=
  ⟨watched features, watchedTopics, fromBlock⟩

def admits (f : Filter) (log : Log) (block : UInt64) : Bool :=
  f.fromBlock ≤ block && (f.contracts.isEmpty || f.contracts.contains log.contract) &&
    match log.topics with
    | [] => false
    | topic :: _ => f.topics.contains topic

end Filter
end HolderGate.Access
