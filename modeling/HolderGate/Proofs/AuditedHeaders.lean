import HolderGate.Http.Headers
import HolderGate.Proofs.SortedMap

/-! What is made of the header of a request for the audit log. Fields with secrets leave no trace in it, and of each
other name the last value that can be read is kept. -/
namespace HolderGate.Http

abbrev Sent := List (String × Bytes)

def received (sent : Sent) : Headers := sent.map fun field => ⟨field.1.toLower, field.2⟩

namespace Headers

def disclosed (headers : Headers) : Headers := headers.filter (·.name ∉ secrets)

def lastReadable? (headers : Headers) (name : String) : Option String :=
  ((headers.filter (·.name = name)).filterMap (readable? ·.value)).getLast?

variable {headers other : Headers} {name : String}

theorem firstDisclosed (headers : Headers) (plain : name ∉ secrets) :
    headers.disclosed.first? name = headers.first? name := by
  rw [first?, first?, disclosed, List.find?_filter]
  congr 2
  funext h
  by_cases same : h.name = name <;> simp [same, plain]

theorem auditedDisclosed (headers : Headers) : headers.disclosed.audited = headers.audited := by
  unfold audited disclosed
  rw [List.filterMap_filter]
  congr 2
  funext h
  by_cases hidden : h.name ∈ secrets <;> simp [hidden]

theorem callerDisclosed (headers : Headers) : headers.disclosed.caller = headers.caller := by
  rw [caller, caller, auditedDisclosed, firstDisclosed headers (by decide), firstDisclosed headers (by decide)]

theorem callerSame (same : headers.disclosed = other.disclosed) : headers.caller = other.caller := by
  rw [← callerDisclosed headers, same, callerDisclosed]

theorem auditedGet (headers : Headers) (name : String) :
    headers.audited.get? name = if name ∈ secrets then none else headers.lastReadable? name := by
  rw [audited, SortedMap.lastOfList, List.filter_filterMap, List.map_filterMap, lastReadable?, List.filterMap_filter]
  split
  next secret =>
    rw [List.getLast?_eq_none_iff, List.filterMap_eq_nil_iff]
    intro h _
    by_cases hidden : h.name ∈ secrets
    · simp [hidden]
    · have other : h.name ≠ name := fun same => hidden (same ▸ secret)
      simp [hidden, Option.filter_map, other, Function.comp_def]
  next plain =>
    congr 2
    funext h
    by_cases own : h.name = name
    · subst own
      cases readable? h.value <;> simp [plain]
    · by_cases hidden : h.name ∈ secrets
      · simp [hidden, own]
      · cases readable? h.value <;> simp [hidden, own]

end Headers
end HolderGate.Http
