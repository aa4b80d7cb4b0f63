/-! Results that may be errors. A step after another succeeds where both do. -/
namespace HolderGate

variable {ε α β : Type} {e : Except ε α} {v : α}

theorem toOptionSome : e.toOption = some v ↔ e = .ok v := by
  cases e <;> simp [Except.toOption]

theorem exceptBindOk {f : α → Except ε β} {v : β} : (e >>= f) = .ok v ↔ ∃ u, e = .ok u ∧ f u = .ok v := by
  cases e <;> simp [bind, Except.bind]

end HolderGate
