/-! What is known about the steps of a computation that did not fail. -/

namespace ParishSite

variable {α β ε : Type}

theorem of_toOption {x : Except ε α} {value : α} (same : x.toOption = some value) :
    x = .ok value := by
  cases x with
  | error _ => cases same
  | ok other => rw [Option.some.inj same]

theorem ok_of_bind {x : Except ε α} {f : α → Except ε β} {b : β} (done : x >>= f = .ok b) :
    ∃ a, x = .ok a ∧ f a = .ok b := by
  cases x with
  | error _ => cases done
  | ok a => exact ⟨a, rfl, done⟩

theorem ok_of_map {x : Except ε α} {f : α → β} {b : β} (done : f <$> x = .ok b) :
    ∃ a, x = .ok a ∧ b = f a := by
  cases x with
  | error _ => cases done
  | ok a =>
    cases done
    exact ⟨a, rfl, rfl⟩

end ParishSite
