/-!
# Steps that can fail

Two steps one after the other, where the second one gets what the first one gives. From the outcome
of both it can be told how each of them went.
-/

namespace PageMarkup

variable {ε α β : Type} {first : Except ε α} {second : α → Except ε β}

/-- Two steps one after the other succeed only if each of them does. -/
theorem exists_ok_of_bind {result : β} (h : first >>= second = .ok result) :
    ∃ value, first = .ok value ∧ second value = .ok result := by
  cases first with
  | error fault => cases h
  | ok value => exact ⟨value, rfl, h⟩

/-- Two steps one after the other fail if the first one does or else the second. -/
theorem error_of_bind {fault : ε} (h : first >>= second = .error fault) :
    first = .error fault ∨ ∃ value, first = .ok value ∧ second value = .error fault := by
  cases first with
  | error cause =>
    cases h
    exact .inl rfl
  | ok value => exact .inr ⟨value, rfl, h⟩

end PageMarkup
