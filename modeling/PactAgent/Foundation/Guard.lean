import Mathlib

/-! What the success of a sequence of checks in `Except` says about each check. -/

namespace PactAgent.Foundation.Guard
variable {ε ε' α β : Type}

/-- A sequence succeeds when its first part does and the rest does on that value. -/
theorem bind_ok_iff {first : Except ε α} {rest : α → Except ε β} {value : β} :
    (first >>= rest) = .ok value ↔ ∃ middle, first = .ok middle ∧ rest middle = .ok value := by
  cases first with
  | error error => simp [bind, Except.bind]
  | ok middle => simp [bind, Except.bind]

/-- A rejecting test lets through exactly the values that fail it. -/
theorem reject_ok_iff {test : Prop} [Decidable test] {error : ε} {rest : Except ε α} {value : α} :
    (if test then throw error else rest) = .ok value ↔ ¬test ∧ rest = .ok value := by
  by_cases holds : test
  · simp [holds, throw, throwThe, MonadExceptOf.throw]
  · simp [holds]

theorem pure_ok_iff {first second : α} : (pure first : Except ε α) = .ok second ↔ first = second := by
  simp [pure, Except.pure]

theorem mapError_ok_iff {result : Except ε α} {change : ε → ε'} {value : α} :
    result.mapError change = .ok value ↔ result = .ok value := by
  cases result <;> simp [Except.mapError]

theorem map_ok_iff {result : Except ε α} {change : α → β} {value : β} :
    result.map change = .ok value ↔ ∃ before, result = .ok before ∧ change before = value := by
  cases result <;> simp [Except.map]

end PactAgent.Foundation.Guard
