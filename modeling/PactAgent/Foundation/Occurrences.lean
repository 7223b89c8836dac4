import PactAgent.Foundation.Execution

/-! How often a kind of step is taken in a run, and balances between two kinds: steps that
spend what others earn. -/

namespace PactAgent.Foundation.Execution
variable {State Action : Type*} (step : State → Action → Option State)

/-- The number of steps of a kind, up to the first action that is not enabled. -/
def occurrences (kind : State → Action → State → Bool) : State → List Action → Nat
  | _, [] => 0
  | state, action :: actions =>
      match step state action with
      | some next => (kind state action next).toNat + occurrences kind next actions
      | none => 0

variable {step} {kind spends earns : State → Action → State → Bool}

theorem occurrences_cons {state next : State} {action : Action} {actions : List Action}
    (taken : step state action = some next) : occurrences step kind state (action :: actions) =
      (kind state action next).toNat + occurrences step kind next actions := by
  rw [occurrences, taken]

theorem occurrences_stuck {state : State} {action : Action} {actions : List Action} (stuck : step state action = none) :
    occurrences step kind state (action :: actions) = 0 := by
  rw [occurrences, stuck]

/-- Where the balance is never negative, and each step keeps it, a run spends no more than
the start has saved and the run earns. -/
theorem occurrences_balance {balanced : State → Nat → Nat → Prop}
    (solvent : ∀ state spent earned, balanced state spent earned → spent ≤ earned)
    (keeps : ∀ state action next spent earned, balanced state spent earned → step state action = some next →
      balanced next (spent + (spends state action next).toNat) (earned + (earns state action next).toNat))
    (actions : List Action) {state : State} {spent earned : Nat} (start : balanced state spent earned) :
    spent + occurrences step spends state actions ≤ earned + occurrences step earns state actions := by
  induction actions generalizing state spent earned with
  | nil => exact solvent state spent earned start
  | cons action actions ih =>
    cases taken : step state action with
    | none =>
      rw [occurrences_stuck taken, occurrences_stuck taken]
      exact solvent state spent earned start
    | some next =>
      have onwards := ih (keeps state action next spent earned start taken)
      rw [occurrences_cons taken, occurrences_cons taken, ← Nat.add_assoc, ← Nat.add_assoc]
      exact onwards

end PactAgent.Foundation.Execution
