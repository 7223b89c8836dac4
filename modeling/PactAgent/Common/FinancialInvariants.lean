import PactAgent.Common.Amounts
import PactAgent.Foundation.Guard

/-! The financial checks that the services make before they write. -/

namespace PactAgent.Common.Amounts

def parseNonNegativeIntegerAmount (value fieldName : String) : Except Failure Nat :=
  if value ≠ "0" ∧ ¬isPositiveIntegerAmount value then
    .error (.app (invalidRequest s!"{fieldName} must be a non-negative integer string." "invalid_amount"))
  else if decimalValue value.toList > MAX_SHANNONS then
    .error (.app (invalidRequest
      s!"{fieldName} exceeds the maximum supported shannon amount." "amount_out_of_range"))
  else .ok (decimalValue value.toList)

def sumIntegerAmounts (values : List String) : Except Failure Nat :=
  values.foldlM (fun sum value => do return sum + (← parsePositiveIntegerAmount value "amount")) 0

def assertCurrencyMatchesAgreement (currency agreementCurrency : String) : Except Failure Unit :=
  if currency ≠ agreementCurrency then
    .error (.app (invalidRequest
      "Financial resource currency must match the agreement currency." "currency_mismatch"))
  else .ok ()

def assertMilestoneAllocationWithinAgreement (existingTotal : Nat) (proposedAmount agreementAmount : String) :
    Except Failure Unit := do
  let proposed ← parsePositiveIntegerAmount proposedAmount "amount"
  let total ← parsePositiveIntegerAmount agreementAmount "agreement.totalAmount"
  if existingTotal + proposed > total then
    throw (.app (invalidRequest "The sum of milestone amounts cannot exceed the agreement totalAmount."
      "milestone_total_exceeds_agreement"))

inductive AmountScope where
  | agreement
  | milestone
  deriving DecidableEq

def AmountScope.name : AmountScope → String
  | .agreement => "agreement"
  | .milestone => "milestone"

def assertEscrowAmountWithinScope (escrowAmount scopeAmount : String) (scope : AmountScope) (exact : Bool) :
    Except Failure Unit := do
  let amount ← parsePositiveIntegerAmount escrowAmount "amount"
  let limit ← parsePositiveIntegerAmount scopeAmount s!"{scope.name}.amount"
  if exact ∧ amount ≠ limit then
    throw (.app (invalidRequest s!"Escrow amount must exactly equal {scope.name} amount for this rail."
      s!"escrow_amount_must_equal_{scope.name}"))
  if amount > limit then
    throw (.app (invalidRequest s!"Escrow amount cannot exceed {scope.name} amount."
      s!"escrow_amount_exceeds_{scope.name}"))

def assertSettlementSplit (workerAmount clientAmount settlementAmount : String) : Except Failure Unit := do
  let worker ← parseNonNegativeIntegerAmount workerAmount "workerAmount"
  let client ← parseNonNegativeIntegerAmount clientAmount "clientAmount"
  let settlement ← parsePositiveIntegerAmount settlementAmount "settlementAmount"
  if worker > settlement ∨ client > settlement then
    throw (.app (invalidRequest "Neither dispute split amount may exceed the funded settlement amount."
      "invalid_settlement_split"))
  if worker + client ≠ settlement then
    throw (.app (invalidRequest
      "workerAmount and clientAmount must exactly equal the funded settlement amount."
      "invalid_settlement_split"))

theorem sumIntegerAmounts_ok {values : List String} {total : Nat} (summed : sumIntegerAmounts values = .ok total) :
    total = (values.map amountValue).sum := by
  have fold : ∀ (values : List String) (start total : Nat),
      values.foldlM (fun sum value => do return sum + (← parsePositiveIntegerAmount value "amount")) start =
        (Except.ok total : Except Failure Nat) → total = start + (values.map amountValue).sum := by
    intro values
    induction values with
    | nil =>
      intro start total summed
      cases summed
      rfl
    | cons value values ih =>
      intro start total summed
      rw [List.foldlM_cons] at summed
      cases parsed : parsePositiveIntegerAmount value "amount" with
      | error error => rw [parsed] at summed; cases summed
      | ok amount =>
        rw [parsed] at summed
        have rest := ih (start + amount) total summed
        rw [rest, parsePositiveIntegerAmount_value parsed, List.map_cons, List.sum_cons]
        omega
  simpa using fold values 0 total summed

end PactAgent.Common.Amounts
