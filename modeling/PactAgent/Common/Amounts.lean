import PactAgent.Common.Errors

/-! Amounts are decimal strings of shannons; all arithmetic on them is exact. -/

namespace PactAgent.Common.Amounts

def MAX_SHANNONS : Nat := 18446744073709551615

/-- `BigInt` of a string of decimal digits. -/
def decimalValue (digits : List Char) : Nat :=
  digits.foldl (fun value digit => 10 * value + (digit.toNat - '0'.toNat)) 0

/-- The pattern `^[1-9]\d*$`. -/
def isPositiveIntegerAmount (value : String) : Bool :=
  match value.toList with
  | first :: rest => ('1' ≤ first && first ≤ '9') && rest.all Char.isDigit
  | [] => false

def parsePositiveIntegerAmount (value fieldName : String) : Except Failure Nat := do
  if ¬isPositiveIntegerAmount value then
    throw (.app (invalidRequest s!"{fieldName} must be a positive integer string." "invalid_amount"))
  else
    let amount := decimalValue value.toList
    if amount > MAX_SHANNONS then
      throw (.app (invalidRequest
        s!"{fieldName} exceeds the maximum supported shannon amount." "amount_out_of_range"))
    else
      return amount

theorem parsePositiveIntegerAmount_ok {value fieldName : String} {amount : Nat}
    (parsed : parsePositiveIntegerAmount value fieldName = .ok amount) : amount ≤ MAX_SHANNONS := by
  unfold parsePositiveIntegerAmount at parsed
  split at parsed
  · cases parsed
  · dsimp only at parsed
    split at parsed
    · cases parsed
    · cases parsed
      omega

/-- The number that an amount stands for. -/
def amountValue (value : String) : Nat := decimalValue value.toList

theorem parsePositiveIntegerAmount_value {value fieldName : String} {amount : Nat}
    (parsed : parsePositiveIntegerAmount value fieldName = .ok amount) : amount = amountValue value := by
  unfold parsePositiveIntegerAmount at parsed
  split at parsed
  · cases parsed
  · dsimp only at parsed
    split at parsed
    · cases parsed
    · cases parsed
      rfl

end PactAgent.Common.Amounts
