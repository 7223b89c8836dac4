import PactAgent.Foundation.Text
import PactAgent.Rail.Script

/-! What the server concludes from the answers of a CKB node: the status of a
transaction, and whether it funds or settles a persisted commitment. An answer is
any value the node may give, or the error of the call. -/

namespace PactAgent.Rail.Node
open PactAgent.Common PactAgent.Foundation PactAgent.Rail.Script

section BigInt

def digitsValue (base : Nat) (digits : List Char) : Option Nat :=
  if digits = [] then none
  else digits.foldlM (fun sum digit =>
    (Hex.value digit).bind fun value => if value < base then some (base * sum + value) else none) 0

/-- `BigInt` of a string. -/
def bigInt (text : String) : Except Failure Int :=
  let parsed : Option Int :=
    match (Text.trim text).toList with
    | [] => some 0
    | '0' :: 'x' :: digits => (digitsValue 16 digits).map Int.ofNat
    | '0' :: 'X' :: digits => (digitsValue 16 digits).map Int.ofNat
    | '0' :: 'o' :: digits => (digitsValue 8 digits).map Int.ofNat
    | '0' :: 'O' :: digits => (digitsValue 8 digits).map Int.ofNat
    | '0' :: 'b' :: digits => (digitsValue 2 digits).map Int.ofNat
    | '0' :: 'B' :: digits => (digitsValue 2 digits).map Int.ofNat
    | '-' :: digits => (digitsValue 10 digits).map fun value => -Int.ofNat value
    | '+' :: digits => (digitsValue 10 digits).map Int.ofNat
    | digits => (digitsValue 10 digits).map Int.ofNat
  match parsed with
  | some value => .ok value
  | none => .error (.other "Cannot convert the string to a BigInt")

end BigInt

structure CellInput where
  txHash : String
  index : String

structure CellOutput where
  capacity : String
  lock : Json

structure RpcTransaction where
  inputs : List CellInput
  outputs : List CellOutput
  outputsData : List String

inductive TxStatus where
  | pending
  | proposed
  | committed
  | rejected
  | unknown
  deriving DecidableEq

structure TransactionResponse where
  transaction : Option RpcTransaction
  status : TxStatus
  blockHash : Option String
  blockNumber : Option String
  reason : Option String

inductive ObservationStatus where
  | pending
  | committed
  | confirmed
  | rejected
  | unknown
  deriving DecidableEq

structure Observation where
  status : ObservationStatus
  confirmations : Nat
  blockHash : Option String
  blockNumber : Option String
  reason : Option String

/-- The answers to `getTransaction` and `getTipHeader` in one observation. -/
structure ObserveAnswers where
  transaction : Except Failure (Option TransactionResponse)
  tipNumber : Except Failure String

/-- The answers of a verification: the transaction, then those of an observation. -/
structure VerifyAnswers where
  transaction : Except Failure (Option TransactionResponse)
  observe : ObserveAnswers

/-- A string property that is missing, null or empty counts as absent. -/
def present (text : Option String) : Option String := text.filter fun value => value ≠ ""

theorem present_some {text : Option String} {value : String} (found : present text = some value) :
    text = some value := (Option.filter_eq_some_iff.mp found).1

def observeTransaction (confirmations : Nat) (answers : ObserveAnswers) : Except Failure Observation := do
  match (← answers.transaction) with
  | none => return ⟨.unknown, 0, none, none, none⟩
  | some response =>
      if response.status = .rejected then
        let blockNumber ← match present response.blockNumber with
          | some number => do pure (some (toString (← bigInt number)))
          | none => pure none
        return ⟨.rejected, 0, response.blockHash, blockNumber, response.reason⟩
      else
        match response.status, present response.blockNumber with
        | .committed, some number => do
            let tip ← answers.tipNumber
            let blockNumber ← bigInt number
            let depth := (← bigInt tip) - blockNumber + 1
            return ⟨if depth ≥ confirmations then .confirmed else .committed, depth.toNat,
              response.blockHash, some (toString blockNumber), none⟩
        | _, _ => return ⟨.pending, 0, none, none, none⟩

structure FundingTerms where
  outputIndex : Nat
  lockScript : Option Json
  cellData : String
  amount : String

/-- The output at the index is the committed cell: its lock, its data, its capacity. -/
def fundingMatches (terms : FundingTerms) (transaction : RpcTransaction) : Except Failure Unit := do
  match transaction.outputs[terms.outputIndex]?, transaction.outputsData[terms.outputIndex]? with
  | some output, some outputData =>
      if ¬scriptsEqual (some output.lock) terms.lockScript ∨
          toLowerCase outputData ≠ toLowerCase terms.cellData then throw mismatch
      else if (← bigInt output.capacity) ≠ (← bigInt terms.amount) then
        throw (.app (invalidRequest "Funding output capacity does not exactly match the escrow amount."
          "ckb_funding_amount_mismatch"))
      else return ()
  | _, _ => throw mismatch
where
  mismatch : Failure := .app (invalidRequest
    "Funding output does not match the persisted escrow commitment." "ckb_funding_mismatch")

def verifyFunding (confirmations : Nat) (terms : FundingTerms) (answers : VerifyAnswers) :
    Except Failure Observation := do
  match (← answers.transaction).bind (·.transaction) with
  | none => throw (.app (invalidRequest
      "Funding transaction was not found on the configured CKB network." "ckb_funding_not_found"))
  | some transaction => do
      fundingMatches terms transaction
      observeTransaction confirmations answers.observe

structure SettlementTerms where
  lockTxHash : String
  lockOutputIndex : Nat
  destinationLockScript : Option Json
  amount : String

/-- `filter` with a test that may throw. -/
def filterChecked {α : Type} (test : α → Except Failure Bool) : List α → Except Failure (List α)
  | [] => .ok []
  | item :: items => do
      let keeps ← test item
      let rest ← filterChecked test items
      return if keeps then item :: rest else rest

/-- An input that spends the persisted outpoint. -/
def spendsEscrow (terms : SettlementTerms) (input : CellInput) : Except Failure Bool := do
  if toLowerCase input.txHash ≠ toLowerCase terms.lockTxHash then return false
  else return (← bigInt input.index) = (terms.lockOutputIndex : Int)

/-- An output of exactly the amount to the destination. -/
def paysDestination (terms : SettlementTerms) (output : CellOutput) : Except Failure Bool := do
  if ¬scriptsEqual (some output.lock) terms.destinationLockScript then return false
  else return (← bigInt output.capacity) = (← bigInt terms.amount)

def settlementMatches (terms : SettlementTerms) (transaction : RpcTransaction) : Except Failure Unit := do
  let matchingInputs ← filterChecked (spendsEscrow terms) transaction.inputs
  if matchingInputs.length ≠ 1 then
    throw (.app (invalidRequest "Settlement transaction does not spend exactly the persisted escrow outpoint."
      "ckb_settlement_input_mismatch"))
  else
    let matchingOutputs ← filterChecked (paysDestination terms) transaction.outputs
    if matchingOutputs.length ≠ 1 then
      throw (.app (invalidRequest "Settlement transaction must contain one exact escrow destination output."
        "ckb_settlement_output_mismatch"))
    else return ()

def verifySettlement (confirmations : Nat) (terms : SettlementTerms) (answers : VerifyAnswers) :
    Except Failure Observation := do
  match (← answers.transaction).bind (·.transaction) with
  | none => throw (.app (invalidRequest
      "Settlement transaction was not found on the configured CKB network." "ckb_settlement_not_found"))
  | some transaction => do
      settlementMatches terms transaction
      observeTransaction confirmations answers.observe

end PactAgent.Rail.Node
