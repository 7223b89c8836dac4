import PactAgent.Common.Amounts
import PactAgent.Foundation.Guard
import PactAgent.Rail.Codec

/-! The transaction builder: from agreement terms to the commitment an escrow
cell carries, and from a persisted commitment to a settlement intent. -/

namespace PactAgent.Rail.Builder
open PactAgent.Common PactAgent.Common.Amounts PactAgent.Foundation
open PactAgent.Contract.Lock PactAgent.Contract.Validate
open PactAgent.Rail.Script PactAgent.Rail.Codec

inductive CkbNetwork where
  | testnet
  | mainnet
  deriving DecidableEq

inductive DepType where
  | code
  | depGroup
  deriving DecidableEq

structure ContractConfig where
  codeHash : String
  hashType : HashType
  deploymentTxHash : String
  outputIndex : Nat
  depType : DepType

structure CkbRailConfig where
  enabled : Bool
  network : CkbNetwork
  contract : ContractConfig
  confirmations : Nat

def MAX_BLOCK_SINCE : Nat := 2 ^ 56 - 1

/-- The pattern `^(0|[1-9]\d*)$`. -/
def isUnsignedDecimal (value : String) : Bool :=
  value == "0" || isPositiveIntegerAmount value

def parseRefundTimeoutSince (value : String) : Except Failure Nat := do
  if ¬isUnsignedDecimal value then
    throw (.app (invalidRequest
      "refundTimeoutSince must be an unsigned block-number since value." "invalid_ckb_since"))
  else if decimalValue value.toList > MAX_BLOCK_SINCE then
    throw (.app (invalidRequest
      "refundTimeoutSince must use absolute block-number semantics." "invalid_ckb_since"))
  else
    return decimalValue value.toList

/-- One character of a JSON string literal as `JSON.stringify` writes it. -/
def escapeChar (character : Char) : List Char :=
  if character = '"' then ['\\', '"']
  else if character = '\\' then ['\\', '\\']
  else if character = '\n' then ['\\', 'n']
  else if character = '\r' then ['\\', 'r']
  else if character = '\t' then ['\\', 't']
  else if character.toNat = 8 then ['\\', 'b']
  else if character.toNat = 12 then ['\\', 'f']
  else if character.toNat < 32 then
    ['\\', 'u', '0', '0', Nat.digitChar (character.toNat / 16), Nat.digitChar (character.toNat % 16)]
  else [character]

def quoted (text : String) : List Char := '"' :: text.toList.flatMap escapeChar ++ ['"']

/-- `JSON.stringify` of an array of strings. -/
def stringifyStrings (parts : List String) : String :=
  String.ofList ('[' :: List.intercalate [','] (parts.map quoted) ++ [']'])

def digest (hashing : CkbHashing) (parts : List String) : Hash :=
  hashing.hashCkb (stringifyStrings parts).toUTF8.data.toList

/-- `Script.from(script).hash()`; a code hash that is not 32 bytes long makes the library throw. -/
def lockHash (hashing : CkbHashing) (script : NormalizedCkbScript) : Except Failure Hash :=
  match scriptFrom script with
  | some script => .ok (hashing.scriptHash script)
  | none => .error (.other "Unexpected bytes length")

/-- The capacity the library fills in for an output that states none. -/
def calculateOccupiedCapacity (lock : NormalizedCkbScript) (outputData : String) : Nat :=
  (8 + (32 + 1 + (bytesFrom lock.args).length) + (bytesFrom outputData).length) * 100000000

structure CommitmentInput where
  agreementId : String
  milestoneId : String
  milestoneIndex : Int
  amount : String
  clientLockScript : Option Json
  workerLockScript : Option Json
  refundTimeoutSince : String

structure CkbEscrowCommitment where
  lockScript : NormalizedCkbScript
  clientLockScript : NormalizedCkbScript
  workerLockScript : NormalizedCkbScript
  cellData : String
  contractVersion : Nat
  refundTimeoutSince : String
  amount : String
  outputIndex : Nat

def createCommitment (hashing : CkbHashing) (railConfig : CkbRailConfig) (input : CommitmentInput) :
    Except Failure CkbEscrowCommitment := do
  let amount ← parsePositiveIntegerAmount input.amount "amount"
  let clientLockScript ← requiredScript input.clientLockScript "clientLockScript"
  let workerLockScript ← requiredScript input.workerLockScript "workerLockScript"
  let refundTimeoutSince ← parseRefundTimeoutSince input.refundTimeoutSince
  let clientLockHash ← lockHash hashing clientLockScript
  let workerLockHash ← lockHash hashing workerLockScript
  let lockArgs ← encodeEscrowLockArgs
    ⟨hashHex clientLockHash, hashHex workerLockHash,
      hashHex (digest hashing ["pactagent", "agreement-salt", input.agreementId])⟩
  let lockScript : NormalizedCkbScript :=
    ⟨railConfig.contract.codeHash, railConfig.contract.hashType, lockArgs⟩
  let cellData ← encodeEscrowCellData
    ⟨input.milestoneIndex, refundTimeoutSince,
      hashHex (digest hashing ["pactagent", "agreement", input.agreementId]),
      hashHex (digest hashing
        ["pactagent", "milestone", input.agreementId, input.milestoneId, input.amount])⟩
  let occupied := calculateOccupiedCapacity lockScript cellData
  if amount < occupied then
    throw (.app (invalidRequest
      s!"Escrow amount is below occupied capacity ({occupied} shannons)." "ckb_occupied_capacity_too_low"))
  else
    return ⟨lockScript, clientLockScript, workerLockScript, cellData, ESCROW_CELL_DATA_VERSION.toNat,
      toString refundTimeoutSince, toString amount, 0⟩

inductive SettlementOperation where
  | release
  | refund
  deriving DecidableEq, Repr

structure SettlementInput where
  operation : SettlementOperation
  lockTxHash : String
  lockOutputIndex : Nat
  amount : String
  clientLockScript : Option Json
  workerLockScript : Option Json
  refundTimeoutSince : String

structure OutPoint where
  txHash : String
  index : Nat
  deriving DecidableEq

structure SettlementIntent where
  operation : SettlementOperation
  escrowOutPoint : OutPoint
  amount : Nat
  destinationLock : NormalizedCkbScript
  authorizerLock : NormalizedCkbScript
  since : Nat

def createSettlementIntent (input : SettlementInput) : Except Failure SettlementIntent := do
  if ¬matchesHex (toLowerCase input.lockTxHash).toList (some 32) then
    throw (.app (invalidRequest "Escrow lock transaction hash is invalid." "invalid_ckb_transaction"))
  else
    let amount ← parsePositiveIntegerAmount input.amount "amount"
    let destinationLock ← requiredScript
      (match input.operation with | .release => input.workerLockScript | .refund => input.clientLockScript)
      "destinationLockScript"
    let authorizerLock ← requiredScript
      (match input.operation with | .release => input.clientLockScript | .refund => input.workerLockScript)
      "authorizerLockScript"
    let since ← match input.operation with
      | .refund => parseRefundTimeoutSince input.refundTimeoutSince
      | .release => pure 0
    return ⟨input.operation, ⟨toLowerCase input.lockTxHash, input.lockOutputIndex⟩, amount,
      destinationLock, authorizerLock, since⟩

structure CellDep where
  outPoint : OutPoint
  depType : DepType

def contractCellDep (railConfig : CkbRailConfig) : CellDep :=
  ⟨⟨railConfig.contract.deploymentTxHash, railConfig.contract.outputIndex⟩, railConfig.contract.depType⟩

end PactAgent.Rail.Builder
