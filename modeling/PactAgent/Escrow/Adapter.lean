import PactAgent.Rail.Node
import PactAgent.Store.Repository

/-! The rails of an escrow. The mock and manual adapters answer by themselves; the
CKB adapter prepares a transaction, has it signed and sent, and later verifies
what the node reports about it. -/

namespace PactAgent.Escrow
open PactAgent.Common PactAgent.Foundation PactAgent.Idempotency.Repository PactAgent.Store
open PactAgent.Contract.Validate
open PactAgent.Rail.Builder PactAgent.Rail.Node PactAgent.Rail.Script

/-- The configuration of the server, and the library functions it calls. -/
structure Settings where
  idempotency : IdempotencyConfig
  /-- The size of a stored response. -/
  byteLength : StoredBody Reply → Nat
  railConfig : CkbRailConfig
  hashing : CkbHashing
  sha256Hex : String → String
  /-- The text of a generated identifier. -/
  uuid : RowId → String

structure EscrowAdapterResult where
  status : EscrowStatus
  lockAddress : Option String := none
  txHash : Option String := none
  lockOutputIndex : Option Nat := none
  lockScript : Option Json := none
  clientLockScript : Option Json := none
  workerLockScript : Option Json := none
  cellData : Option String := none
  contractVersion : Option Nat := none
  refundTimeoutSince : Option String := none
  confirmations : Option Nat := none
  blockHash : Option String := none
  blockNumber : Option String := none

variable (settings : Settings)

section Mock

def mockHash (parts : List String) : String :=
  "mock_" ++ String.ofList ((settings.sha256Hex (":".intercalate parts)).toList.take 32)

/-- The mock lock; the manual rail only renames its address. -/
def mockLock (escrow : Escrow) : EscrowAdapterResult :=
  { status := .awaitingFunding
    lockAddress := some (match escrow.rail with
      | .manual => s!"manual_escrow_{settings.uuid escrow.id}"
      | _ => s!"mock_escrow_{settings.uuid escrow.id}")
    txHash := some (mockHash settings ["lock", settings.uuid escrow.id]) }

def mockMarkFunded (escrow : Escrow) (txHash : Option String) : EscrowAdapterResult :=
  { status := .funded
    txHash := some (txHash.getD (mockHash settings ["fund", settings.uuid escrow.id])) }

def mockSettle (operation : SettlementOperation) (escrow : Escrow) : EscrowAdapterResult :=
  match operation with
  | .release =>
      { status := .released, txHash := some (mockHash settings ["release", settings.uuid escrow.id]) }
  | .refund =>
      { status := .refunded, txHash := some (mockHash settings ["refund", settings.uuid escrow.id]) }

end Mock

section Ckb

def Network.name : Network → String
  | .sandbox => "sandbox"
  | .testnet => "testnet"
  | .mainnet => "mainnet"

def railNetwork : CkbNetwork → Network
  | .testnet => .testnet
  | .mainnet => .mainnet

def assertNetwork (network : Network) : Except Failure Unit :=
  if network ≠ railNetwork settings.railConfig.network then
    .error (.app (invalidRequest
      s!"CKB escrow network {Network.name network} does not match configured network {Network.name (railNetwork settings.railConfig.network)}."
      "ckb_network_mismatch"))
  else .ok ()

structure CkbContext where
  lockTxHash : String
  lockOutputIndex : Nat
  lockScript : Json
  clientLockScript : Json
  workerLockScript : Json
  cellData : String
  refundTimeoutSince : String

def requiredContext (escrow : Escrow) : Except Failure CkbContext :=
  match present escrow.lockTxHash, escrow.lockOutputIndex, escrow.lockScriptJson,
      escrow.clientLockScriptJson, escrow.workerLockScriptJson, present escrow.cellData,
      present escrow.refundTimeoutSince with
  | some lockTxHash, some lockOutputIndex, some lockScript, some clientLockScript, some workerLockScript,
      some cellData, some refundTimeoutSince =>
      .ok ⟨lockTxHash, lockOutputIndex, lockScript, clientLockScript, workerLockScript, cellData,
        refundTimeoutSince⟩
  | _, _, _, _, _, _, _ => .error (.app (invalidRequest "Persisted CKB escrow commitment is incomplete."
      "ckb_escrow_context_incomplete"))

/-- A normalized script as the server stores it. -/
def scriptJson (script : NormalizedCkbScript) : Json :=
  .object [("codeHash", .string script.codeHash),
    ("hashType", .string (match script.hashType with
      | .data => "data" | .type => "type" | .data1 => "data1" | .data2 => "data2")),
    ("args", .string script.args)]

/-- `createEscrowLock` up to the signature. -/
def prepareLock (escrow : Escrow) (milestoneIndex : Option Nat) : Except Failure CkbEscrowCommitment := do
  if ¬settings.railConfig.enabled then
    throw (.app (invalidRequest "CKB rail is disabled." "escrow_adapter_not_ready"))
  else do
    assertNetwork settings escrow.network
    match escrow.milestoneId, milestoneIndex.filter (· ≠ 0), present escrow.refundTimeoutSince with
    | some milestoneId, some index, some refundTimeoutSince =>
        createCommitment settings.hashing settings.railConfig
          { agreementId := settings.uuid escrow.agreementId
            milestoneId := settings.uuid milestoneId
            milestoneIndex := index
            amount := escrow.amount
            clientLockScript := escrow.clientLockScriptJson
            workerLockScript := escrow.workerLockScriptJson
            refundTimeoutSince }
    | _, _, _ => throw (.app (invalidRequest "CKB escrow requires milestone scope and timeout terms."
        "ckb_escrow_terms_required"))

/-- `createEscrowLock` after the node's answer to the signed transaction. The
expected hash is kept only where the node gave none. -/
def lockResult (commitment : CkbEscrowCommitment) (signedHash : String) (answer : Except Failure String) :
    EscrowAdapterResult :=
  let status : EscrowStatus := match answer with
    | .ok broadcastHash =>
        if toLowerCase broadcastHash ≠ toLowerCase signedHash then .reconciliationRequired else .awaitingFunding
    | .error _ => .reconciliationRequired
  { status
    txHash := some (match answer with | .ok broadcastHash => broadcastHash | .error _ => signedHash)
    lockOutputIndex := some commitment.outputIndex
    lockScript := some (scriptJson commitment.lockScript)
    clientLockScript := some (scriptJson commitment.clientLockScript)
    workerLockScript := some (scriptJson commitment.workerLockScript)
    cellData := some commitment.cellData
    contractVersion := some commitment.contractVersion
    refundTimeoutSince := some commitment.refundTimeoutSince }

def checkFundingStatus (escrow : Escrow) (answers : VerifyAnswers) : Except Failure EscrowAdapterResult := do
  assertNetwork settings escrow.network
  let context ← requiredContext escrow
  let observation ← verifyFunding settings.railConfig.confirmations
    ⟨context.lockOutputIndex, some context.lockScript, context.cellData, escrow.amount⟩ answers
  return { status := if observation.status = .confirmed then .funded else .fundingDetected
           txHash := some context.lockTxHash
           confirmations := some observation.confirmations
           blockHash := observation.blockHash
           blockNumber := observation.blockNumber }

def markFundedCkb (escrow : Escrow) (txHash : Option String) (answers : VerifyAnswers) :
    Except Failure EscrowAdapterResult :=
  match present txHash, present escrow.lockTxHash with
  | some hint, some lockTxHash =>
      if toLowerCase hint ≠ toLowerCase lockTxHash then
        .error (.app (invalidRequest
          "Funding transaction hint does not match the persisted lock transaction." "ckb_funding_mismatch"))
      else checkFundingStatus settings escrow answers
  | _, _ => checkFundingStatus settings escrow answers

/-- `settle` up to the signature. -/
def prepareSettlement (operation : SettlementOperation) (escrow : Escrow) : Except Failure SettlementIntent := do
  assertNetwork settings escrow.network
  let context ← requiredContext escrow
  createSettlementIntent
    { operation
      lockTxHash := context.lockTxHash
      lockOutputIndex := context.lockOutputIndex
      amount := escrow.amount
      clientLockScript := some context.clientLockScript
      workerLockScript := some context.workerLockScript
      refundTimeoutSince := context.refundTimeoutSince }

/-- `settle` after the node's answer. Here the hash the node gives is not compared
with the expected one. -/
def settlementResult (operation : SettlementOperation) (signedHash : String) (answer : Except Failure String) :
    EscrowAdapterResult :=
  match answer with
  | .ok txHash =>
      { status := match operation with | .release => .releasePending | .refund => .refundPending
        txHash := some txHash }
  | .error _ => { status := .reconciliationRequired, txHash := some signedHash }

def checkSettlementStatus (operation : SettlementOperation) (escrow : Escrow) (answers : VerifyAnswers) :
    Except Failure Observation := do
  assertNetwork settings escrow.network
  let context ← requiredContext escrow
  verifySettlement settings.railConfig.confirmations
    ⟨context.lockTxHash, context.lockOutputIndex,
      some (match operation with | .release => context.workerLockScript | .refund => context.clientLockScript),
      escrow.amount⟩ answers

end Ckb

end PactAgent.Escrow
