import PactAgent.Escrow.Adapter
import PactAgent.Idempotency.Service
import PactAgent.Lifecycle.Services

/-! The database transactions of escrow requests and of the reconciliation job: a
reservation, the work of the rail outside the database, and a finalization. -/

namespace PactAgent.Escrow
open PactAgent.Common PactAgent.Common.Amounts PactAgent.Foundation PactAgent.Lifecycle PactAgent.Store
open PactAgent.Idempotency.Repository PactAgent.Idempotency.Service
open PactAgent.Rail.Builder PactAgent.Rail.Node PactAgent.Rail.Script

variable (settings : Settings)

/-- An authenticated request with its number and its idempotency key. -/
structure RequestContext where
  request : Nat
  appId : String
  context : IdempotencyContext
  requestId : String

def RequestContext.appKey (req : RequestContext) : AppKey := ⟨req.appId, req.context.key⟩

section Common

def reserveRequest (req : RequestContext) : Tx Unit :=
  reserveIdempotentRequest settings.idempotency req.request req.appKey req.context.requestHash

def storeIdempotentResponse (req : RequestContext) (statusCode : Nat) (data : Reply) : Tx Unit :=
  let body : StoredBody Reply := ⟨data, req.requestId⟩
  if settings.byteLength body > settings.idempotency.idempotencyMaxResponseBytes then
    throw (.app (invalidRequest "Idempotent response exceeds the storage limit."
      "idempotency_response_too_large"))
  else completeIdempotentRequest settings.idempotency req.appKey req.context.requestHash statusCode body
    (settings.byteLength body)

def deletePendingRequest (req : RequestContext) : Tx Unit :=
  deleteIdempotentRequest req.appKey fun _ row =>
    row.requestHash == req.context.requestHash && row.status = .pending

def confirmedForRail (rail : Rail) (network : Network) : Bool :=
  (rail = .mock || rail = .manual) && network = .sandbox

/-- Nothing is enqueued for the other rails. -/
def enqueueCkbReconciliation (jobId : RowId) (escrow : Escrow) (transactionId : RowId) : Tx Unit := do
  if escrow.rail ≠ .ckb then pure ()
  else
    let _ ← enqueueJob
      { id := jobId
        appId := escrow.appId
        agreementId := escrow.agreementId
        status := .queued
        dedupeKey := some transactionId
        transactionId
        maxAttempts := 100 }
    pure ()

end Common

section Parents

def transitionMilestoneIfAllowed (appId : String) (milestoneId : RowId) (toStatus : MilestoneStatus) :
    Tx Unit := do
  match (← findMilestoneForApp appId milestoneId) with
  | none => pure ()
  | some milestone =>
      if milestone.status = toStatus then pure ()
      else if ¬canTransitionMilestone milestone.status toStatus then pure ()
      else
        let _ ← transitionMilestoneStatus appId milestoneId milestone.status toStatus
        pure ()

/-- An agreement follows its escrows once all of them have ended in the same status. -/
def transitionAgreementWhenAllEscrowsTerminal (appId : String) (agreementId : RowId)
    (operation : SettlementOperation) : Tx Unit := do
  let toStatus : AgreementStatus := match operation with | .release => .released | .refund => .refunded
  match (← findAgreementForApp appId agreementId) with
  | none => pure ()
  | some agreement =>
      if agreement.status = toStatus then pure ()
      else
        let escrows ← listEscrowsForAgreement appId agreementId
        if escrows.isEmpty || escrows.any fun escrow => !escrow.status.terminal then pure ()
        else
          let terminalStatus : EscrowStatus := match operation with | .release => .released | .refund => .refunded
          if ¬escrows.all fun escrow => escrow.status = terminalStatus then pure ()
          else if canTransitionAgreement agreement.status .releasePending ∧ operation = .release then
            let _ ← transitionAgreementStatus appId agreementId agreement.status .releasePending
            let _ ← transitionAgreementStatus appId agreementId .releasePending .released
            pure ()
          else if canTransitionAgreement agreement.status toStatus then
            let _ ← transitionAgreementStatus appId agreementId agreement.status toStatus
            pure ()
          else pure ()

/-- A funded escrow moves the agreement and the milestone that wait for funding. -/
def transitionFundingScope (appId : String) (escrow : Escrow) : Tx Unit := do
  match (← findAgreementForApp appId escrow.agreementId) with
  | some agreement =>
      if agreement.status = .fundingRequired then
        let _ ← transitionAgreementStatus appId escrow.agreementId agreement.status .funded
        pure ()
      else pure ()
  | none => pure ()
  match escrow.milestoneId with
  | none => pure ()
  | some milestoneId =>
      match (← findMilestoneForApp appId milestoneId) with
      | some milestone =>
          if milestone.status ∈ [MilestoneStatus.pending, .fundingRequired] then
            let _ ← transitionMilestoneStatus appId milestoneId milestone.status .funded
            pure ()
          else pure ()
      | none => pure ()

def settlementMilestoneStatus : SettlementOperation → MilestoneStatus
  | .release => .released
  | .refund => .refunded

/-- The end of a settlement, on the milestone and on the agreement. -/
def transitionSettledScope (appId : String) (escrow : Escrow) (operation : SettlementOperation) : Tx Unit := do
  match escrow.milestoneId with
  | some milestoneId => transitionMilestoneIfAllowed appId milestoneId (settlementMilestoneStatus operation)
  | none => pure ()
  transitionAgreementWhenAllEscrowsTerminal appId escrow.agreementId operation

end Parents

section Creation

structure CreateEscrowInput where
  agreementId : RowId
  milestoneId : Option RowId
  amount : String
  currency : String
  rail : Rail
  network : Network
  clientLockScript : Option Json
  workerLockScript : Option Json
  refundTimeoutSince : Option String

def CreateEscrowInput.scope (input : CreateEscrowInput) (appId : String) : Scope :=
  ⟨appId, input.agreementId, input.milestoneId⟩

/-- The scope exists, and the escrow fits its currency and amount. -/
def assertEscrowAgreementScope (appId : String) (input : CreateEscrowInput) : Tx (Option Milestone) := do
  let agreement ← required "Agreement not found." "agreement_not_found"
    (← findAgreementForApp appId input.agreementId)
  match input.milestoneId with
  | some milestoneId => do
      let milestone ← milestoneOf appId milestoneId agreement "Milestone not found for agreement."
      Program.ofExcept (assertCurrencyMatchesAgreement input.currency agreement.currency)
      Program.ofExcept (assertEscrowAmountWithinScope input.amount milestone.amount .milestone
        (input.rail = .ckb))
      return some milestone
  | none => do
      Program.ofExcept (assertCurrencyMatchesAgreement input.currency agreement.currency)
      Program.ofExcept (assertEscrowAmountWithinScope input.amount agreement.amount .agreement
        (input.rail = .ckb))
      return none

structure ReservedEscrowCreation where
  created : Escrow
  milestoneIndex : Option Nat
  transactionId : RowId

def activeEscrowExists : Failure :=
  .app (conflict "An active escrow already exists for this settlement scope." "active_escrow_exists")

def newEscrow (req : RequestContext) (input : CreateEscrowInput) : Escrow :=
  { id := ⟨req.request, 0⟩
    appId := req.appId
    agreementId := input.agreementId
    milestoneId := input.milestoneId
    amount := input.amount
    currency := input.currency
    rail := input.rail
    network := input.network
    status := .notCreated
    lockAddress := none
    lockTxHash := none
    lockOutputIndex := none
    lockScriptJson := none
    clientLockScriptJson := input.clientLockScript
    workerLockScriptJson := input.workerLockScript
    cellData := none
    contractVersion := none
    refundTimeoutSince := input.refundTimeoutSince
    releaseTxHash := none
    refundTxHash := none }

/-- The transaction row of one operation on an escrow, as it is reserved. -/
def newTransaction (id : RowId) (escrow : Escrow) (type : TransactionType) : Transaction :=
  { id
    appId := escrow.appId
    agreementId := some escrow.agreementId
    milestoneId := escrow.milestoneId
    escrowId := some escrow.id
    type
    rail := escrow.rail
    network := escrow.network
    status := .pending
    operationId := some ⟨escrow.id, type⟩
    txHash := none
    blockHash := none
    blockNumber := none
    confirmations := 0
    lastCheckedAt := none
    broadcastAt := none
    confirmedAt := none
    reconciliationError := none
    amount := escrow.amount
    currency := escrow.currency }

def findTerminalEscrow (appId : String) (input : CreateEscrowInput) : Tx (Option Escrow) :=
  match input.milestoneId with
  | some milestoneId => findTerminalEscrowForMilestone appId milestoneId
  | none => findTerminalEscrowForAgreement appId input.agreementId

def reserveEscrowCreation (req : RequestContext) (input : CreateEscrowInput) : Tx ReservedEscrowCreation := do
  reserveRequest settings req
  let milestone ← assertEscrowAgreementScope req.appId input
  let terminalEscrow ← findTerminalEscrow req.appId input
  if terminalEscrow.isSome then
    throw (.app (invalidRequest
      "Cannot create a new escrow after the escrow scope reached a terminal state."
      "escrow_terminal_state_exists")) else
  let activeEscrow ← findActiveEscrowForScope (input.scope req.appId)
  if activeEscrow.isSome then throw activeEscrowExists else
  let created ← (createEscrow (newEscrow req input)).mapError fun error =>
    if error = .uniqueConstraint then activeEscrowExists else error
  let transaction ← createTransaction (newTransaction ⟨req.request, 1⟩ created .lock)
  return ⟨created, milestone.map (·.sortOrder), transaction.id⟩

def discardEscrowCreation (req : RequestContext) (reserved : ReservedEscrowCreation) : Tx Unit := do
  deleteTransaction req.appId reserved.transactionId
  deleteEscrowNotCreated req.appId reserved.created.id
  deletePendingRequest req

/-- What the adapter's result writes into the reserved escrow. -/
def escrowLockedBy (result : EscrowAdapterResult) (created : Escrow) (row : Escrow) : Escrow :=
  { row with
    status := result.status
    lockAddress := result.lockAddress
    lockTxHash := result.txHash
    lockOutputIndex := result.lockOutputIndex
    lockScriptJson := result.lockScript
    clientLockScriptJson := result.clientLockScript.or created.clientLockScriptJson
    workerLockScriptJson := result.workerLockScript.or created.workerLockScriptJson
    cellData := result.cellData
    contractVersion := result.contractVersion
    refundTimeoutSince := result.refundTimeoutSince.or created.refundTimeoutSince }

def transactionLockedBy (updated : Escrow) (nextStatus : EscrowStatus) (now : Nat) (row : Transaction) :
    Transaction :=
  let immediateConfirmation := confirmedForRail updated.rail updated.network
  { row with
    status := if nextStatus = .reconciliationRequired then .reconciliationRequired
      else if immediateConfirmation then .confirmed else .broadcast
    txHash := updated.lockTxHash
    broadcastAt := (present updated.lockTxHash).map fun _ => now
    confirmedAt := if immediateConfirmation then some now else none }

def finalizeEscrowCreation (req : RequestContext) (reserved : ReservedEscrowCreation)
    (result : EscrowAdapterResult) : Tx Reply := do
  let nextStatus := result.status
  Program.ofExcept (assertEscrowTransition .notCreated nextStatus)
  let created := reserved.created
  let count ← transitionEscrowStatus req.appId created.id .notCreated (escrowLockedBy result created)
  Program.ofExcept (assertLifecycleCompareAndSwap "escrow" count .notCreated nextStatus)
  let updated ← required "Escrow not found after lock creation." "escrow_not_found"
    (← findEscrowForApp req.appId created.id)
  let _ ← updateTransaction req.appId reserved.transactionId (transactionLockedBy updated nextStatus)
  enqueueCkbReconciliation ⟨req.request, 2⟩ updated reserved.transactionId
  storeIdempotentResponse settings req 201 (.escrow updated)
  return .escrow updated

end Creation

section Funding

def reserveFunding (req : RequestContext) (escrowId : RowId) : Tx Escrow := do
  reserveRequest settings req
  let escrow ← required "Escrow not found." "escrow_not_found" (← findEscrowForApp req.appId escrowId)
  if escrow.status = .notCreated then
    throw (.app (invalidRequest "Escrow must be created before it can be marked funded."
      "escrow_not_created"))
  else if escrow.status = .funded then
    storeIdempotentResponse settings req 200 (.escrow escrow)
    return escrow
  else return escrow

def transactionFundedBy (result : EscrowAdapterResult) (updated : Escrow) (now : Nat) (row : Transaction) :
    Transaction :=
  { row with
    status := if result.status = .funded then .confirmed else .committed
    txHash := updated.lockTxHash
    confirmations := result.confirmations.getD 0
    blockHash := result.blockHash
    blockNumber := result.blockNumber
    lastCheckedAt := some now
    confirmedAt := if result.status = .funded then some now else none }

/-- The move of the escrow; none when it is already in the status. -/
def moveFunding (appId : String) (current : Escrow) (result : EscrowAdapterResult) : Tx Unit := do
  if current.status ≠ result.status then
    Program.ofExcept (assertEscrowTransition current.status result.status)
    let count ← transitionEscrowStatus appId current.id current.status fun row =>
      { row with status := result.status, lockTxHash := result.txHash.or current.lockTxHash }
    Program.ofExcept (assertLifecycleCompareAndSwap "escrow" count current.status result.status)
  else pure ()

def finalizeEscrowFunding (req : RequestContext) (before : Escrow) (result : EscrowAdapterResult) :
    Tx Reply := do
  let current ← required "Escrow not found." "escrow_not_found" (← findEscrowForApp req.appId before.id)
  if current.status = .funded then
    storeIdempotentResponse settings req 200 (.escrow current)
    return .escrow current
  else if result.status ∉ [EscrowStatus.fundingDetected, .funded] then
    throw (.app (invalidRequest "Funding verification returned an invalid lifecycle status."
      "invalid_funding_status"))
  else
    moveFunding req.appId current result
    let updated ← required "Escrow not found after funding." "escrow_not_found"
      (← findEscrowForApp req.appId current.id)
    match (← findTransactionForEscrowType req.appId updated.id .lock) with
    | some lockTransaction =>
        let _ ← updateTransaction req.appId lockTransaction.id (transactionFundedBy result updated)
        pure ()
    | none => pure ()
    if result.status = .funded then transitionFundingScope req.appId updated else pure ()
    storeIdempotentResponse settings req 200 (.escrow updated)
    return .escrow updated

end Funding

section Settlement

/-- Who may be paid: after approval, or after a dispute that was resolved so. -/
def assertReleaseAllowed (appId : String) (escrow : Escrow) (agreement : Option Agreement)
    (milestone : Option Milestone) : Tx Unit := do
  if escrow.status ≠ .funded then
    throw (.app (invalidRequest "Escrow release requires funded status." "escrow_not_funded"))
  else
    match agreement with
    | none => throw (.app (invalidRequest "Escrow release requires an infrastructure agreement."
        "agreement_not_infrastructure_managed"))
    | some agreement =>
        if agreement.status = .approved ∧
            (escrow.milestoneId = none ∨ milestone.map (·.status) = some .approved) then pure ()
        else if agreement.status = .disputed then
          let resolved ← findResolvedReleaseDisputeForEscrowScope appId escrow.agreementId escrow.milestoneId
          if resolved.isSome then pure () else throw releaseNotAllowed
        else if agreement.status = .released then
          throw (.app (invalidRequest "Escrow has already been released." "escrow_already_released"))
        else if agreement.status = .refunded then
          throw (.app (invalidRequest "Escrow release is forbidden after refund." "escrow_already_refunded"))
        else throw releaseNotAllowed
where
  releaseNotAllowed : Failure :=
    .app (invalidRequest "Escrow release requires proof approval or dispute resolution."
      "escrow_release_not_allowed")

def assertRefundAllowed (escrow : Escrow) (agreement : Option Agreement) : Except Failure Unit :=
  if escrow.status = .released ∨ escrow.status = .releasePending then
    .error (.app (invalidRequest "Escrow refund is forbidden after release." "escrow_already_released"))
  else if escrow.status ≠ .funded then
    .error (.app (invalidRequest "Escrow refund requires funded status." "escrow_not_funded"))
  else if agreement.map (·.status) = some .released then
    .error (.app (invalidRequest "Escrow refund is forbidden after agreement release."
      "agreement_already_released"))
  else .ok ()

structure ReservedEscrowSettlement where
  before : Escrow
  pending : Escrow
  transactionId : RowId

def settlementPendingStatus : SettlementOperation → EscrowStatus
  | .release => .releasePending
  | .refund => .refundPending

def settlementTerminalStatus : SettlementOperation → EscrowStatus
  | .release => .released
  | .refund => .refunded

def settlementType : SettlementOperation → TransactionType
  | .release => .release
  | .refund => .refund

def operationName : SettlementOperation → String
  | .release => "release"
  | .refund => "refund"

/-- The guard of the operation, with the reads that only a release makes. -/
def assertSettlementAllowed (appId : String) (operation : SettlementOperation) (before : Escrow)
    (agreement : Option Agreement) : Tx Unit := do
  match operation with
  | .release =>
      match before.milestoneId with
      | some milestoneId =>
          let milestone ← findMilestoneForApp appId milestoneId
          assertReleaseAllowed appId before agreement milestone
      | none => assertReleaseAllowed appId before agreement none
  | .refund => Program.ofExcept (assertRefundAllowed before agreement)

def reserveEscrowSettlement (req : RequestContext) (escrowId : RowId) (operation : SettlementOperation) :
    Tx ReservedEscrowSettlement := do
  reserveRequest settings req
  let before ← required "Escrow not found." "escrow_not_found" (← findEscrowForApp req.appId escrowId)
  let agreement ← findAgreementForApp req.appId before.agreementId
  assertSettlementAllowed req.appId operation before agreement
  let pendingStatus := settlementPendingStatus operation
  Program.ofExcept (assertEscrowTransition before.status pendingStatus)
  let count ← transitionEscrowStatus req.appId escrowId before.status fun row =>
    { row with status := pendingStatus }
  if count ≠ 1 then
    throw (.app (conflict s!"Escrow {operationName operation} is already processing."
      s!"escrow_{operationName operation}_in_progress")) else
  let pending ← required "Escrow not found after settlement reservation." "escrow_not_found"
    (← findEscrowForApp req.appId escrowId)
  let transaction ← createTransaction
    (newTransaction ⟨req.request, 0⟩ pending (settlementType operation))
  return ⟨before, pending, transaction.id⟩

/-- Both finalizations go on only from the pending status of their operation. -/
def currentPending (req : RequestContext) (operation : SettlementOperation) (escrowId : RowId)
    (purpose : String) : Tx Escrow := do
  let current ← required "Escrow not found." "escrow_not_found" (← findEscrowForApp req.appId escrowId)
  if current.status ≠ settlementPendingStatus operation then
    throw (.app (conflict s!"Escrow {operationName operation} state changed before {purpose} finalization."
      s!"escrow_{operationName operation}_state_changed"))
  else return current

def finalizeFailedEscrowSettlement (req : RequestContext) (operation : SettlementOperation)
    (reserved : ReservedEscrowSettlement) : Tx Reply := do
  let current ← currentPending req operation reserved.pending.id "failure"
  let pendingStatus := settlementPendingStatus operation
  Program.ofExcept (assertEscrowTransition current.status .failed)
  let count ← transitionEscrowStatus req.appId current.id pendingStatus fun row => { row with status := .failed }
  Program.ofExcept (assertLifecycleCompareAndSwap "escrow" count pendingStatus .failed)
  let failed ← required "Escrow not found after failure finalization." "escrow_not_found"
    (← findEscrowForApp req.appId current.id)
  let _ ← updateTransaction req.appId reserved.transactionId fun _ row => { row with status := .failed }
  storeIdempotentResponse settings req 200 (.escrow failed)
  return .escrow failed

def escrowSettledBy (operation : SettlementOperation) (nextStatus : EscrowStatus) (txHash : Option String)
    (row : Escrow) : Escrow :=
  match operation with
  | .release => { row with status := nextStatus, releaseTxHash := txHash }
  | .refund => { row with status := nextStatus, refundTxHash := txHash }

/-- Only the sandbox rails reach the terminal status at once. -/
def settlementNextStatus (operation : SettlementOperation) (current : Escrow) (adapterStatus : EscrowStatus) :
    EscrowStatus :=
  if adapterStatus = .reconciliationRequired then .reconciliationRequired
  else if confirmedForRail current.rail current.network ∧ adapterStatus = settlementTerminalStatus operation then
    settlementTerminalStatus operation
  else settlementPendingStatus operation

def transactionSettledBy (current : Escrow) (nextStatus : EscrowStatus) (txHash : Option String) (now : Nat)
    (row : Transaction) : Transaction :=
  { row with
    status := if nextStatus = .reconciliationRequired then .reconciliationRequired
      else if confirmedForRail current.rail current.network then .confirmed else .broadcast
    txHash
    broadcastAt := (present txHash).map fun _ => now }

def finalizeSuccessfulEscrowSettlement (req : RequestContext) (operation : SettlementOperation)
    (reserved : ReservedEscrowSettlement) (result : EscrowAdapterResult) : Tx Reply := do
  let current ← currentPending req operation reserved.pending.id "settlement"
  let nextStatus := settlementNextStatus operation current result.status
  if nextStatus ≠ current.status then
    Program.ofExcept (assertEscrowTransition current.status nextStatus)
  else pure ()
  let pendingStatus := settlementPendingStatus operation
  let count ← transitionEscrowStatus req.appId current.id pendingStatus
    (escrowSettledBy operation nextStatus result.txHash)
  Program.ofExcept (assertLifecycleCompareAndSwap "escrow" count pendingStatus nextStatus)
  let updated ← required "Escrow not found after settlement finalization." "escrow_not_found"
    (← findEscrowForApp req.appId current.id)
  let _ ← updateTransaction req.appId reserved.transactionId
    (transactionSettledBy current nextStatus result.txHash)
  enqueueCkbReconciliation ⟨req.request, 1⟩ updated reserved.transactionId
  if nextStatus = settlementTerminalStatus operation then transitionSettledScope req.appId updated operation
  else pure ()
  storeIdempotentResponse settings req 200 (.escrow updated)
  return .escrow updated

end Settlement

section Reconciliation

structure Snapshot where
  transaction : Transaction
  escrow : Escrow
  txHash : String

/-- The transaction with its escrow, read by two statements. -/
def loadSnapshot (transactionId : RowId) : Tx Snapshot := do
  match (← readStatement .findTransaction fun db => db.transactions.get transactionId) with
  | none => throw incomplete
  | some transaction =>
      let escrow ← match transaction.escrowId with
        | some escrowId => findEscrowForApp transaction.appId escrowId
        | none => pure none
      match escrow, present transaction.txHash with
      | some escrow, some txHash =>
          if transaction.rail ≠ .ckb then throw incomplete else return ⟨transaction, escrow, txHash⟩
      | _, _ => throw incomplete
where
  incomplete : Failure :=
    .other s!"CKB reconciliation transaction {settings.uuid transactionId} is incomplete."

def reconciliationEscrowStatus (type : TransactionType) (currentStatus : EscrowStatus)
    (observationStatus : ObservationStatus) (reorg : Bool) : EscrowStatus :=
  if reorg ∨ observationStatus = .unknown then .reconciliationRequired
  else if observationStatus = .rejected then .failed
  else
    match type with
    | .lock =>
        if observationStatus = .confirmed then .funded
        else if observationStatus = .committed then .fundingDetected
        else if currentStatus = .reconciliationRequired then .awaitingFunding
        else currentStatus
    | .release =>
        if observationStatus = .confirmed then .released
        else if currentStatus = .reconciliationRequired then .releasePending
        else currentStatus
    | .refund =>
        if observationStatus = .confirmed then .refunded
        else if currentStatus = .reconciliationRequired then .refundPending
        else currentStatus

/-- A transaction that was confirmed, or already reorganised away, is no longer in a block. -/
def reorganised (transactionStatus : TransactionStatus) (fromStatus : EscrowStatus)
    (observationStatus : ObservationStatus) : Bool :=
  (transactionStatus = .confirmed || fromStatus.terminal || transactionStatus = .reorged) &&
    !(observationStatus = .confirmed || observationStatus = .committed)

def reconciledTransactionStatus (observationStatus : ObservationStatus) (reorg : Bool) : TransactionStatus :=
  if reorg then .reorged
  else match observationStatus with
    | .pending => .pending
    | .committed => .committed
    | .confirmed => .confirmed
    | .rejected => .rejected
    | .unknown => .reconciliationRequired

def transactionReconciledBy (current : Transaction) (observation : Observation) (reorg : Bool) (now : Nat)
    (row : Transaction) : Transaction :=
  { row with
    status := reconciledTransactionStatus observation.status reorg
    confirmations := observation.confirmations
    blockHash := observation.blockHash
    blockNumber := observation.blockNumber
    lastCheckedAt := some now
    confirmedAt := if observation.status = .confirmed then some (current.confirmedAt.getD now)
      else if reorg then none else current.confirmedAt
    reconciliationError := match observation.reason with
      | some reason => some reason
      | none => if observation.status = .unknown
          then some "Transaction was not returned by the configured CKB node." else none }

structure ReconcileResult where
  complete : Bool
  status : TransactionStatus
  confirmations : Nat

/-- The move of the escrow; none when the observation leaves its status. -/
def moveReconciled (appId : String) (currentEscrow : Escrow) (nextEscrowStatus : EscrowStatus) : Tx Unit := do
  if nextEscrowStatus ≠ currentEscrow.status then
    Program.ofExcept (assertEscrowTransition currentEscrow.status nextEscrowStatus)
    let count ← transitionEscrowStatus appId currentEscrow.id currentEscrow.status fun row =>
      { row with status := nextEscrowStatus }
    Program.ofExcept (assertLifecycleCompareAndSwap "escrow" count currentEscrow.status nextEscrowStatus)
  else pure ()

/-- What a new status of the escrow means for its agreement and milestone. -/
def followReconciled (appId : String) (updatedEscrow : Escrow) (fromStatus nextEscrowStatus : EscrowStatus)
    (reorgEvent : Bool) : Tx Unit := do
  if reorgEvent ∨ nextEscrowStatus = fromStatus then pure ()
  else
    match nextEscrowStatus with
    | .funded => transitionFundingScope appId updatedEscrow
    | .released => transitionSettledScope appId updatedEscrow .release
    | .refunded => transitionSettledScope appId updatedEscrow .refund
    | _ => pure ()

def reconcileTransaction (snapshot : Snapshot) (observation : Observation) : Tx ReconcileResult := do
  let appId := snapshot.transaction.appId
  match (← findTransactionForApp appId snapshot.transaction.id), (← findEscrowForApp appId snapshot.escrow.id) with
  | some currentTransaction, some currentEscrow =>
      if currentTransaction.txHash.map toLowerCase ≠ some (toLowerCase snapshot.txHash) then
        throw (.app (conflict "CKB transaction hash changed during reconciliation."
          "ckb_reconciliation_conflict")) else
      let fromStatus := currentEscrow.status
      let reorg := reorganised currentTransaction.status fromStatus observation.status
      let nextEscrowStatus := reconciliationEscrowStatus currentTransaction.type fromStatus
        observation.status reorg
      moveReconciled appId currentEscrow nextEscrowStatus
      let _ ← updateTransaction appId currentTransaction.id
        (transactionReconciledBy currentTransaction observation reorg)
      match (← findEscrowForApp appId currentEscrow.id) with
      | none => throw (.other
          s!"Escrow {settings.uuid currentEscrow.id} disappeared during reconciliation.")
      | some updatedEscrow =>
          followReconciled appId updatedEscrow fromStatus nextEscrowStatus
            (reorg && currentTransaction.status ≠ .reorged)
          return {
            complete := observation.status = .rejected ||
              (observation.status = .confirmed &&
                decide (observation.confirmations ≥ settings.railConfig.confirmations + 20))
            status := reconciledTransactionStatus observation.status reorg
            confirmations := observation.confirmations }
  | _, _ => throw (.other
      s!"CKB reconciliation transaction {settings.uuid snapshot.transaction.id} disappeared.")

end Reconciliation

end PactAgent.Escrow
