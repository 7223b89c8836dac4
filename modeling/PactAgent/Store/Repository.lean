import PactAgent.Lifecycle.StateMachines

/-! The statements of the repositories. A compare-and-swap updates a row only where
its status is the expected one and answers with the number of rows it updated; an
insert fails on the primary key and on the unique indexes. -/

namespace PactAgent.Store
open PactAgent.Foundation PactAgent.Common PactAgent.Lifecycle PactAgent.Idempotency.Repository

/-- The repository function that a statement belongs to. -/
inductive Query where
  | createAgreement
  | findAgreementForApp
  | transitionAgreementStatus
  | lockAgreementForMilestoneAllocation
  | createMilestone
  | findMilestoneForApp
  | transitionMilestoneStatus
  | getMilestoneAmountSumForAgreement
  | getNextMilestoneOrder
  | createProof
  | findProofForApp
  | transitionProofStatus
  | createReview
  | createDispute
  | findDisputeForApp
  | findUnresolvedDisputeForScope
  | findResolvedReleaseDisputeForEscrowScope
  | resolveDisputeForApp
  | createEscrow
  | findEscrowForApp
  | transitionEscrowStatus
  | deleteEscrow
  | findTerminalEscrow
  | findActiveEscrowForScope
  | listEscrowsForAgreement
  | createTransaction
  | findTransaction
  | findTransactionForEscrowType
  | updateTransaction
  | deleteTransaction
  | enqueueJob
  | findIdempotencyKey
  | reserveIdempotencyKey
  | completeIdempotencyKey
  | deleteIdempotencyKey
  deriving DecidableEq

abbrev Tx := Program Db Write Query Failure

section Statements
variable {Row Answer : Type}

def readStatement (query : Query) (read : Db → Answer) : Tx Answer :=
  .statement query fun _ db => .ok (read db, [])

/-- `updateMany` on a primary key with further conditions. -/
def updateStatement (query : Query) (find : Db → Option Row) (condition : Row → Bool)
    (change : Nat → Row → Row) (clashes : Row → Db → Bool) (write : Row → Write) : Tx Nat :=
  .statement query fun now db =>
    match find db with
    | some row =>
        if condition row then
          if clashes (change now row) db then .error .uniqueConstraint
          else .ok (1, [write (change now row)])
        else .ok (0, [])
    | none => .ok (0, [])

def insertStatement (query : Query) (row : Row) (clashes : Row → Db → Bool) (write : Row → Write) : Tx Row :=
  .statement query fun _ db =>
    if clashes row db then .error .uniqueConstraint else .ok (row, [write row])

/-- `deleteMany` on a primary key with further conditions. -/
def deleteStatement (query : Query) (find : Db → Option Row) (condition : Row → Bool)
    (write : Row → Write) : Tx Unit :=
  .statement query fun _ db =>
    match find db with
    | some row => if condition row then .ok ((), [write row]) else .ok ((), [])
    | none => .ok ((), [])

/-- `findUniqueOrThrow`. -/
def readOrThrow (query : Query) (read : Db → Option Answer) : Tx Answer :=
  .statement query fun _ db =>
    match read db with
    | some answer => .ok (answer, [])
    | none => .error (.other "No record was found for a query.")

end Statements

section Agreements

def Db.agreementForApp (db : Db) (appId : String) (id : RowId) : Option Agreement :=
  (db.agreements.get id).filter fun row => row.appId = appId

def agreementClashes (row : Agreement) (db : Db) : Bool :=
  (db.agreements.get row.id).isSome ||
    row.externalReferenceId.isSome && db.agreements.rows.any fun other =>
      other.appId = row.appId && other.externalReferenceId = row.externalReferenceId

def createAgreement (row : Agreement) : Tx Agreement :=
  insertStatement .createAgreement row agreementClashes .agreement

def findAgreementForApp (appId : String) (id : RowId) : Tx (Option Agreement) :=
  readStatement .findAgreementForApp (·.agreementForApp appId id)

/-- The columns that follow the status. -/
def Agreement.transition (nextStatus : AgreementStatus) (now : Nat) (row : Agreement) : Agreement :=
  let moved := { row with status := nextStatus }
  match nextStatus with
  | .fundingRequired => { moved with settlementStatus := .fundingPending }
  | .funded => { moved with settlementStatus := .funded, fundingConfirmedAt := some now }
  | .released => { moved with settlementStatus := .payoutConfirmed }
  | .refunded => { moved with settlementStatus := .refundConfirmed }
  | _ => moved

def transitionAgreementStatus (appId : String) (id : RowId) (expectedStatus nextStatus : AgreementStatus) :
    Tx Agreement := do
  let count ← updateStatement .transitionAgreementStatus (·.agreementForApp appId id)
    (fun row => row.status = expectedStatus) (Agreement.transition nextStatus) (fun _ _ => false) .agreement
  Program.ofExcept (assertLifecycleCompareAndSwap "agreement" count expectedStatus nextStatus)
  readOrThrow .findAgreementForApp (·.agreementForApp appId id)

/-- `SELECT ... FOR UPDATE`. -/
def lockAgreementForMilestoneAllocation (appId : String) (id : RowId) : Tx Bool :=
  .statement .lockAgreementForMilestoneAllocation fun _ db =>
    match db.agreementForApp appId id with
    | some row => .ok (true, [.lockAgreement row.id])
    | none => .ok (false, [])

end Agreements

section Milestones

def Db.milestoneForApp (db : Db) (appId : String) (id : RowId) : Option Milestone :=
  (db.milestones.get id).filter fun row => row.appId = appId

def milestoneClashes (row : Milestone) (db : Db) : Bool :=
  (db.milestones.get row.id).isSome ||
    db.milestones.rows.any (fun other =>
      other.agreementId = row.agreementId && other.sortOrder = row.sortOrder) ||
    row.externalReferenceId.isSome && db.milestones.rows.any fun other =>
      other.appId = row.appId && other.externalReferenceId = row.externalReferenceId

/-- The trigger on the insertion of milestones: their agreement is on its way to funding
or beyond. -/
def membershipFrozen (row : Milestone) (db : Db) : Bool :=
  (db.agreements.get row.agreementId).any fun agreement =>
    agreement.settlementStatus ≠ .unfunded || agreement.fundingConfirmedAt.isSome ||
      agreement.status ∈ [AgreementStatus.funded, .inProgress, .proofSubmitted, .underReview, .approved,
        .releasePending, .released, .disputed, .refunded]

def createMilestone (row : Milestone) : Tx Milestone :=
  .statement .createMilestone fun _ db =>
    if membershipFrozen row db then
      .error (.other "Milestones cannot be added to or removed from a funded agreement.")
    else if milestoneClashes row db then .error .uniqueConstraint
    else .ok (row, [.milestone row])

def findMilestoneForApp (appId : String) (id : RowId) : Tx (Option Milestone) :=
  readStatement .findMilestoneForApp (·.milestoneForApp appId id)

def transitionMilestoneStatus (appId : String) (id : RowId) (expectedStatus nextStatus : MilestoneStatus) :
    Tx Milestone := do
  let count ← updateStatement .transitionMilestoneStatus (·.milestoneForApp appId id)
    (fun row => row.status = expectedStatus) (fun _ row => { row with status := nextStatus })
    (fun _ _ => false) .milestone
  Program.ofExcept (assertLifecycleCompareAndSwap "milestone" count expectedStatus nextStatus)
  readOrThrow .findMilestoneForApp (·.milestoneForApp appId id)

def getMilestoneAmountSumForAgreement (appId : String) (agreementId : RowId) : Tx (List String) :=
  readStatement .getMilestoneAmountSumForAgreement fun db =>
    (db.milestones.rows.filter fun row => row.agreementId = agreementId && row.appId = appId).map (·.amount)

/-- The largest sort order so far. -/
def getNextMilestoneOrder (appId : String) (agreementId : RowId) : Tx (Option Nat) :=
  readStatement .getNextMilestoneOrder fun db =>
    ((db.milestones.rows.filter fun row => row.agreementId = agreementId && row.appId = appId).map
      (·.sortOrder)).max?

end Milestones

section ProofsAndDisputes

def Db.proofForApp (db : Db) (appId : String) (id : RowId) : Option Proof :=
  (db.proofs.get id).filter fun row => row.appId = appId

def createProof (row : Proof) : Tx Proof :=
  insertStatement .createProof row (fun row db => (db.proofs.get row.id).isSome) .proof

def findProofForApp (appId : String) (id : RowId) : Tx (Option Proof) :=
  readStatement .findProofForApp (·.proofForApp appId id)

def transitionProofStatus (appId : String) (id : RowId) (expectedStatus nextStatus : ProofStatus) :
    Tx Proof := do
  let count ← updateStatement .transitionProofStatus (·.proofForApp appId id)
    (fun row => row.status = expectedStatus) (fun _ row => { row with status := nextStatus })
    (fun _ _ => false) .proof
  Program.ofExcept (assertLifecycleCompareAndSwap "proof" count expectedStatus nextStatus)
  readOrThrow .findProofForApp (·.proofForApp appId id)

def createReview (row : Review) : Tx Review :=
  insertStatement .createReview row (fun row db => (db.reviews.get row.id).isSome) .review

def DisputeStatus.unresolved : DisputeStatus → Bool
  | .opened | .awaitingResponse | .underReview => true
  | _ => false

def Dispute.inScope (row : Dispute) (appId : String) (agreementId milestoneId : RowId) : Bool :=
  row.appId = appId && row.agreementId = agreementId && row.milestoneId = milestoneId

def Db.disputeForApp (db : Db) (appId : String) (id : RowId) : Option Dispute :=
  (db.disputes.get id).filter fun row => row.appId = appId

/-- The partial unique index on unresolved disputes of a milestone. -/
def disputeClashes (row : Dispute) (db : Db) : Bool :=
  (db.disputes.get row.id).isSome ||
    row.status.unresolved && db.disputes.rows.any fun other =>
      other.status.unresolved && other.inScope row.appId row.agreementId row.milestoneId

def createDispute (row : Dispute) : Tx Dispute :=
  insertStatement .createDispute row disputeClashes .dispute

def findDisputeForApp (appId : String) (id : RowId) : Tx (Option Dispute) :=
  readStatement .findDisputeForApp (·.disputeForApp appId id)

def findUnresolvedDisputeForScope (appId : String) (agreementId milestoneId : RowId) : Tx (Option Dispute) :=
  readStatement .findUnresolvedDisputeForScope fun db =>
    db.disputes.first fun row => row.status.unresolved && row.inScope appId agreementId milestoneId

/-- Without a milestone the dispute of any milestone of the agreement counts. -/
def findResolvedReleaseDisputeForEscrowScope (appId : String) (agreementId : RowId)
    (milestoneId : Option RowId) : Tx (Option Dispute) :=
  readStatement .findResolvedReleaseDisputeForEscrowScope fun db =>
    db.disputes.last fun row => row.appId = appId && row.agreementId = agreementId &&
      milestoneId.all (fun id => row.milestoneId = id) && row.status = .resolvedRelease &&
        row.resolutionType = some .release

structure ResolveDisputeInput where
  resolutionType : DisputeResolutionType
  workerAmount : Option String
  clientAmount : Option String

def resolveDispute (appId : String) (id : RowId) (expectedStatus : DisputeStatus)
    (input : ResolveDisputeInput) : Tx Dispute := do
  let count ← updateStatement .resolveDisputeForApp (·.disputeForApp appId id)
    (fun row => row.status = expectedStatus)
    (fun now row => { row with
      status := statusForResolutionType input.resolutionType
      resolutionType := some input.resolutionType
      workerAmount := input.workerAmount
      clientAmount := input.clientAmount
      resolvedAt := some now }) (fun _ _ => false) .dispute
  Program.ofExcept (assertLifecycleCompareAndSwap "dispute" count expectedStatus
    (statusForResolutionType input.resolutionType))
  readOrThrow .findDisputeForApp (·.disputeForApp appId id)

end ProofsAndDisputes

section Escrows

def Db.escrowForApp (db : Db) (appId : String) (id : RowId) : Option Escrow :=
  (db.escrows.get id).filter fun row => row.appId = appId

/-- The partial unique index on the active escrows of a scope. -/
def activeScopeClashes (row : Escrow) (db : Db) : Bool :=
  !row.status.terminal && db.escrows.rows.any fun other =>
    other.id ≠ row.id && other.scope = row.scope && !other.status.terminal

def createEscrow (row : Escrow) : Tx Escrow :=
  insertStatement .createEscrow row
    (fun row db => (db.escrows.get row.id).isSome || activeScopeClashes row db) .escrow

def findEscrowForApp (appId : String) (id : RowId) : Tx (Option Escrow) :=
  readStatement .findEscrowForApp (·.escrowForApp appId id)

/-- The update moves the status and may set the columns that `change` sets. -/
def transitionEscrowStatus (appId : String) (id : RowId) (fromStatus : EscrowStatus)
    (change : Escrow → Escrow) : Tx Nat :=
  updateStatement .transitionEscrowStatus (·.escrowForApp appId id) (fun row => row.status = fromStatus)
    (fun _ row => change row) activeScopeClashes .escrow

def deleteEscrowNotCreated (appId : String) (id : RowId) : Tx Unit :=
  deleteStatement .deleteEscrow (·.escrowForApp appId id) (fun row => row.status = .notCreated) .deleteEscrow

def findTerminalEscrowForAgreement (appId : String) (agreementId : RowId) : Tx (Option Escrow) :=
  readStatement .findTerminalEscrow fun db =>
    db.escrows.first fun row => row.appId = appId && row.agreementId = agreementId &&
      row.milestoneId = none && row.status.terminal

def findTerminalEscrowForMilestone (appId : String) (milestoneId : RowId) : Tx (Option Escrow) :=
  readStatement .findTerminalEscrow fun db =>
    db.escrows.first fun row => row.appId = appId && row.milestoneId = some milestoneId && row.status.terminal

def findActiveEscrowForScope (scope : Scope) : Tx (Option Escrow) :=
  readStatement .findActiveEscrowForScope fun db =>
    db.escrows.last fun row => row.scope = scope && !row.status.terminal

def listEscrowsForAgreement (appId : String) (agreementId : RowId) : Tx (List Escrow) :=
  readStatement .listEscrowsForAgreement fun db =>
    db.escrows.rows.filter fun row => row.appId = appId && row.agreementId = agreementId

end Escrows

section Transactions

def Db.transactionForApp (db : Db) (appId : String) (id : RowId) : Option Transaction :=
  (db.transactions.get id).filter fun row => row.appId = appId

def transactionClashes (row : Transaction) (db : Db) : Bool :=
  (db.transactions.get row.id).isSome ||
    row.operationId.isSome && db.transactions.rows.any fun other =>
      other.appId = row.appId && other.operationId = row.operationId

def createTransaction (row : Transaction) : Tx Transaction :=
  insertStatement .createTransaction row transactionClashes .transaction

def updateTransaction (appId : String) (id : RowId) (change : Nat → Transaction → Transaction) : Tx Nat :=
  updateStatement .updateTransaction (·.transactionForApp appId id) (fun _ => true) change
    (fun _ _ => false) .transaction

def deleteTransaction (appId : String) (id : RowId) : Tx Unit :=
  deleteStatement .deleteTransaction (·.transactionForApp appId id) (fun _ => true) .deleteTransaction

def findTransactionForApp (appId : String) (id : RowId) : Tx (Option Transaction) :=
  readStatement .findTransaction (·.transactionForApp appId id)

def findTransactionForEscrowType (appId : String) (escrowId : RowId) (type : TransactionType) :
    Tx (Option Transaction) :=
  readStatement .findTransactionForEscrowType fun db =>
    db.transactions.last fun row => row.appId = appId && row.escrowId = some escrowId && row.type = type

def JobStatus.unfinished : JobStatus → Bool
  | .queued | .running | .retry => true
  | _ => false

/-- `enqueueJob` inside a transaction: a job under the key that is still to be done
counts; otherwise a new one is inserted. An old job that holds the key makes the
insert fail, and with it the transaction. -/
def enqueueJob (row : Job) : Tx Job := do
  let existing ← readStatement .enqueueJob fun db =>
    db.jobs.first fun other => other.dedupeKey = row.dedupeKey && other.status.unfinished
  match existing with
  | some job => pure job
  | none =>
      insertStatement .enqueueJob row
        (fun row db => (db.jobs.get row.id).isSome ||
          row.dedupeKey.isSome && db.jobs.rows.any fun other => other.dedupeKey = row.dedupeKey) .job

end Transactions

section IdempotencyKeys

def reserveIdempotentRequest (config : IdempotencyConfig) (id : Nat) (appKey : AppKey)
    (requestHash : String) : Tx Unit :=
  .statement .reserveIdempotencyKey fun now db =>
    match reserveIdempotencyKey config db.idempotencyKeys appKey requestHash id now with
    | .ok (row, _) => .ok ((), [.idempotencyKey appKey (some row)])
    | .error error => .error error

def completeIdempotentRequest (config : IdempotencyConfig) (appKey : AppKey) (requestHash : String)
    (responseStatus : Nat) (body : StoredBody Reply) (responseBytes : Nat) : Tx Unit :=
  .statement .completeIdempotencyKey fun now db =>
    match completeIdempotencyKey config db.idempotencyKeys appKey requestHash responseStatus body
        responseBytes now with
    | .ok (row, _) => .ok ((), [.idempotencyKey appKey (some row)])
    | .error error => .error error

def findIdempotentRequest (appKey : AppKey) : Tx (Option (IdempotencyRow Reply) × Nat) :=
  .statement .findIdempotencyKey fun now db => .ok ((findIdempotencyKey db.idempotencyKeys appKey, now), [])

/-- Delete the row under the key when it passes the test. -/
def deleteIdempotentRequest (appKey : AppKey) (test : Nat → IdempotencyRow Reply → Bool) : Tx Unit :=
  .statement .deleteIdempotencyKey fun now db =>
    match db.idempotencyKeys appKey with
    | some row => if test now row then .ok ((), [.idempotencyKey appKey none]) else .ok ((), [])
    | none => .ok ((), [])

end IdempotencyKeys

end PactAgent.Store
