import PactAgent.Foundation.Json
import PactAgent.Foundation.Program
import PactAgent.Foundation.Table
import PactAgent.Idempotency.Repository
import PactAgent.Rail.Builder

/-! The tables of the server, with the columns that its lifecycle code reads or
writes, and the locks that the writes of a transaction hold: one for each row, and
one for each entry of a unique index. -/

namespace PactAgent.Store
open PactAgent.Foundation PactAgent.Common PactAgent.Idempotency.Repository

/-- A generated identifier: the request that made the row, and which of its rows. -/
structure RowId where
  request : Nat
  index : Nat
  deriving DecidableEq

inductive AgreementStatus where
  | draft
  | pendingAcceptance
  | accepted
  | fundingRequired
  | funded
  | inProgress
  | proofSubmitted
  | underReview
  | approved
  | releasePending
  | released
  | rejected
  | disputed
  | cancelled
  | refunded
  | expired
  deriving DecidableEq

inductive SettlementStatus where
  | unfunded
  | fundingPending
  | funded
  | payoutConfirmed
  | refundConfirmed
  deriving DecidableEq

structure Agreement where
  id : RowId
  appId : String
  externalReferenceId : Option String
  amount : String
  currency : String
  status : AgreementStatus
  settlementStatus : SettlementStatus
  fundingConfirmedAt : Option Nat

inductive MilestoneStatus where
  | pending
  | fundingRequired
  | funded
  | inProgress
  | proofSubmitted
  | underReview
  | approved
  | released
  | rejected
  | disputed
  | refunded
  | cancelled
  | expired
  deriving DecidableEq

structure Milestone where
  id : RowId
  appId : String
  agreementId : RowId
  externalReferenceId : Option String
  amount : String
  currency : String
  sortOrder : Nat
  status : MilestoneStatus

inductive ProofStatus where
  | submitted
  | underReview
  | accepted
  | rejected
  | needsChanges
  | disputed
  deriving DecidableEq

structure Proof where
  id : RowId
  appId : String
  agreementId : RowId
  milestoneId : RowId
  status : ProofStatus

inductive ReviewDecision where
  | approved
  | rejected
  | needsChanges
  deriving DecidableEq

structure Review where
  id : RowId
  appId : String
  agreementId : RowId
  milestoneId : RowId
  proofSubmissionId : RowId
  decision : ReviewDecision

inductive DisputeStatus where
  | opened
  | awaitingResponse
  | underReview
  | resolvedRelease
  | resolvedRefund
  | resolvedSplit
  | cancelled
  deriving DecidableEq

inductive DisputeResolutionType where
  | release
  | refund
  | split
  deriving DecidableEq

structure Dispute where
  id : RowId
  appId : String
  agreementId : RowId
  milestoneId : RowId
  status : DisputeStatus
  resolutionType : Option DisputeResolutionType
  workerAmount : Option String
  clientAmount : Option String
  resolvedAt : Option Nat

inductive Rail where
  | mock
  | manual
  | ckb
  deriving DecidableEq

inductive Network where
  | sandbox
  | testnet
  | mainnet
  deriving DecidableEq

inductive EscrowStatus where
  | notCreated
  | awaitingFunding
  | fundingDetected
  | funded
  | releasePending
  | released
  | refundPending
  | refunded
  | reconciliationRequired
  | failed
  deriving DecidableEq

/-- The settlement scope of an escrow: an agreement, or one of its milestones. -/
structure Scope where
  appId : String
  agreementId : RowId
  milestoneId : Option RowId
  deriving DecidableEq

structure Escrow where
  id : RowId
  appId : String
  agreementId : RowId
  milestoneId : Option RowId
  amount : String
  currency : String
  rail : Rail
  network : Network
  status : EscrowStatus
  lockAddress : Option String
  lockTxHash : Option String
  lockOutputIndex : Option Nat
  lockScriptJson : Option Json
  clientLockScriptJson : Option Json
  workerLockScriptJson : Option Json
  cellData : Option String
  contractVersion : Option Nat
  refundTimeoutSince : Option String
  releaseTxHash : Option String
  refundTxHash : Option String

def Escrow.scope (escrow : Escrow) : Scope := ⟨escrow.appId, escrow.agreementId, escrow.milestoneId⟩

/-- Released and refunded; every other status is in the partial unique indexes. -/
def EscrowStatus.terminal : EscrowStatus → Bool
  | .released | .refunded => true
  | _ => false

inductive TransactionType where
  | lock
  | release
  | refund
  deriving DecidableEq

inductive TransactionStatus where
  | pending
  | broadcast
  | committed
  | confirmed
  | reconciliationRequired
  | rejected
  | reorged
  | failed
  deriving DecidableEq

/-- The text `escrow:<id>:<type>`. -/
structure OperationId where
  escrowId : RowId
  type : TransactionType
  deriving DecidableEq

structure Transaction where
  id : RowId
  appId : String
  agreementId : Option RowId
  milestoneId : Option RowId
  escrowId : Option RowId
  type : TransactionType
  rail : Rail
  network : Network
  status : TransactionStatus
  operationId : Option OperationId
  txHash : Option String
  blockHash : Option String
  blockNumber : Option String
  confirmations : Nat
  lastCheckedAt : Option Nat
  broadcastAt : Option Nat
  confirmedAt : Option Nat
  reconciliationError : Option String
  amount : String
  currency : String

inductive JobStatus where
  | queued
  | running
  | retry
  | completed
  | deadLetter
  deriving DecidableEq

/-- A job of kind `CKB_RECONCILE_TRANSACTION`; its payload and its dedupe key name
the transaction to reconcile. -/
structure Job where
  id : RowId
  appId : String
  agreementId : RowId
  status : JobStatus
  dedupeKey : Option RowId
  transactionId : RowId
  maxAttempts : Nat

/-- The data that a request answers with. -/
inductive Reply where
  | agreement (row : Agreement)
  | milestone (row : Milestone)
  | proof (row : Proof)
  | review (proof : Proof) (row : Review)
  | dispute (row : Dispute)
  | escrow (row : Escrow)

instance : Keyed Agreement RowId := ⟨Agreement.id⟩
instance : Keyed Milestone RowId := ⟨Milestone.id⟩
instance : Keyed Proof RowId := ⟨Proof.id⟩
instance : Keyed Review RowId := ⟨Review.id⟩
instance : Keyed Dispute RowId := ⟨Dispute.id⟩
instance : Keyed Escrow RowId := ⟨Escrow.id⟩
instance : Keyed Transaction RowId := ⟨Transaction.id⟩
instance : Keyed Job RowId := ⟨Job.id⟩

structure Db where
  agreements : Foundation.Table Agreement
  milestones : Foundation.Table Milestone
  proofs : Foundation.Table Proof
  reviews : Foundation.Table Review
  disputes : Foundation.Table Dispute
  escrows : Foundation.Table Escrow
  transactions : Foundation.Table Transaction
  jobs : Foundation.Table Job
  idempotencyKeys : PactAgent.Idempotency.Repository.Table Reply

def Db.empty : Db :=
  ⟨.empty, .empty, .empty, .empty, .empty, .empty, .empty, .empty, fun _ => none⟩

inductive Write where
  | agreement (row : Agreement)
  /-- `SELECT ... FOR UPDATE`: a lock without a change. -/
  | lockAgreement (id : RowId)
  | milestone (row : Milestone)
  | proof (row : Proof)
  | review (row : Review)
  | dispute (row : Dispute)
  | escrow (row : Escrow)
  | deleteEscrow (row : Escrow)
  | transaction (row : Transaction)
  | deleteTransaction (row : Transaction)
  | job (row : Job)
  | idempotencyKey (appKey : AppKey) (row : Option (IdempotencyRow Reply))

inductive Lock where
  | agreement (id : RowId)
  | agreementReference (appId reference : String)
  | milestone (id : RowId)
  | milestoneReference (appId reference : String)
  | milestoneOrder (agreementId : RowId) (order : Nat)
  | proof (id : RowId)
  | review (id : RowId)
  | dispute (id : RowId)
  | disputeScope (appId : String) (agreementId milestoneId : RowId)
  | escrow (id : RowId)
  | escrowScope (scope : Scope)
  | transaction (id : RowId)
  | operation (appId : String) (operationId : OperationId)
  | job (id : RowId)
  | dedupe (transactionId : RowId)
  | idempotencyKey (appKey : AppKey)
  deriving DecidableEq

def applyWrite : Write → Db → Db
  | .agreement row, db => { db with agreements := db.agreements.put row }
  | .lockAgreement _, db => db
  | .milestone row, db => { db with milestones := db.milestones.put row }
  | .proof row, db => { db with proofs := db.proofs.put row }
  | .review row, db => { db with reviews := db.reviews.put row }
  | .dispute row, db => { db with disputes := db.disputes.put row }
  | .escrow row, db => { db with escrows := db.escrows.put row }
  | .deleteEscrow row, db => { db with escrows := db.escrows.remove row.id }
  | .transaction row, db => { db with transactions := db.transactions.put row }
  | .deleteTransaction row, db => { db with transactions := db.transactions.remove row.id }
  | .job row, db => { db with jobs := db.jobs.put row }
  | .idempotencyKey appKey row, db =>
      { db with idempotencyKeys := Function.update db.idempotencyKeys appKey row }

def writeLocks : Write → List Lock
  | .agreement row => .agreement row.id :: (row.externalReferenceId.map (.agreementReference row.appId)).toList
  | .lockAgreement id => [.agreement id]
  | .milestone row => .milestone row.id :: .milestoneOrder row.agreementId row.sortOrder ::
      (row.externalReferenceId.map (.milestoneReference row.appId)).toList
  | .proof row => [.proof row.id]
  | .review row => [.review row.id]
  | .dispute row => [.dispute row.id, .disputeScope row.appId row.agreementId row.milestoneId]
  | .escrow row => [.escrow row.id, .escrowScope row.scope]
  | .deleteEscrow row => [.escrow row.id, .escrowScope row.scope]
  | .transaction row => .transaction row.id :: (row.operationId.map (.operation row.appId)).toList
  | .deleteTransaction row => .transaction row.id :: (row.operationId.map (.operation row.appId)).toList
  | .job row => .job row.id :: (row.dedupeKey.map .dedupe).toList
  | .idempotencyKey appKey _ => [.idempotencyKey appKey]

/-- No row under the entry of a unique index has appeared. -/
def NoneAppeared {Row : Type} [Keyed Row RowId] (entry : Row → Prop) (before after : Foundation.Table Row) :
    Prop :=
  ∀ row ∈ after, entry row → row ∈ before

/-- A row lock keeps the row; an index lock keeps rows under its entry from appearing. -/
def lockAgree : Lock → Db → Db → Prop
  | .agreement id, before, after => before.agreements.get id = after.agreements.get id
  | .agreementReference appId reference, before, after =>
      NoneAppeared (fun row => row.appId = appId ∧ row.externalReferenceId = some reference)
        before.agreements after.agreements
  | .milestone id, before, after => before.milestones.get id = after.milestones.get id
  | .milestoneReference appId reference, before, after =>
      NoneAppeared (fun row => row.appId = appId ∧ row.externalReferenceId = some reference)
        before.milestones after.milestones
  | .milestoneOrder agreementId order, before, after =>
      NoneAppeared (fun row => row.agreementId = agreementId ∧ row.sortOrder = order)
        before.milestones after.milestones
  | .proof id, before, after => before.proofs.get id = after.proofs.get id
  | .review id, before, after => before.reviews.get id = after.reviews.get id
  | .dispute id, before, after => before.disputes.get id = after.disputes.get id
  | .disputeScope appId agreementId milestoneId, before, after =>
      NoneAppeared (fun row => row.appId = appId ∧ row.agreementId = agreementId ∧
        row.milestoneId = milestoneId) before.disputes after.disputes
  | .escrow id, before, after => before.escrows.get id = after.escrows.get id
  | .escrowScope scope, before, after =>
      NoneAppeared (fun row => row.scope = scope) before.escrows after.escrows
  | .transaction id, before, after => before.transactions.get id = after.transactions.get id
  | .operation appId operationId, before, after =>
      NoneAppeared (fun row => row.appId = appId ∧ row.operationId = some operationId)
        before.transactions after.transactions
  | .job id, before, after => before.jobs.get id = after.jobs.get id
  | .dedupe transactionId, before, after =>
      NoneAppeared (fun row => row.dedupeKey = some transactionId) before.jobs after.jobs
  | .idempotencyKey appKey, before, after => before.idempotencyKeys appKey = after.idempotencyKeys appKey

section Laws
variable {Row : Type} [Keyed Row RowId] {entry : Row → Prop}

theorem NoneAppeared.refl (table : Foundation.Table Row) : NoneAppeared entry table table :=
  fun _ member _ => member

theorem NoneAppeared.put {row : Row} (other : ¬entry row) (table : Foundation.Table Row) :
    NoneAppeared entry table (table.put row) := by
  intro stored member keyed
  cases Table.mem_put.mp member with
  | inl same => exact absurd (same ▸ keyed) other
  | inr kept => exact kept.1

theorem NoneAppeared.remove (key : RowId) (table : Foundation.Table Row) :
    NoneAppeared entry table (table.remove key) :=
  fun _ member _ => (Table.mem_remove.mp member).1

theorem NoneAppeared.put_congr {first second : Foundation.Table Row} (none : NoneAppeared entry first second)
    (row : Row) : NoneAppeared entry (first.put row) (second.put row) := by
  intro stored member keyed
  rw [Table.mem_put] at member ⊢
  cases member with
  | inl same => exact .inl same
  | inr kept => exact .inr ⟨none stored kept.1 keyed, kept.2⟩

theorem NoneAppeared.remove_congr {first second : Foundation.Table Row}
    (none : NoneAppeared entry first second) (key : RowId) :
    NoneAppeared entry (first.remove key) (second.remove key) := by
  intro stored member keyed
  rw [Table.mem_remove] at member ⊢
  exact ⟨none stored member.1 keyed, member.2⟩

end Laws

theorem lockAgree_refl (lock : Lock) (db : Db) : lockAgree lock db db := by
  cases lock <;> first | rfl | exact fun _ member _ => member

theorem lockAgree_trans (lock : Lock) (first second third : Db) (earlier : lockAgree lock first second)
    (later : lockAgree lock second third) : lockAgree lock first third := by
  cases lock <;>
    first
    | exact Eq.trans earlier later
    | exact fun row member keyed => earlier row (later row member keyed) keyed

/-- A write changes no row and fills no index entry that it does not lock. -/
theorem lockAgree_apply (write : Write) (lock : Lock) (db : Db) (free : lock ∉ writeLocks write) :
    lockAgree lock db (applyWrite write db) := by
  cases lock with
  | agreement id =>
    cases write with
    | agreement row =>
      have other : id ≠ row.id := by
        intro same
        exact free (by simp [writeLocks, same])
      exact (Table.get_put_of_ne other).symm
    | _ => rfl
  | agreementReference appId reference =>
    cases write with
    | agreement row =>
      refine NoneAppeared.put ?_ _
      intro entry
      exact free (by simp [writeLocks, entry])
    | _ => exact NoneAppeared.refl _
  | milestone id =>
    cases write with
    | milestone row =>
      have other : id ≠ row.id := by
        intro same
        exact free (by simp [writeLocks, same])
      exact (Table.get_put_of_ne other).symm
    | _ => rfl
  | milestoneReference appId reference =>
    cases write with
    | milestone row =>
      refine NoneAppeared.put ?_ _
      intro entry
      exact free (by simp [writeLocks, entry])
    | _ => exact NoneAppeared.refl _
  | milestoneOrder agreementId order =>
    cases write with
    | milestone row =>
      refine NoneAppeared.put ?_ _
      intro entry
      exact free (by simp [writeLocks, entry])
    | _ => exact NoneAppeared.refl _
  | proof id =>
    cases write with
    | proof row =>
      have other : id ≠ row.id := by
        intro same
        exact free (by simp [writeLocks, same])
      exact (Table.get_put_of_ne other).symm
    | _ => rfl
  | review id =>
    cases write with
    | review row =>
      have other : id ≠ row.id := by
        intro same
        exact free (by simp [writeLocks, same])
      exact (Table.get_put_of_ne other).symm
    | _ => rfl
  | dispute id =>
    cases write with
    | dispute row =>
      have other : id ≠ row.id := by
        intro same
        exact free (by simp [writeLocks, same])
      exact (Table.get_put_of_ne other).symm
    | _ => rfl
  | disputeScope appId agreementId milestoneId =>
    cases write with
    | dispute row =>
      refine NoneAppeared.put ?_ _
      intro entry
      exact free (by simp [writeLocks, entry])
    | _ => exact NoneAppeared.refl _
  | escrow id =>
    cases write with
    | escrow row =>
      have other : id ≠ row.id := by
        intro same
        exact free (by simp [writeLocks, same])
      exact (Table.get_put_of_ne other).symm
    | deleteEscrow row =>
      have other : id ≠ row.id := by
        intro same
        exact free (by simp [writeLocks, same])
      exact (Table.get_remove_of_ne other).symm
    | _ => rfl
  | escrowScope scope =>
    cases write with
    | escrow row =>
      refine NoneAppeared.put ?_ _
      intro entry
      exact free (by simp [writeLocks, entry])
    | deleteEscrow row => exact NoneAppeared.remove _ _
    | _ => exact NoneAppeared.refl _
  | transaction id =>
    cases write with
    | transaction row =>
      have other : id ≠ row.id := by
        intro same
        exact free (by simp [writeLocks, same])
      exact (Table.get_put_of_ne other).symm
    | deleteTransaction row =>
      have other : id ≠ row.id := by
        intro same
        exact free (by simp [writeLocks, same])
      exact (Table.get_remove_of_ne other).symm
    | _ => rfl
  | operation appId operationId =>
    cases write with
    | transaction row =>
      refine NoneAppeared.put ?_ _
      intro entry
      exact free (by simp [writeLocks, entry])
    | deleteTransaction row => exact NoneAppeared.remove _ _
    | _ => exact NoneAppeared.refl _
  | job id =>
    cases write with
    | job row =>
      have other : id ≠ row.id := by
        intro same
        exact free (by simp [writeLocks, same])
      exact (Table.get_put_of_ne other).symm
    | _ => rfl
  | dedupe transactionId =>
    cases write with
    | job row =>
      refine NoneAppeared.put ?_ _
      intro entry
      exact free (by simp [writeLocks, entry])
    | _ => exact NoneAppeared.refl _
  | idempotencyKey appKey =>
    cases write with
    | idempotencyKey written row =>
      have other : appKey ≠ written := by
        intro same
        exact free (by simp [writeLocks, same])
      exact (Function.update_of_ne other row db.idempotencyKeys).symm
    | _ => rfl

/-- The same write on both sides keeps the agreement. -/
theorem lockAgree_congr (write : Write) (lock : Lock) (first second : Db)
    (agree : lockAgree lock first second) :
    lockAgree lock (applyWrite write first) (applyWrite write second) := by
  cases lock <;> cases write <;>
    first
    | exact agree
    | exact Table.get_put_congr agree _
    | exact Table.get_remove_congr agree _
    | exact NoneAppeared.put_congr agree _
    | exact NoneAppeared.remove_congr agree _
    | skip
  case idempotencyKey.idempotencyKey held key row =>
    change Function.update _ _ _ _ = Function.update _ _ _ _
    by_cases same : held = key
    · rw [same, Function.update_self, Function.update_self]
    · rw [Function.update_of_ne same, Function.update_of_ne same]
      exact agree

instance : Storage Db Write Lock where
  apply := applyWrite
  locks := writeLocks
  agree := lockAgree
  agree_refl := lockAgree_refl
  agree_trans := lockAgree_trans
  agree_apply := lockAgree_apply
  agree_congr := lockAgree_congr

end PactAgent.Store
