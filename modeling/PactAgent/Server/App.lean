import PactAgent.Escrow.Services
import PactAgent.Foundation.ReadCommitted

/-! The server as processes over its database: every request of the API and every
run of the reconciliation job is one process. Between two transactions a process
may wait for any time, and the rail answers as it pleases. -/

namespace PactAgent.Server
open PactAgent.Common PactAgent.Foundation PactAgent.Lifecycle PactAgent.Store PactAgent.Escrow
open PactAgent.Idempotency.Repository PactAgent.Idempotency.Service
open PactAgent.Rail.Builder PactAgent.Rail.Node

/-- The operations whose work is one idempotent transaction. -/
inductive Operation where
  | createAgreement (input : CreateAgreementInput)
  | acceptAgreement (agreementId : RowId)
  | cancelAgreement (agreementId : RowId)
  | moveAgreementToFundingRequired (agreementId : RowId)
  | createMilestone (agreementId : RowId) (input : CreateMilestoneInput)
  | createProof (input : CreateProofInput)
  | reviewProof (proofId : RowId) (decision : ReviewDecision)
  | createDispute (input : CreateDisputeInput)
  | resolveDispute (disputeId : RowId) (input : ResolveDisputeInput)

def Operation.run (req : RequestContext) : Operation → Tx Reply
  | .createAgreement input => createAgreementForApp req.request req.appId input
  | .acceptAgreement agreementId => Lifecycle.acceptAgreement req.appId agreementId
  | .cancelAgreement agreementId => transitionAgreement req.appId agreementId .cancelled
  | .moveAgreementToFundingRequired agreementId =>
      transitionAgreement req.appId agreementId .fundingRequired
  | .createMilestone agreementId input => createMilestoneForAgreement req.request req.appId agreementId input
  | .createProof input => createProofForApp req.request req.appId input
  | .reviewProof proofId decision => reviewProofForApp req.request req.appId proofId decision
  | .createDispute input => createDisputeForApp req.request req.appId input
  | .resolveDispute disputeId input => resolveDisputeForApp req.appId disputeId input

def Operation.statusCode : Operation → Nat
  | .createAgreement _ | .createMilestone _ _ | .createProof _ | .createDispute _ => 201
  | .acceptAgreement _ | .cancelAgreement _ | .moveAgreementToFundingRequired _ | .reviewProof _ _
  | .resolveDispute _ _ => 200

/-- What a request asks for. -/
inductive Call where
  | operation (operation : Operation)
  | createEscrow (input : CreateEscrowInput)
  | markFunded (escrowId : RowId) (txHash : Option String)
  | settle (operation : SettlementOperation) (escrowId : RowId)

inductive Request where
  | api (appId : String) (context : IdempotencyContext) (requestId : String) (call : Call)
  | reconcile (transactionId : RowId)
  /-- The retention worker deletes an expired idempotency key. -/
  | cleanup (appKey : AppKey)

/-- How a lookup of a stored response goes on where it finds none. -/
inductive Fallback where
  | proceed (call : Call)
  | throw (error : Failure)
  | clear (error : Failure)
  /-- After a second failed finalization: errors of the lookup are swallowed, and
  the first error is thrown, in the creation of an escrow through one more handler. -/
  | swallow (error : Failure) (handler : Bool)

inductive ReplayStage where
  | find
  | deleteExpired
  | findAgain

inductive Phase where
  | replaying (req : RequestContext) (stage : ReplayStage) (fallback : Fallback)
  | reserving (req : RequestContext) (operation : Operation)
  | running (req : RequestContext) (operation : Operation)
  | clearing (req : RequestContext) (error : Failure)
  | creating (req : RequestContext) (input : CreateEscrowInput)
  | locking (req : RequestContext) (reserved : ReservedEscrowCreation)
  | lockSigned (req : RequestContext) (reserved : ReservedEscrowCreation)
      (commitment : CkbEscrowCommitment) (signedHash : String)
  | lockSent (req : RequestContext) (reserved : ReservedEscrowCreation)
      (commitment : CkbEscrowCommitment) (signedHash : String)
  /-- The error of the first attempt, in the second one. -/
  | finalizingCreation (req : RequestContext) (reserved : ReservedEscrowCreation)
      (result : EscrowAdapterResult) (firstError : Option Failure)
  | discarding (req : RequestContext) (reserved : ReservedEscrowCreation) (error : Failure)
  | fundingReserving (req : RequestContext) (escrowId : RowId) (txHash : Option String)
  | funding (req : RequestContext) (before : Escrow) (txHash : Option String)
  | finalizingFunding (req : RequestContext) (before : Escrow) (result : EscrowAdapterResult)
  | settlementReserving (req : RequestContext) (operation : SettlementOperation) (escrowId : RowId)
  | settling (req : RequestContext) (operation : SettlementOperation) (reserved : ReservedEscrowSettlement)
  | settlementSigned (req : RequestContext) (operation : SettlementOperation)
      (reserved : ReservedEscrowSettlement) (signedHash : String)
  | settlementSent (req : RequestContext) (operation : SettlementOperation)
      (reserved : ReservedEscrowSettlement) (signedHash : String)
  | finalizingFailed (req : RequestContext) (operation : SettlementOperation)
      (reserved : ReservedEscrowSettlement) (error : Failure)
  | finalizingSettlement (req : RequestContext) (operation : SettlementOperation)
      (reserved : ReservedEscrowSettlement) (result : EscrowAdapterResult) (firstError : Option Failure)
  | loading (transactionId : RowId)
  | observing (snapshot : Snapshot)
  | reconciling (snapshot : Snapshot) (observation : Observation)
  | cleaning (appKey : AppKey)
  | returned (reply : Reply)
  | reconciled (result : ReconcileResult)
  | failed (error : Failure)
  | cleaned

/-- What the rail answers, or that a transaction is sent to it. -/
inductive External where
  | localRail
  | sign (signed : Except Failure String)
  | send
  | answer (hash : Except Failure String)
  | verify (answers : VerifyAnswers)
  | observe (answers : ObserveAnswers) (verification : VerifyAnswers)

/-- A transaction that was sent to the node, with the row it belongs to. -/
structure Handed where
  transactionId : RowId
  escrowId : RowId
  type : TransactionType
  txHash : String
  deriving DecidableEq

/-- An answer of the node, and the process that it was given to. -/
inductive Report where
  | observed (process : Nat) (txHash : String) (answers : ObserveAnswers)
  | fetched (process : Nat) (txHash : String) (answer : Except Failure (Option TransactionResponse))

/-- What has passed between the server and the node. -/
structure Env where
  handed : List Handed
  reports : List Report

def Env.empty : Env := ⟨[], []⟩

section Replay

def firstPhase (req : RequestContext) : Call → Phase
  | .operation operation => .reserving req operation
  | .createEscrow input => .creating req input
  | .markFunded escrowId txHash => .fundingReserving req escrowId txHash
  | .settle operation escrowId => .settlementReserving req operation escrowId

/-- The end of the lookup without a stored response. -/
def Fallback.phase (req : RequestContext) : Fallback → Phase
  | .proceed call => firstPhase req call
  | .throw error => .failed error
  | .clear error => .clearing req error
  | .swallow error true =>
      if error = .uniqueConstraint then .replaying req .find (.throw error) else .failed error
  | .swallow error false => .failed error

/-- The end of the lookup by an error. -/
def Fallback.thrown (req : RequestContext) (error : Failure) : Fallback → Phase
  | .swallow first handler => (Fallback.swallow first handler).phase req
  | _ => .failed error

def replayPhase (req : RequestContext) (fallback : Fallback) :
    Option (IdempotencyRow Reply) → Phase
  | none => fallback.phase req
  | some row =>
      if row.requestHash ≠ req.context.requestHash then
        fallback.thrown req (.app (conflict
          "Idempotency key was already used with a different request body." "idempotency_key_conflict"))
      else
        match row.status, row.responseStatus, row.responseBodyJson with
        | .completed, some _, some body => .returned body.data
        | _, _, _ => fallback.thrown req (.app (conflict
            "Idempotency key is already processing. Retry the same request after the first request completes."
            "idempotency_key_in_progress"))

def replayBody (req : RequestContext) (fallback : Fallback) : ReplayStage → Tx Phase
  | .find => do
      let (existing, now) ← findIdempotentRequest req.appKey
      match existing with
      | some row =>
          if expired row now then return .replaying req .deleteExpired fallback
          else return replayPhase req fallback (some row)
      | none => return replayPhase req fallback none
  | .deleteExpired => do
      deleteIdempotentRequest req.appKey fun now row => expired row now
      return .replaying req .findAgain fallback
  | .findAgain => do
      let (existing, _) ← findIdempotentRequest req.appKey
      return replayPhase req fallback existing

end Replay

variable (settings : Settings)

def arrival (process : Nat) : Request → Phase
  | .api appId context requestId call => .replaying ⟨process, appId, context, requestId⟩ .find (.proceed call)
  | .reconcile transactionId => .loading transactionId
  | .cleanup appKey => .cleaning appKey

/-- The transaction of each phase that has one. -/
def body : Phase → Option (Tx Phase)
  | .replaying req stage fallback => some (replayBody req fallback stage)
  | .reserving req operation => some (do
      reserveRequest settings req
      return .running req operation)
  | .running req operation => some (do
      let data ← operation.run req
      storeIdempotentResponse settings req operation.statusCode data
      return .returned data)
  | .clearing req error => some (do
      deletePendingRequest req
      return .failed error)
  | .creating req input => some (do return .locking req (← reserveEscrowCreation settings req input))
  | .finalizingCreation req reserved result _ => some (do
      return .returned (← finalizeEscrowCreation settings req reserved result))
  | .discarding req reserved error => some (do
      discardEscrowCreation req reserved
      return .failed error)
  | .fundingReserving req escrowId txHash => some (do
      let before ← reserveFunding settings req escrowId
      return if before.status = .funded then .returned (.escrow before) else .funding req before txHash)
  | .finalizingFunding req before result => some (do
      return .returned (← finalizeEscrowFunding settings req before result))
  | .settlementReserving req operation escrowId => some (do
      return .settling req operation (← reserveEscrowSettlement settings req escrowId operation))
  | .finalizingFailed req operation reserved error => some (do
      let _ ← finalizeFailedEscrowSettlement settings req operation reserved
      return .failed error)
  | .finalizingSettlement req operation reserved result _ => some (do
      return .returned (← finalizeSuccessfulEscrowSettlement settings req operation reserved result))
  | .loading transactionId => some (do return .observing (← loadSnapshot settings transactionId))
  | .reconciling snapshot observation => some (do
      return .reconciled (← reconcileTransaction settings snapshot observation))
  | .cleaning appKey => some (do
      deleteIdempotentRequest appKey fun now row => expired row now
      return .cleaned)
  | .locking .. | .lockSigned .. | .lockSent .. | .funding .. | .settling .. | .settlementSigned ..
  | .settlementSent .. | .observing _ | .returned _ | .reconciled _ | .failed _ | .cleaned => none

/-- A unique-constraint error of a reservation may be a race with the same request. -/
def afterRace (req : RequestContext) (error : Failure) : Phase :=
  if error = .uniqueConstraint then .replaying req .find (.throw error) else .failed error

/-- The handlers around the transactions. The finalization of a mark-funded request
is returned without being awaited, so that its errors pass the handler by. -/
def caught : Phase → Failure → Phase
  | .replaying req _ fallback, error => fallback.thrown req error
  | .reserving req _, error => afterRace req error
  | .running req _, error =>
      if error = .uniqueConstraint then .replaying req .find (.clear error) else .clearing req error
  | .clearing _ first, _ => .failed first
  | .creating req _, error => afterRace req error
  | .finalizingCreation req reserved result none, error => .finalizingCreation req reserved result (some error)
  | .finalizingCreation req _ _ (some first), _ => .replaying req .find (.swallow first true)
  | .fundingReserving req _ _, error => afterRace req error
  | .settlementReserving req _ _, error => afterRace req error
  | .finalizingSettlement req operation reserved result none, error =>
      .finalizingSettlement req operation reserved result (some error)
  | .finalizingSettlement req _ _ _ (some first), _ => .replaying req .find (.swallow first false)
  | _, error => .failed error

section Outside

def Env.hand (env : Env) (transactionId : RowId) (escrow : Escrow) (type : TransactionType)
    (txHash : String) : Env :=
  { env with handed := env.handed ++ [⟨transactionId, escrow.id, type, txHash⟩] }

def Env.report (env : Env) (reports : List Report) : Env := { env with reports := env.reports ++ reports }

def verifyReports (process : Nat) (txHash : String) (answers : VerifyAnswers) : List Report :=
  [.fetched process txHash answers.transaction, .observed process txHash answers.observe]

/-- The observation of a reconciliation, and the verification that a transaction in
a block needs. -/
def observeSnapshot (snapshot : Snapshot) (answers : ObserveAnswers) (verification : VerifyAnswers) :
    Except Failure Observation := do
  let observation ← observeTransaction settings.railConfig.confirmations answers
  if observation.status = .committed ∨ observation.status = .confirmed then
    match snapshot.transaction.type with
    | .lock => do
        let _ ← checkFundingStatus settings snapshot.escrow verification
    | .release => do
        let _ ← checkSettlementStatus settings .release snapshot.escrow verification
    | .refund => do
        let _ ← checkSettlementStatus settings .refund snapshot.escrow verification
    return observation
  else return observation

/-- A transaction outside the blocks is not verified. -/
def observesBlock (answers : ObserveAnswers) : Bool :=
  match observeTransaction settings.railConfig.confirmations answers with
  | .ok observation => observation.status = .committed || observation.status = .confirmed
  | .error _ => false

/-- The transaction whose content a reconciliation verifies. -/
def verifiedHash (snapshot : Snapshot) : String :=
  match snapshot.transaction.type with
  | .lock => snapshot.escrow.lockTxHash.getD ""
  | .release | .refund => snapshot.txHash

def outside (env : Env) (process : Nat) : Phase → External → Option (Env × Phase)
  | .locking req reserved, .localRail =>
      if reserved.created.rail = .ckb then none
      else some (env, .finalizingCreation req reserved (mockLock settings reserved.created) none)
  | .locking req reserved, .sign signed =>
      if reserved.created.rail ≠ .ckb then none
      else
        match prepareLock settings reserved.created reserved.milestoneIndex, signed with
        | .ok commitment, .ok signedHash => some (env, .lockSigned req reserved commitment signedHash)
        | .ok _, .error error => some (env, .discarding req reserved error)
        | .error error, _ => some (env, .discarding req reserved error)
  | .lockSigned req reserved commitment signedHash, .send =>
      some (env.hand reserved.transactionId reserved.created .lock signedHash,
        .lockSent req reserved commitment signedHash)
  | .lockSent req reserved commitment signedHash, .answer hash =>
      some (env, .finalizingCreation req reserved (lockResult commitment signedHash hash) none)
  | .funding req before txHash, .localRail =>
      if before.rail = .ckb then none
      else some (env, .finalizingFunding req before (mockMarkFunded settings before txHash))
  | .funding req before txHash, .verify answers =>
      if before.rail ≠ .ckb then none
      else
        let env := env.report (verifyReports process (before.lockTxHash.getD "") answers)
        match markFundedCkb settings before txHash answers with
        | .ok result => some (env, .finalizingFunding req before result)
        | .error error => some (env, .clearing req error)
  | .settling req operation reserved, .localRail =>
      if reserved.pending.rail = .ckb then none
      else some (env, .finalizingSettlement req operation reserved
        (mockSettle settings operation reserved.pending) none)
  | .settling req operation reserved, .sign signed =>
      if reserved.pending.rail ≠ .ckb then none
      else
        match prepareSettlement settings operation reserved.pending, signed with
        | .ok _, .ok signedHash => some (env, .settlementSigned req operation reserved signedHash)
        | .ok _, .error error => some (env, .finalizingFailed req operation reserved error)
        | .error error, _ => some (env, .finalizingFailed req operation reserved error)
  | .settlementSigned req operation reserved signedHash, .send =>
      some (env.hand reserved.transactionId reserved.pending (settlementType operation) signedHash,
        .settlementSent req operation reserved signedHash)
  | .settlementSent req operation reserved signedHash, .answer hash =>
      some (env, .finalizingSettlement req operation reserved
        (settlementResult operation signedHash hash) none)
  | .observing snapshot, .observe answers verification =>
      let verified := if observesBlock settings answers
        then verifyReports process (verifiedHash snapshot) verification else []
      let env := env.report (.observed process snapshot.txHash answers :: verified)
      match observeSnapshot settings snapshot answers verification with
      | .ok observation => some (env, .reconciling snapshot observation)
      | .error error => some (env, .failed error)
  | _, _ => none

end Outside

/-- The server over the generic machine of transactions. -/
def app : ReadCommitted.App Db Write Query Failure Phase Env External Request where
  arrival := arrival
  body _ := body settings
  caught := caught
  outside := outside settings

abbrev State := ReadCommitted.State Db Write Lock Query Failure Phase Env

abbrev Action := ReadCommitted.Action Failure External Request

abbrev step : State → Action → Option State := ReadCommitted.step (app settings)

/-- An empty database, and nothing sent to the node. -/
abbrev initial : State := ReadCommitted.State.initial Db.empty Env.empty

/-! Scripts: the actions of one request that meets no other on its way. -/

section Scripts

/-- A server for the sandbox rails, with hash functions that do not matter there. -/
def sandbox : Settings where
  idempotency := ⟨1000, 1000, 1000⟩
  byteLength _ := 0
  railConfig := ⟨true, .testnet, ⟨"", .type, "", 0, .code⟩, 1⟩
  hashing := ⟨fun _ => ⟨List.replicate 32 0, by decide⟩, fun _ => ⟨List.replicate 32 0, by decide⟩⟩
  sha256Hex _ := ""
  uuid _ := ""

/-- A call of the only app, under a key of its own. -/
def api (process : Nat) (call : Call) : Action := .arrive process (.api "app" ⟨toString process, ""⟩ "" call)

/-- A transaction of so many statements, from its start to its end. -/
def transact (process statements : Nat) : List Action :=
  .start process :: List.replicate statements (.statement process 0) ++ [.finish process]

/-- An operation whose own transaction has so many statements. -/
def operate (process : Nat) (operation : Operation) (statements : Nat) : List Action :=
  api process (.operation operation) :: [transact process 1, transact process 1, transact process statements].flatten

/-- An escrow on the mock rail; a milestone takes one more read. -/
def openMock (process : Nat) (agreementId : RowId) (milestoneId : Option RowId) (amount : String) : List Action :=
  api process (.createEscrow ⟨agreementId, milestoneId, amount, "CKB", .mock, .sandbox, none, none, none⟩) ::
    [transact process 1, transact process (if milestoneId.isSome then 7 else 6), [.outside process .localRail],
      transact process 4].flatten

/-- Funding on the mock rail, with a finalization of so many statements. -/
def fundMock (process : Nat) (escrowId : RowId) (statements : Nat) : List Action :=
  api process (.markFunded escrowId none) ::
    [transact process 1, transact process 2, [.outside process .localRail], transact process statements].flatten

/-- The reservation of a settlement, with a transaction of so many statements. -/
def reserveMock (process : Nat) (operation : SettlementOperation) (escrowId : RowId) (statements : Nat) :
    List Action :=
  api process (.settle operation escrowId) :: [transact process 1, transact process statements].flatten

end Scripts

end PactAgent.Server
