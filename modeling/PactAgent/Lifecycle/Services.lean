import PactAgent.Common.FinancialInvariants
import PactAgent.Store.Repository

/-! The run transactions of agreements, milestones, proofs, reviews and disputes.
Each is the `run` callback of one idempotent request; rows that it creates take
their identifiers from the number of the request. -/

namespace PactAgent.Lifecycle
open PactAgent.Foundation PactAgent.Common PactAgent.Common.Amounts PactAgent.Store

section Paths

/-- Move an agreement along a path, one compare-and-swap for each status. -/
def advanceAgreement (appId : String) (id : RowId) : AgreementStatus → List AgreementStatus → Tx Unit
  | _, [] => pure ()
  | current, toStatus :: path => do
      Program.ofExcept (assertAgreementTransition current toStatus)
      let _ ← transitionAgreementStatus appId id current toStatus
      advanceAgreement appId id toStatus path

def advanceMilestone (appId : String) (id : RowId) : MilestoneStatus → List MilestoneStatus → Tx Unit
  | _, [] => pure ()
  | current, toStatus :: path => do
      Program.ofExcept (assertMilestoneTransition current toStatus)
      let _ ← transitionMilestoneStatus appId id current toStatus
      advanceMilestone appId id toStatus path

/-- A read that must find its row. -/
def required {α : Type} (message code : String) : Option α → Tx α
  | some value => pure value
  | none => throw (.app (notFound message code))

end Paths

section Agreements

structure CreateAgreementInput where
  externalReferenceId : Option String
  totalAmount : String
  currency : String

def createAgreementForApp (request : Nat) (appId : String) (input : CreateAgreementInput) : Tx Reply := do
  let created ← (createAgreement
    { id := ⟨request, 0⟩
      appId
      externalReferenceId := input.externalReferenceId
      amount := input.totalAmount
      currency := input.currency
      status := .draft
      settlementStatus := .unfunded
      fundingConfirmedAt := none }).mapError fun error =>
        if input.externalReferenceId.isSome ∧ error = .uniqueConstraint then
          .app (conflict "An agreement with this externalReferenceId already exists for the app."
            "agreement_already_exists")
        else error
  return .agreement created

def transitionAgreement (appId : String) (agreementId : RowId) (toStatus : AgreementStatus) : Tx Reply := do
  let before ← required "Agreement not found." "agreement_not_found" (← findAgreementForApp appId agreementId)
  Program.ofExcept (assertAgreementTransition before.status toStatus)
  return .agreement (← transitionAgreementStatus appId agreementId before.status toStatus)

def acceptAgreement (appId : String) (agreementId : RowId) : Tx Reply := do
  let before ← required "Agreement not found." "agreement_not_found" (← findAgreementForApp appId agreementId)
  Program.ofExcept (assertAgreementTransition before.status .pendingAcceptance)
  Program.ofExcept (assertAgreementTransition .pendingAcceptance .accepted)
  let _ ← transitionAgreementStatus appId agreementId before.status .pendingAcceptance
  return .agreement (← transitionAgreementStatus appId agreementId .pendingAcceptance .accepted)

structure CreateMilestoneInput where
  externalReferenceId : Option String
  amount : String
  currency : Option String
  order : Option Nat

def createMilestoneForAgreement (request : Nat) (appId : String) (agreementId : RowId)
    (input : CreateMilestoneInput) : Tx Reply := do
  let locked ← lockAgreementForMilestoneAllocation appId agreementId
  if ¬locked then throw (.app (notFound "Agreement not found." "agreement_not_found")) else
  let agreement ← required "Agreement not found." "agreement_not_found"
    (← findAgreementForApp appId agreementId)
  if agreement.status ∈ [AgreementStatus.funded, .inProgress, .proofSubmitted, .underReview, .approved,
      .releasePending, .released, .refunded, .disputed] then
    throw (.app (invalidRequest "Funded agreement terms are immutable; milestones can no longer be added."
      "funded_agreement_immutable")) else
  let existingTotal ← Program.ofExcept
    (sumIntegerAmounts (← getMilestoneAmountSumForAgreement appId agreementId))
  Program.ofExcept (assertMilestoneAllocationWithinAgreement existingTotal input.amount agreement.amount)
  let lastOrder ← getNextMilestoneOrder appId agreementId
  let currency := input.currency.getD agreement.currency
  Program.ofExcept (assertCurrencyMatchesAgreement currency agreement.currency)
  let created ← (createMilestone
    { id := ⟨request, 0⟩
      appId
      agreementId
      externalReferenceId := input.externalReferenceId
      amount := input.amount
      currency
      sortOrder := input.order.getD (lastOrder.getD 0 + 1)
      status := .pending }).mapError fun error =>
        if error = .uniqueConstraint then
          .app (conflict "A milestone with this externalReferenceId or order already exists for the agreement."
            "milestone_already_exists")
        else error
  return .milestone created

end Agreements

section Proofs

structure CreateProofInput where
  agreementId : RowId
  milestoneId : RowId

/-- A milestone read within its agreement. -/
def milestoneOf (appId : String) (milestoneId : RowId) (agreement : Agreement) (message : String) :
    Tx Milestone := do
  match (← findMilestoneForApp appId milestoneId) with
  | some milestone =>
      if milestone.agreementId ≠ agreement.id then throw (.app (notFound message "milestone_not_found"))
      else pure milestone
  | none => throw (.app (notFound message "milestone_not_found"))

def createProofForApp (request : Nat) (appId : String) (input : CreateProofInput) : Tx Reply := do
  let agreement ← required "Agreement not found." "agreement_not_found"
    (← findAgreementForApp appId input.agreementId)
  let milestone ← milestoneOf appId input.milestoneId agreement "Milestone not found for agreement."
  let agreementPath ← Program.ofExcept (agreementPathForProofSubmission agreement.status)
  let milestonePath ← Program.ofExcept (milestonePathForProofSubmission milestone.status)
  let created ← createProof
    { id := ⟨request, 0⟩
      appId
      agreementId := input.agreementId
      milestoneId := input.milestoneId
      status := .submitted }
  advanceAgreement appId agreement.id agreement.status agreementPath
  advanceMilestone appId milestone.id milestone.status milestonePath
  return .proof created

/-- The proof is under review before its review is written. -/
def startReview (appId : String) (proof : Proof) : Tx ProofStatus := do
  if proof.status = .submitted then
    let _ ← transitionProofStatus appId proof.id .submitted .underReview
    return .underReview
  else return proof.status

def reviewProofForApp (request : Nat) (appId : String) (proofId : RowId) (decision : ReviewDecision) :
    Tx Reply := do
  let proof ← required "Proof submission not found." "proof_not_found" (← findProofForApp appId proofId)
  if proof.status ∉ [ProofStatus.submitted, .underReview] then
    throw (.app (invalidRequest "Proof submission has already been reviewed." "proof_already_reviewed")) else
  let agreement ← required "Agreement not found." "agreement_not_found"
    (← findAgreementForApp appId proof.agreementId)
  let milestone ← milestoneOf appId proof.milestoneId agreement "Milestone not found for proof."
  let agreementPath ← Program.ofExcept (agreementPathForReviewDecision agreement.status decision)
  let milestonePath ← Program.ofExcept (milestonePathForReviewDecision milestone.status decision)
  let currentProofStatus ← startReview appId proof
  advanceAgreement appId agreement.id agreement.status agreementPath
  advanceMilestone appId milestone.id milestone.status milestonePath
  let reviewedProof ← transitionProofStatus appId proof.id currentProofStatus
    (proofStatusForReviewDecision decision)
  let review ← createReview
    { id := ⟨request, 0⟩
      appId
      agreementId := proof.agreementId
      milestoneId := proof.milestoneId
      proofSubmissionId := proof.id
      decision }
  return .review reviewedProof review

end Proofs

section Disputes

structure CreateDisputeInput where
  agreementId : RowId
  milestoneId : RowId

def activeDisputeExists : Failure :=
  .app (conflict "An unresolved dispute already exists for this settlement scope." "active_dispute_exists")

def createDisputeForApp (request : Nat) (appId : String) (input : CreateDisputeInput) : Tx Reply := do
  let agreement ← required "Agreement not found." "agreement_not_found"
    (← findAgreementForApp appId input.agreementId)
  let milestone ← milestoneOf appId input.milestoneId agreement "Milestone not found for agreement."
  let existing ← findUnresolvedDisputeForScope appId agreement.id milestone.id
  if existing.isSome then throw activeDisputeExists else
  let agreementPath ← Program.ofExcept (agreementPathForDisputeOpen agreement.status)
  let milestonePath ← Program.ofExcept (milestonePathForDisputeOpen milestone.status)
  let created ← (createDispute
    { id := ⟨request, 0⟩
      appId
      agreementId := input.agreementId
      milestoneId := input.milestoneId
      status := .opened
      resolutionType := none
      workerAmount := none
      clientAmount := none
      resolvedAt := none }).mapError fun error =>
        if error = .uniqueConstraint then activeDisputeExists else error
  advanceAgreement appId agreement.id agreement.status agreementPath
  advanceMilestone appId milestone.id milestone.status milestonePath
  return .dispute created

/-- A split needs one funded escrow and must divide its amount. -/
def checkSplit (appId : String) (agreement : Agreement) (milestone : Milestone)
    (input : ResolveDisputeInput) : Tx Unit := do
  if input.resolutionType = .split then
    match (← findActiveEscrowForScope ⟨appId, agreement.id, some milestone.id⟩) with
    | some escrow =>
        if escrow.status ≠ .funded then throw splitRequiresFunded
        else Program.ofExcept (assertSettlementSplit (input.workerAmount.getD "undefined")
          (input.clientAmount.getD "undefined") escrow.amount)
    | none => throw splitRequiresFunded
  else pure ()
where
  splitRequiresFunded : Failure :=
    .app (invalidRequest "Split resolution requires one funded escrow for the disputed milestone."
      "dispute_funded_escrow_required")

def resolveDisputeForApp (appId : String) (disputeId : RowId) (input : ResolveDisputeInput) : Tx Reply := do
  let dispute ← required "Dispute not found." "dispute_not_found" (← findDisputeForApp appId disputeId)
  Program.ofExcept (assertDisputeResolvable dispute.status)
  let agreement ← required "Agreement not found." "agreement_not_found"
    (← findAgreementForApp appId dispute.agreementId)
  let milestone ← milestoneOf appId dispute.milestoneId agreement "Milestone not found for dispute."
  checkSplit appId agreement milestone input
  let agreementPath ← Program.ofExcept (agreementPathForDisputeResolution agreement.status input.resolutionType)
  let milestonePath ← Program.ofExcept (milestonePathForDisputeResolution milestone.status input.resolutionType)
  let resolved ← resolveDispute appId disputeId dispute.status input
  advanceAgreement appId agreement.id agreement.status agreementPath
  advanceMilestone appId milestone.id milestone.status milestonePath
  return .dispute resolved

theorem assertDisputeResolvable_ok {status : DisputeStatus} {value : Unit}
    (resolvable : assertDisputeResolvable status = .ok value) : status.unresolved = true := by
  cases status <;> first | rfl | cases resolvable

end Disputes

end PactAgent.Lifecycle
