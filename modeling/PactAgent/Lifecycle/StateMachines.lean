import PactAgent.Store.Schema

/-! The lifecycle tables of agreements, milestones and escrows, and the paths on
which proof submissions, reviews and disputes move an agreement and a milestone. -/

namespace PactAgent.Lifecycle
open PactAgent.Common PactAgent.Store

/-- The text of a status in the database and in messages. -/
class StatusName (Status : Type) where
  name : Status → String

instance : StatusName AgreementStatus where
  name
    | .draft => "draft"
    | .pendingAcceptance => "pending_acceptance"
    | .accepted => "accepted"
    | .fundingRequired => "funding_required"
    | .funded => "funded"
    | .inProgress => "in_progress"
    | .proofSubmitted => "proof_submitted"
    | .underReview => "under_review"
    | .approved => "approved"
    | .releasePending => "release_pending"
    | .released => "released"
    | .rejected => "rejected"
    | .disputed => "disputed"
    | .cancelled => "cancelled"
    | .refunded => "refunded"
    | .expired => "expired"

instance : StatusName MilestoneStatus where
  name
    | .pending => "pending"
    | .fundingRequired => "funding_required"
    | .funded => "funded"
    | .inProgress => "in_progress"
    | .proofSubmitted => "proof_submitted"
    | .underReview => "under_review"
    | .approved => "approved"
    | .released => "released"
    | .rejected => "rejected"
    | .disputed => "disputed"
    | .refunded => "refunded"
    | .cancelled => "cancelled"
    | .expired => "expired"

instance : StatusName ProofStatus where
  name
    | .submitted => "submitted"
    | .underReview => "under_review"
    | .accepted => "accepted"
    | .rejected => "rejected"
    | .needsChanges => "needs_changes"
    | .disputed => "disputed"

instance : StatusName DisputeStatus where
  name
    | .opened => "open"
    | .awaitingResponse => "awaiting_response"
    | .underReview => "under_review"
    | .resolvedRelease => "resolved_release"
    | .resolvedRefund => "resolved_refund"
    | .resolvedSplit => "resolved_split"
    | .cancelled => "cancelled"

instance : StatusName EscrowStatus where
  name
    | .notCreated => "not_created"
    | .awaitingFunding => "awaiting_funding"
    | .fundingDetected => "funding_detected"
    | .funded => "funded"
    | .releasePending => "release_pending"
    | .released => "released"
    | .refundPending => "refund_pending"
    | .refunded => "refunded"
    | .reconciliationRequired => "reconciliation_required"
    | .failed => "failed"

/-- The check behind every lifecycle table. -/
def assertTransition {Status : Type} [StatusName Status] (resource : String) (allowed : Bool)
    (fromStatus toStatus : Status) : Except Failure Unit :=
  if allowed then .ok ()
  else .error (.app (invalidRequest
    s!"{resource} cannot transition from {StatusName.name fromStatus} to {StatusName.name toStatus}."
    "invalid_state_transition"))

def canTransitionAgreement (fromStatus toStatus : AgreementStatus) : Bool :=
  match fromStatus with
  | .draft => toStatus ∈ [AgreementStatus.pendingAcceptance]
  | .pendingAcceptance => toStatus ∈ [AgreementStatus.accepted]
  | .accepted => toStatus ∈ [AgreementStatus.fundingRequired]
  | .fundingRequired => toStatus ∈ [AgreementStatus.funded, .cancelled]
  | .funded => toStatus ∈ [AgreementStatus.inProgress, .refunded, .disputed]
  | .inProgress => toStatus ∈ [AgreementStatus.proofSubmitted, .disputed]
  | .proofSubmitted => toStatus ∈ [AgreementStatus.underReview]
  | .underReview => toStatus ∈ [AgreementStatus.approved, .rejected, .disputed]
  | .approved => toStatus ∈ [AgreementStatus.releasePending]
  | .releasePending => toStatus ∈ [AgreementStatus.released]
  | .released => false
  | .rejected => toStatus ∈ [AgreementStatus.inProgress]
  | .disputed => toStatus ∈ [AgreementStatus.approved, .refunded, .released]
  | .cancelled => false
  | .refunded => false
  | .expired => toStatus ∈ [AgreementStatus.cancelled]

def assertAgreementTransition (fromStatus toStatus : AgreementStatus) : Except Failure Unit :=
  assertTransition "Agreement" (canTransitionAgreement fromStatus toStatus) fromStatus toStatus

def canTransitionMilestone (fromStatus toStatus : MilestoneStatus) : Bool :=
  match fromStatus with
  | .pending => toStatus ∈ [MilestoneStatus.fundingRequired, .funded, .inProgress]
  | .fundingRequired => toStatus ∈ [MilestoneStatus.funded, .refunded]
  | .funded => toStatus ∈ [MilestoneStatus.inProgress, .disputed, .refunded]
  | .inProgress => toStatus ∈ [MilestoneStatus.proofSubmitted, .disputed]
  | .proofSubmitted => toStatus ∈ [MilestoneStatus.underReview]
  | .underReview => toStatus ∈ [MilestoneStatus.approved, .rejected, .disputed]
  | .approved => toStatus ∈ [MilestoneStatus.released]
  | .released => false
  | .rejected => toStatus ∈ [MilestoneStatus.inProgress]
  | .disputed => toStatus ∈ [MilestoneStatus.approved, .released, .refunded]
  | .refunded => false
  | .cancelled => false
  | .expired => false

def assertMilestoneTransition (fromStatus toStatus : MilestoneStatus) : Except Failure Unit :=
  assertTransition "Milestone" (canTransitionMilestone fromStatus toStatus) fromStatus toStatus

/-- `failed` is unresolved rather than terminal: a confirmed lock leads back to `funded`. -/
def canTransitionEscrow (fromStatus toStatus : EscrowStatus) : Bool :=
  match fromStatus with
  | .notCreated => toStatus ∈ [EscrowStatus.awaitingFunding, .reconciliationRequired, .failed]
  | .awaitingFunding => toStatus ∈ [EscrowStatus.fundingDetected, .funded, .reconciliationRequired, .failed]
  | .fundingDetected => toStatus ∈ [EscrowStatus.funded, .reconciliationRequired, .failed]
  | .funded => toStatus ∈ [EscrowStatus.releasePending, .refundPending, .reconciliationRequired]
  | .releasePending => toStatus ∈ [EscrowStatus.released, .reconciliationRequired, .failed]
  | .released => toStatus ∈ [EscrowStatus.reconciliationRequired]
  | .refundPending => toStatus ∈ [EscrowStatus.refunded, .reconciliationRequired, .failed]
  | .refunded => toStatus ∈ [EscrowStatus.reconciliationRequired]
  | .reconciliationRequired => toStatus ∈ [EscrowStatus.awaitingFunding, .fundingDetected, .funded,
      .releasePending, .released, .refundPending, .refunded, .failed]
  | .failed => toStatus ∈ [EscrowStatus.funded]

def assertEscrowTransition (fromStatus toStatus : EscrowStatus) : Except Failure Unit :=
  assertTransition "Escrow" (canTransitionEscrow fromStatus toStatus) fromStatus toStatus

theorem assertTransition_ok_iff {Status : Type} [StatusName Status] {resource : String} {allowed : Bool}
    {fromStatus toStatus : Status} {value : Unit} :
    assertTransition resource allowed fromStatus toStatus = .ok value ↔ allowed = true := by
  unfold assertTransition
  split
  next holds => simp [holds]
  next fails => simp [fails]

theorem assertEscrowTransition_ok_iff {fromStatus toStatus : EscrowStatus} {value : Unit} :
    assertEscrowTransition fromStatus toStatus = .ok value ↔ canTransitionEscrow fromStatus toStatus = true :=
  assertTransition_ok_iff

def assertLifecycleCompareAndSwap {Status : Type} [StatusName Status] (resource : String)
    (affectedRows : Nat) (expectedStatus nextStatus : Status) : Except Failure Unit :=
  if affectedRows = 1 then .ok ()
  else .error (.app (conflict
    s!"{resource} state changed before the transition from {StatusName.name expectedStatus} to {StatusName.name nextStatus} could be applied."
    "lifecycle_conflict"))

theorem assertLifecycleCompareAndSwap_ok_iff {Status : Type} [StatusName Status] {resource : String}
    {affectedRows : Nat} {expectedStatus nextStatus : Status} {value : Unit} :
    assertLifecycleCompareAndSwap resource affectedRows expectedStatus nextStatus = .ok value ↔
      affectedRows = 1 := by
  unfold assertLifecycleCompareAndSwap
  split
  next holds => simp [holds]
  next fails => simp [fails]

section Proofs

def agreementPathForProofSubmission (status : AgreementStatus) : Except Failure (List AgreementStatus) :=
  if status ∈ [AgreementStatus.released, .refunded, .cancelled, .expired] then
    .error (.app (invalidRequest
      "Proof cannot be submitted for released, refunded, cancelled, or expired agreements."
      "proof_submission_not_allowed"))
  else if status ∉ [AgreementStatus.funded, .inProgress, .rejected] then
    .error (.app (invalidRequest "Proof submission requires a funded or in-progress agreement."
      "proof_submission_requires_active_agreement"))
  else if status = .funded then .ok [.inProgress, .proofSubmitted]
  else if status = .rejected then .ok [.inProgress, .proofSubmitted]
  else .ok [.proofSubmitted]

def milestonePathForProofSubmission (status : MilestoneStatus) : Except Failure (List MilestoneStatus) :=
  if status ∈ [MilestoneStatus.released, .refunded] then
    .error (.app (invalidRequest "Proof cannot be submitted for released or refunded milestones."
      "proof_submission_not_allowed"))
  else if status ∉ [MilestoneStatus.funded, .inProgress, .rejected] then
    .error (.app (invalidRequest "Proof submission requires a funded or in-progress milestone."
      "proof_submission_requires_active_milestone"))
  else if status = .funded then .ok [.inProgress, .proofSubmitted]
  else if status = .rejected then .ok [.inProgress, .proofSubmitted]
  else .ok [.proofSubmitted]

def proofStatusForReviewDecision : ReviewDecision → ProofStatus
  | .approved => .accepted
  | .rejected => .rejected
  | .needsChanges => .needsChanges

def agreementPathForReviewDecision (status : AgreementStatus) (decision : ReviewDecision) :
    Except Failure (List AgreementStatus) :=
  if status ∉ [AgreementStatus.proofSubmitted, .underReview] then
    .error (.app (invalidRequest "Proof review requires an agreement awaiting review."
      "proof_review_invalid_agreement_state"))
  else
    let path : List AgreementStatus := if status = .proofSubmitted then [.underReview] else []
    .ok (match decision with
      | .approved => path ++ [.approved]
      | .rejected => path ++ [.rejected]
      | .needsChanges => path ++ [.rejected, .inProgress])

def milestonePathForReviewDecision (status : MilestoneStatus) (decision : ReviewDecision) :
    Except Failure (List MilestoneStatus) :=
  if status ∉ [MilestoneStatus.proofSubmitted, .underReview] then
    .error (.app (invalidRequest "Proof review requires a milestone awaiting review."
      "proof_review_invalid_milestone_state"))
  else
    let path : List MilestoneStatus := if status = .proofSubmitted then [.underReview] else []
    .ok (match decision with
      | .approved => path ++ [.approved]
      | .rejected => path ++ [.rejected]
      | .needsChanges => path ++ [.rejected, .inProgress])

end Proofs

section Disputes

def statusForResolutionType : DisputeResolutionType → DisputeStatus
  | .release => .resolvedRelease
  | .refund => .resolvedRefund
  | .split => .resolvedSplit

def assertDisputeResolvable (status : DisputeStatus) : Except Failure Unit :=
  if status ∈ [DisputeStatus.resolvedRelease, .resolvedRefund, .resolvedSplit, .cancelled] then
    .error (.app (invalidRequest "Dispute has already been resolved." "dispute_already_resolved"))
  else .ok ()

def agreementPathForDisputeOpen (status : AgreementStatus) : Except Failure (List AgreementStatus) :=
  if status ∈ [AgreementStatus.funded, .inProgress, .underReview] then .ok [.disputed]
  else if status = .proofSubmitted then .ok [.underReview, .disputed]
  else .error (.app (invalidRequest "Agreement cannot be disputed from its current state."
    "invalid_state_transition"))

def milestonePathForDisputeOpen (status : MilestoneStatus) : Except Failure (List MilestoneStatus) :=
  if status ∈ [MilestoneStatus.funded, .inProgress, .underReview] then .ok [.disputed]
  else if status = .proofSubmitted then .ok [.underReview, .disputed]
  else .error (.app (invalidRequest "Milestone cannot be disputed from its current state."
    "invalid_state_transition"))

def agreementPathForDisputeResolution (status : AgreementStatus) (resolutionType : DisputeResolutionType) :
    Except Failure (List AgreementStatus) :=
  if status ≠ .disputed then
    .error (.app (invalidRequest "Dispute resolution requires a disputed agreement."
      "invalid_state_transition"))
  else if resolutionType = .release then .ok [.approved]
  else .ok []

def milestonePathForDisputeResolution (status : MilestoneStatus) (resolutionType : DisputeResolutionType) :
    Except Failure (List MilestoneStatus) :=
  if status ≠ .disputed then
    .error (.app (invalidRequest "Dispute resolution requires a disputed milestone."
      "invalid_state_transition"))
  else if resolutionType = .release then .ok [.approved]
  else .ok []

end Disputes

end PactAgent.Lifecycle
