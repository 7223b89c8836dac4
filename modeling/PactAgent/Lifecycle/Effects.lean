import PactAgent.Lifecycle.Services
import PactAgent.Store.Lawful

/-! The writes of the agreement, milestone, proof, review and dispute transactions:
lawful, and never to an escrow, a transaction or a job. -/

namespace PactAgent.Lifecycle
open PactAgent.Foundation PactAgent.Common PactAgent.Common.Amounts PactAgent.Store

/-- The moves of agreements and milestones that an operation makes, and whether it
writes disputes or new milestones. -/
structure Moves where
  agreement : AgreementStatus → AgreementStatus → Prop
  milestone : MilestoneStatus → MilestoneStatus → Prop
  disputes : Prop
  creates : Prop

def Moves.none : Moves := ⟨fun _ _ => False, fun _ _ => False, False, False⟩

/-- A new milestone moves nothing. -/
def allocationMoves : Moves := ⟨fun _ _ => False, fun _ _ => False, False, True⟩

def Moves.agreementTo (statuses : List AgreementStatus) : Moves :=
  ⟨fun _ new => new ∈ statuses, fun _ _ => False, False, False⟩

def submissionMoves : Moves where
  agreement _ new := new = .inProgress ∨ new = .proofSubmitted
  milestone _ new := new = .inProgress ∨ new = .proofSubmitted
  disputes := False
  creates := False

/-- Only an approving decision approves, and only from under review. -/
def reviewMoves (decision : ReviewDecision) : Moves where
  agreement old new := new = .underReview ∨ (old = .underReview ∧ new = .approved ∧ decision = .approved) ∨
    (old = .underReview ∧ new = .rejected) ∨ (old = .rejected ∧ new = .inProgress)
  milestone old new := new = .underReview ∨ (old = .underReview ∧ new = .approved ∧ decision = .approved) ∨
    (old = .underReview ∧ new = .rejected) ∨ (old = .rejected ∧ new = .inProgress)
  disputes := False
  creates := False

def disputeMoves : Moves where
  agreement _ new := new = .underReview ∨ new = .disputed
  milestone _ new := new = .underReview ∨ new = .disputed
  disputes := True
  creates := False

def resolutionMoves (resolutionType : DisputeResolutionType) : Moves where
  agreement old new := old = .disputed ∧ new = .approved ∧ resolutionType = .release
  milestone old new := old = .disputed ∧ new = .approved ∧ resolutionType = .release
  disputes := True
  creates := False

/-- A lawful write of a lifecycle transaction that makes these moves. -/
structure Records (request : Nat) (moves : Moves) (db : Db) (write : Write) : Prop where
  lawful : Lawful request db write
  others : write.relation ≠ .escrows ∧ write.relation ≠ .transactions ∧ write.relation ≠ .jobs
  agreement : AgreementMoves moves.agreement db write
  milestone : MilestoneMoves moves.milestone db write
  disputes : write.relation = .disputes → moves.disputes
  creates : ∀ row, write = .milestone row → row.status = .pending → moves.creates

/-- The operation itself leaves the idempotency keys alone. -/
structure Recorded (request : Nat) (moves : Moves) (db : Db) (write : Write) : Prop extends
    Records request moves db write where
  keyless : write.relation ≠ .idempotencyKeys

section Paths

theorem submission_agreementPath {status : AgreementStatus} {path : List AgreementStatus}
    (found : agreementPathForProofSubmission status = .ok path) :
    List.IsChain submissionMoves.agreement (status :: path) := by
  cases status <;> simp [agreementPathForProofSubmission] at found <;> subst found <;>
    simp [submissionMoves]

theorem submission_milestonePath {status : MilestoneStatus} {path : List MilestoneStatus}
    (found : milestonePathForProofSubmission status = .ok path) :
    List.IsChain submissionMoves.milestone (status :: path) := by
  cases status <;> simp [milestonePathForProofSubmission] at found <;> subst found <;>
    simp [submissionMoves]

theorem review_agreementPath {status : AgreementStatus} {decision : ReviewDecision}
    {path : List AgreementStatus} (found : agreementPathForReviewDecision status decision = .ok path) :
    List.IsChain (reviewMoves decision).agreement (status :: path) := by
  cases status <;> simp [agreementPathForReviewDecision] at found <;> cases decision <;> subst found <;>
    simp [reviewMoves]

theorem review_milestonePath {status : MilestoneStatus} {decision : ReviewDecision}
    {path : List MilestoneStatus} (found : milestonePathForReviewDecision status decision = .ok path) :
    List.IsChain (reviewMoves decision).milestone (status :: path) := by
  cases status <;> simp [milestonePathForReviewDecision] at found <;> cases decision <;> subst found <;>
    simp [reviewMoves]

theorem dispute_agreementPath {status : AgreementStatus} {path : List AgreementStatus}
    (found : agreementPathForDisputeOpen status = .ok path) :
    List.IsChain disputeMoves.agreement (status :: path) := by
  cases status <;> simp [agreementPathForDisputeOpen] at found <;> subst found <;> simp [disputeMoves]

theorem dispute_milestonePath {status : MilestoneStatus} {path : List MilestoneStatus}
    (found : milestonePathForDisputeOpen status = .ok path) :
    List.IsChain disputeMoves.milestone (status :: path) := by
  cases status <;> simp [milestonePathForDisputeOpen] at found <;> subst found <;> simp [disputeMoves]

theorem resolution_agreementPath {status : AgreementStatus} {resolutionType : DisputeResolutionType}
    {path : List AgreementStatus} (found : agreementPathForDisputeResolution status resolutionType = .ok path) :
    List.IsChain (resolutionMoves resolutionType).agreement (status :: path) := by
  cases status <;> simp [agreementPathForDisputeResolution] at found <;> cases resolutionType <;>
    simp at found <;> subst found <;> simp [resolutionMoves]

theorem resolution_milestonePath {status : MilestoneStatus} {resolutionType : DisputeResolutionType}
    {path : List MilestoneStatus} (found : milestonePathForDisputeResolution status resolutionType = .ok path) :
    List.IsChain (resolutionMoves resolutionType).milestone (status :: path) := by
  cases status <;> simp [milestonePathForDisputeResolution] at found <;> cases resolutionType <;>
    simp at found <;> subst found <;> simp [resolutionMoves]

end Paths

variable {request : Nat} {moves : Moves} {α β : Type}

theorem records_required {message code : String} {value : Option α} {rest : α → Tx β}
    (present : ∀ found, value = some found → (rest found).Emits (Recorded request moves)) :
    (required message code value >>= rest).Emits (Recorded request moves) := by
  cases value with
  | some found => exact present found rfl
  | none => exact Program.emits_throw _

theorem assertAgreementTransition_ok_iff {fromStatus toStatus : AgreementStatus} {value : Unit} :
    assertAgreementTransition fromStatus toStatus = .ok value ↔
      canTransitionAgreement fromStatus toStatus = true :=
  assertTransition_ok_iff

theorem assertMilestoneTransition_ok_iff {fromStatus toStatus : MilestoneStatus} {value : Unit} :
    assertMilestoneTransition fromStatus toStatus = .ok value ↔
      canTransitionMilestone fromStatus toStatus = true :=
  assertTransition_ok_iff

theorem records_transitionAgreementStatus {appId : String} {id : RowId} {expected next : AgreementStatus}
    (valid : canTransitionAgreement expected next = true) (move : moves.agreement expected next) :
    (transitionAgreementStatus appId id expected next).Emits (Recorded request moves) := by
  apply emits_transitionAgreementStatus valid
  intro db row lawful swapped moved
  refine ⟨⟨lawful, by simp [Write.relation], ?_, trivial, by simp [Write.relation], fun _ same _ => by cases same⟩,
    by simp [Write.relation]⟩
  intro old stored
  rw [moved, swapped old stored]
  exact move

theorem canTransitionMilestone_ne_pending {old new : MilestoneStatus}
    (valid : canTransitionMilestone old new = true) : new ≠ .pending := by
  rintro rfl
  cases old <;> simp [canTransitionMilestone] at valid

theorem records_transitionMilestoneStatus {appId : String} {id : RowId} {expected next : MilestoneStatus}
    (valid : canTransitionMilestone expected next = true) (move : moves.milestone expected next) :
    (transitionMilestoneStatus appId id expected next).Emits (Recorded request moves) := by
  apply emits_transitionMilestoneStatus valid
  intro db row lawful swapped moved
  refine ⟨⟨lawful, by simp [Write.relation], trivial, ?_, by simp [Write.relation], ?_⟩, by simp [Write.relation]⟩
  · intro old stored
    rw [moved, swapped old stored]
    exact move
  · intro _ same pending
    cases same
    exact absurd (moved.symm.trans pending) (canTransitionMilestone_ne_pending valid)

theorem records_advanceAgreement {appId : String} {id : RowId} {current : AgreementStatus}
    {path : List AgreementStatus} (chain : List.IsChain moves.agreement (current :: path)) :
    (advanceAgreement appId id current path).Emits (Recorded request moves) := by
  induction path generalizing current with
  | nil => exact Program.emits_pure _
  | cons next path ih =>
    rw [List.isChain_cons_cons] at chain
    apply Program.emits_check
    intro _ allowed
    apply Program.emits_bind
      (records_transitionAgreementStatus (assertAgreementTransition_ok_iff.mp allowed) chain.1)
    intro row
    exact ih chain.2

theorem records_advanceMilestone {appId : String} {id : RowId} {current : MilestoneStatus}
    {path : List MilestoneStatus} (chain : List.IsChain moves.milestone (current :: path)) :
    (advanceMilestone appId id current path).Emits (Recorded request moves) := by
  induction path generalizing current with
  | nil => exact Program.emits_pure _
  | cons next path ih =>
    rw [List.isChain_cons_cons] at chain
    apply Program.emits_check
    intro _ allowed
    apply Program.emits_bind
      (records_transitionMilestoneStatus (assertMilestoneTransition_ok_iff.mp allowed) chain.1)
    intro row
    exact ih chain.2

theorem records_milestoneOf (appId : String) (milestoneId : RowId) (agreement : Agreement)
    (message : String) : (milestoneOf appId milestoneId agreement message).Emits (Recorded request moves) := by
  apply Program.emits_bind (emits_read _)
  intro found
  split
  next =>
    split
    next => exact Program.emits_throw _
    next => exact Program.emits_pure _
  next => exact Program.emits_throw _

theorem records_createAgreementForApp (appId : String) (input : CreateAgreementInput) :
    (createAgreementForApp request appId input).Emits (Recorded request .none) := by
  apply Program.emits_bind
  · apply Program.emits_mapError
    apply emits_insert
    intro db free
    have absent : db.agreements.get ⟨request, 0⟩ = none := by
      simp only [agreementClashes, Bool.or_eq_false_iff] at free
      simpa using free.1
    refine ⟨⟨?_, by simp [Write.relation], ?_, trivial, by simp [Write.relation], fun _ same _ => by cases same⟩,
      by simp [Write.relation]⟩
    · simp only [Lawful, absent]
      exact ⟨rfl, trivial⟩
    · intro old stored
      cases absent.symm.trans stored
  intro created
  exact Program.emits_pure _

theorem records_transitionAgreement (appId : String) (agreementId : RowId) (toStatus : AgreementStatus) :
    (transitionAgreement appId agreementId toStatus).Emits (Recorded request (.agreementTo [toStatus])) := by
  apply Program.emits_bind (emits_read _)
  intro found
  apply records_required
  intro before _
  apply Program.emits_check
  intro _ allowed
  apply Program.emits_bind (records_transitionAgreementStatus (assertAgreementTransition_ok_iff.mp allowed)
    List.mem_cons_self)
  intro row
  exact Program.emits_pure _

theorem records_acceptAgreement (appId : String) (agreementId : RowId) :
    (acceptAgreement appId agreementId).Emits
      (Recorded request (.agreementTo [.pendingAcceptance, .accepted])) := by
  apply Program.emits_bind (emits_read _)
  intro found
  apply records_required
  intro before _
  apply Program.emits_check
  intro _ first
  apply Program.emits_check
  intro _ second
  apply Program.emits_bind (records_transitionAgreementStatus (assertAgreementTransition_ok_iff.mp first)
    (by simp [Moves.agreementTo]))
  intro row
  apply Program.emits_bind (records_transitionAgreementStatus (assertAgreementTransition_ok_iff.mp second)
    (by simp [Moves.agreementTo]))
  intro row
  exact Program.emits_pure _

theorem records_createMilestoneForAgreement (appId : String) (agreementId : RowId)
    (input : CreateMilestoneInput) :
    (createMilestoneForAgreement request appId agreementId input).Emits (Recorded request allocationMoves) := by
  apply Program.emits_bind
  · apply Program.emits_statement
    intro now db answer writes executed
    split at executed
    next =>
      cases executed
      exact ⟨⟨⟨trivial, by simp [Write.relation], trivial, trivial, by simp [Write.relation],
        fun _ _ _ => trivial⟩, by simp [Write.relation]⟩, trivial⟩
    next =>
      cases executed
      trivial
  intro locked
  split
  next => exact Program.emits_throw _
  next =>
    apply Program.emits_bind (emits_read _)
    intro found
    apply records_required
    intro agreement _
    split
    next => exact Program.emits_throw _
    next =>
      apply Program.emits_bind (emits_read _)
      intro amounts
      apply Program.emits_bind (Program.emits_ofExcept _)
      intro existingTotal
      apply Program.emits_bind (Program.emits_ofExcept _)
      intro _
      apply Program.emits_bind (emits_read _)
      intro lastOrder
      apply Program.emits_bind (Program.emits_ofExcept _)
      intro _
      apply Program.emits_bind
      · apply Program.emits_mapError
        apply emits_createMilestone
        intro db _ free
        have absent : db.milestones.get ⟨request, 0⟩ = none := by
          simp only [milestoneClashes, Bool.or_eq_false_iff] at free
          simpa using free.1.1
        refine ⟨⟨?_, by simp [Write.relation], trivial, ?_, by simp [Write.relation], fun _ _ _ => trivial⟩,
          by simp [Write.relation]⟩
        · simp only [Lawful, absent]
          exact ⟨rfl, trivial⟩
        · intro old stored
          cases absent.symm.trans stored
      intro created
      exact Program.emits_pure _

theorem records_createProofForApp (appId : String) (input : CreateProofInput) :
    (createProofForApp request appId input).Emits (Recorded request submissionMoves) := by
  apply Program.emits_bind (emits_read _)
  intro found
  apply records_required
  intro agreement _
  apply Program.emits_bind (records_milestoneOf _ _ _ _)
  intro milestone
  apply Program.emits_check
  intro agreementPath agreementFound
  apply Program.emits_check
  intro milestonePath milestoneFound
  apply Program.emits_bind
  · apply emits_insert
    intro db free
    have absent : db.proofs.get ⟨request, 0⟩ = none := by simpa using free
    refine ⟨⟨?_, by simp [Write.relation], trivial, trivial, by simp [Write.relation], fun _ same _ => by cases same⟩,
      by simp [Write.relation]⟩
    simp only [Lawful, absent]
    exact ⟨rfl, trivial⟩
  intro created
  apply Program.emits_bind (records_advanceAgreement (submission_agreementPath agreementFound))
  intro _
  apply Program.emits_bind (records_advanceMilestone (submission_milestonePath milestoneFound))
  intro _
  exact Program.emits_pure _

theorem proofMoves_decision (decision : ReviewDecision) :
    proofMoves .underReview (proofStatusForReviewDecision decision) = true := by
  cases decision <;> rfl

theorem records_transitionProofStatus {appId : String} {id : RowId} {expected next : ProofStatus}
    (valid : proofMoves expected next = true) :
    (transitionProofStatus appId id expected next).Emits (Recorded request moves) :=
  emits_transitionProofStatus valid fun _ _ lawful _ =>
    ⟨⟨lawful, by simp [Write.relation], trivial, trivial, by simp [Write.relation], fun _ same _ => by cases same⟩,
      by simp [Write.relation]⟩

/-- After its start a review goes on from `underReview`. -/
theorem records_startReview {appId : String} {proof : Proof} {rest : ProofStatus → Tx β}
    (reviewable : proof.status ∈ [ProofStatus.submitted, .underReview])
    (next : (rest .underReview).Emits (Recorded request moves)) :
    (startReview appId proof >>= rest).Emits (Recorded request moves) := by
  unfold startReview
  split
  next =>
    rw [Program.bind_assoc]
    apply Program.emits_bind (records_transitionProofStatus rfl)
    intro row
    exact next
  next started =>
    have status : proof.status = .underReview := by simpa [started] using reviewable
    rw [status]
    exact next

theorem records_reviewProofForApp (appId : String) (proofId : RowId) (decision : ReviewDecision) :
    (reviewProofForApp request appId proofId decision).Emits (Recorded request (reviewMoves decision)) := by
  apply Program.emits_bind (emits_read _)
  intro found
  apply records_required
  intro proof _
  split
  next => exact Program.emits_throw _
  next reviewable =>
    apply Program.emits_bind (emits_read _)
    intro found
    apply records_required
    intro agreement _
    apply Program.emits_bind (records_milestoneOf _ _ _ _)
    intro milestone
    apply Program.emits_check
    intro agreementPath agreementFound
    apply Program.emits_check
    intro milestonePath milestoneFound
    apply records_startReview (not_not.mp reviewable)
    apply Program.emits_bind (records_advanceAgreement (review_agreementPath agreementFound))
    intro _
    apply Program.emits_bind (records_advanceMilestone (review_milestonePath milestoneFound))
    intro _
    apply Program.emits_bind (records_transitionProofStatus (proofMoves_decision decision))
    intro reviewed
    apply Program.emits_bind
    · apply emits_insert
      intro db free
      have absent : db.reviews.get ⟨request, 0⟩ = none := by simpa using free
      refine ⟨⟨?_, by simp [Write.relation], trivial, trivial, by simp [Write.relation], fun _ same _ => by cases same⟩,
        by simp [Write.relation]⟩
      simp only [Lawful, absent]
      exact ⟨rfl, trivial⟩
    intro review
    exact Program.emits_pure _

theorem records_createDisputeForApp (appId : String) (input : CreateDisputeInput) :
    (createDisputeForApp request appId input).Emits (Recorded request disputeMoves) := by
  apply Program.emits_bind (emits_read _)
  intro found
  apply records_required
  intro agreement _
  apply Program.emits_bind (records_milestoneOf _ _ _ _)
  intro milestone
  apply Program.emits_bind (emits_read _)
  intro existing
  split
  next => exact Program.emits_throw _
  next =>
    apply Program.emits_check
    intro agreementPath agreementFound
    apply Program.emits_check
    intro milestonePath milestoneFound
    apply Program.emits_bind
    · apply Program.emits_mapError
      apply emits_insert
      intro db free
      have absent : db.disputes.get ⟨request, 0⟩ = none := by
        simp only [disputeClashes, Bool.or_eq_false_iff] at free
        simpa using free.1
      refine ⟨⟨?_, by simp [Write.relation], trivial, trivial, fun _ => trivial, fun _ same _ => by cases same⟩,
        by simp [Write.relation]⟩
      simp only [Lawful, absent]
      exact ⟨rfl, trivial⟩
    intro created
    apply Program.emits_bind (records_advanceAgreement (dispute_agreementPath agreementFound))
    intro _
    apply Program.emits_bind (records_advanceMilestone (dispute_milestonePath milestoneFound))
    intro _
    exact Program.emits_pure _

theorem records_resolveDisputeForApp (appId : String) (disputeId : RowId) (input : ResolveDisputeInput) :
    (resolveDisputeForApp appId disputeId input).Emits
      (Recorded request (resolutionMoves input.resolutionType)) := by
  apply Program.emits_bind (emits_read _)
  intro found
  apply records_required
  intro dispute _
  apply Program.emits_check
  intro _ resolvable
  apply Program.emits_bind (emits_read _)
  intro found
  apply records_required
  intro agreement _
  apply Program.emits_bind (records_milestoneOf _ _ _ _)
  intro milestone
  apply Program.emits_bind
  · unfold checkSplit
    split
    next =>
      apply Program.emits_bind (emits_read _)
      intro escrow
      split
      next =>
        split
        next => exact Program.emits_throw _
        next => exact Program.emits_ofExcept _
      next => exact Program.emits_throw _
    next => exact Program.emits_pure _
  intro _
  apply Program.emits_check
  intro agreementPath agreementFound
  apply Program.emits_check
  intro milestonePath milestoneFound
  apply Program.emits_bind
  · apply emits_resolveDispute (assertDisputeResolvable_ok resolvable)
    intro db row lawful _
    exact ⟨⟨lawful, by simp [Write.relation], trivial, trivial, fun _ => trivial, fun _ same _ => by cases same⟩,
      by simp [Write.relation]⟩
  intro resolved
  apply Program.emits_bind (records_advanceAgreement (resolution_agreementPath agreementFound))
  intro _
  apply Program.emits_bind (records_advanceMilestone (resolution_milestonePath milestoneFound))
  intro _
  exact Program.emits_pure _

end PactAgent.Lifecycle
