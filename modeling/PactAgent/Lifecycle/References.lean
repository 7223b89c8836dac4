import PactAgent.Lifecycle.Services
import PactAgent.Store.References

/-! What the lifecycle transactions have learned of the rows that their new rows refer to. -/

namespace PactAgent.Lifecycle
open PactAgent.Foundation PactAgent.Foundation.ReadCommitted PactAgent.Common PactAgent.Common.Amounts PactAgent.Store

section Found
variable {appId : String} {id : RowId} {known : Db → Prop}

/-- The agreement that was read is there in its terms. -/
def FoundAgreement (appId : String) (id : RowId) (found : Option Agreement) (db : Db) : Prop :=
  ∀ agreement, found = some agreement → agreement.id = id ∧ agreement.appId = appId ∧
    ∃ now, db.agreements.get id = some now ∧ now.terms = agreement.terms

def FoundMilestone (appId : String) (id : RowId) (found : Option Milestone) (db : Db) : Prop :=
  ∀ milestone, found = some milestone → milestone.id = id ∧ milestone.appId = appId ∧
    ∃ status, db.milestones.get id = some { milestone with status := status }

def FoundProof (appId : String) (id : RowId) (found : Option Proof) (db : Db) : Prop :=
  ∀ proof, found = some proof → proof.id = id ∧ proof.appId = appId ∧
    ∃ status, db.proofs.get id = some { proof with status := status }

theorem foundAgreement_lasts (found : Option Agreement) : Lasts Steady (FoundAgreement appId id found) := by
  intro first second steady known agreement present
  obtain ⟨key, owner, now, stored, same⟩ := known agreement present
  obtain ⟨new, there, terms, _⟩ := steady.agreements id now stored trivial
  exact ⟨key, owner, new, there, terms.trans same⟩

theorem foundMilestone_lasts (found : Option Milestone) : Lasts Steady (FoundMilestone appId id found) := by
  intro first second steady known milestone present
  obtain ⟨key, owner, status, stored⟩ := known milestone present
  obtain ⟨new, there, next, rfl, _⟩ := steady.milestones id _ stored trivial
  exact ⟨key, owner, next, there⟩

theorem foundProof_lasts (found : Option Proof) : Lasts Steady (FoundProof appId id found) := by
  intro first second steady known proof present
  obtain ⟨key, owner, status, stored⟩ := known proof present
  obtain ⟨new, there, next, rfl, _⟩ := steady.proofs id _ stored trivial
  exact ⟨key, owner, next, there⟩

theorem learns_read {Answer : Type} {query : Query} {read : Db → Answer} {fact : Answer → Db → Prop}
    (each : ∀ db, fact (read db) db) (lasts : ∀ answer, Lasts Steady (fact answer)) :
    (readStatement query read).Learns Steady Fits (fun answer db => known db ∧ fact answer db) known := by
  apply Program.learns_statement _ lasts
  intro now db answer added _ executed
  cases executed
  exact ⟨trivial, each db⟩

theorem learns_findAgreementForApp : (findAgreementForApp appId id).Learns Steady Fits
    (fun found db => known db ∧ FoundAgreement appId id found db) known := by
  apply learns_read _ foundAgreement_lasts
  intro db agreement present
  obtain ⟨stored, owner⟩ := agreementForApp_some.mp present
  exact ⟨Table.key_of_get stored, owner, agreement, stored, rfl⟩

theorem learns_findMilestoneForApp : (findMilestoneForApp appId id).Learns Steady Fits
    (fun found db => known db ∧ FoundMilestone appId id found db) known := by
  apply learns_read _ foundMilestone_lasts
  intro db milestone present
  obtain ⟨stored, owner⟩ := milestoneForApp_some.mp present
  exact ⟨Table.key_of_get stored, owner, milestone.status, stored⟩

theorem learns_findProofForApp : (findProofForApp appId id).Learns Steady Fits
    (fun found db => known db ∧ FoundProof appId id found db) known := by
  apply learns_read _ foundProof_lasts
  intro db proof present
  obtain ⟨stored, owner⟩ := proofForApp_some.mp present
  exact ⟨Table.key_of_get stored, owner, proof.status, stored⟩

theorem learns_required {α β : Type} {message code : String} {value : Option α} {rest : α → Tx β}
    {goal : β → Db → Prop} (present : ∀ found, value = some found → (rest found).Learns Steady Fits goal known) :
    (required message code value >>= rest).Learns Steady Fits goal known := by
  cases value with
  | some found => exact present found rfl
  | none => trivial

/-- An insert whose row refers to what is known. -/
theorem learns_insert {Row : Type} {query : Query} {row : Row} {clashes : Row → Db → Bool} {write : Row → Write}
    (fits : ∀ db, known db → Fits db (write row)) :
    (insertStatement query row clashes write).Learns Steady Fits (fun _ => known) known := by
  apply Program.learns_allowed
  intro now db answer added holds executed
  split at executed
  next => cases executed
  next =>
    cases executed
    exact ⟨fits db holds, trivial⟩

theorem FoundAgreement.under {found : Option Agreement} {agreement : Agreement} {db : Db}
    (known : FoundAgreement appId id found db) (present : found = some agreement) :
    UnderAgreement db appId id agreement.currency := by
  obtain ⟨_, owner, now, stored, terms⟩ := known agreement present
  exact ⟨now, stored, (congrArg AgreementTerms.appId terms).trans owner, congrArg AgreementTerms.currency terms⟩

end Found

section Updates

theorem fits_transitionAgreementStatus (appId : String) (id : RowId) (expected next : AgreementStatus) :
    (transitionAgreementStatus appId id expected next).Emits Fits := by
  apply Program.emits_bind
  · apply emits_update
    intro now db row found met free
    trivial
  intro count
  apply Program.emits_bind (Program.emits_ofExcept _)
  intro _
  exact emits_readOrThrow _

theorem fits_transitionMilestoneStatus (appId : String) (id : RowId) (expected next : MilestoneStatus) :
    (transitionMilestoneStatus appId id expected next).Emits Fits := by
  apply Program.emits_bind
  · apply emits_update
    intro now db row found met free absent
    obtain ⟨stored, _⟩ := milestoneForApp_some.mp found
    have key : row.id = id := Table.key_of_get stored
    rw [show ({ row with status := next } : Milestone).id = id from key, stored] at absent
    cases absent
  intro count
  apply Program.emits_bind (Program.emits_ofExcept _)
  intro _
  exact emits_readOrThrow _

theorem fits_transitionProofStatus (appId : String) (id : RowId) (expected next : ProofStatus) :
    (transitionProofStatus appId id expected next).Emits Fits := by
  apply Program.emits_bind
  · apply emits_update
    intro now db row found met free absent
    obtain ⟨stored, _⟩ := proofForApp_some.mp found
    have key : row.id = id := Table.key_of_get stored
    rw [show ({ row with status := next } : Proof).id = id from key, stored] at absent
    cases absent
  intro count
  apply Program.emits_bind (Program.emits_ofExcept _)
  intro _
  exact emits_readOrThrow _

theorem fits_resolveDispute (appId : String) (id : RowId) (expected : DisputeStatus) (input : ResolveDisputeInput) :
    (resolveDispute appId id expected input).Emits Fits := by
  apply Program.emits_bind
  · apply emits_update
    intro now db row found met free absent
    obtain ⟨stored, _⟩ := disputeForApp_some.mp found
    have key : row.id = id := Table.key_of_get stored
    have free : db.disputes.get row.id = none := absent
    rw [key, stored] at free
    cases free
  intro count
  apply Program.emits_bind (Program.emits_ofExcept _)
  intro _
  exact emits_readOrThrow _

theorem fits_advanceAgreement (appId : String) (id : RowId) (current : AgreementStatus) (path : List AgreementStatus) :
    (advanceAgreement appId id current path).Emits Fits := by
  induction path generalizing current with
  | nil => exact Program.emits_pure _
  | cons next path ih =>
    apply Program.emits_bind (Program.emits_ofExcept _)
    intro _
    apply Program.emits_bind (fits_transitionAgreementStatus _ _ _ _)
    intro _
    exact ih next

theorem fits_advanceMilestone (appId : String) (id : RowId) (current : MilestoneStatus) (path : List MilestoneStatus) :
    (advanceMilestone appId id current path).Emits Fits := by
  induction path generalizing current with
  | nil => exact Program.emits_pure _
  | cons next path ih =>
    apply Program.emits_bind (Program.emits_ofExcept _)
    intro _
    apply Program.emits_bind (fits_transitionMilestoneStatus _ _ _ _)
    intro _
    exact ih next

end Updates

section Operations
variable {appId : String} {known : Db → Prop} {α β : Type}

/-- The rest of a body, once nothing is inserted any more. -/
theorem learns_rest {body : Tx α} (emits : body.Emits Fits) : body.Learns Steady Fits (fun _ _ => True) known :=
  (Program.learns_emits emits).mono fun _ _ _ => trivial

/-- A part of a body that teaches nothing. -/
theorem learns_skip {body : Tx β} {rest : β → Tx α} {goal : α → Db → Prop} (emits : body.Emits Fits)
    (onwards : ∀ value, (rest value).Learns Steady Fits goal known) : (body >>= rest).Learns Steady Fits goal known :=
  Program.learns_bind (Program.learns_emits emits) onwards

theorem learns_milestoneOf {milestoneId : RowId} {agreement : Agreement} {message : String} :
    (milestoneOf appId milestoneId agreement message).Learns Steady Fits
      (fun milestone db => known db ∧ FoundMilestone appId milestoneId (some milestone) db ∧
        milestone.agreementId = agreement.id) known := by
  apply Program.learns_bind learns_findMilestoneForApp
  intro found
  split
  next milestone =>
    split
    next => exact Program.learns_throw _
    next same => exact Program.learns_pure fun db both => ⟨both.1, both.2, not_not.mp same⟩
  next => exact Program.learns_throw _

theorem FoundMilestone.inside {milestoneId agreementId : RowId} {milestone : Milestone} {db : Db}
    (found : FoundMilestone appId milestoneId (some milestone) db) (under : milestone.agreementId = agreementId) :
    InMilestone db appId agreementId milestoneId := by
  obtain ⟨_, owner, status, stored⟩ := found milestone rfl
  exact ⟨_, stored, owner, under⟩

theorem fits_createAgreementForApp (request : Nat) (input : CreateAgreementInput) :
    (createAgreementForApp request appId input).Emits Fits := by
  apply Program.emits_bind
  · apply Program.emits_mapError
    apply emits_insert
    intro db free
    trivial
  intro created
  exact Program.emits_pure _

theorem fits_required {message code : String} {value : Option α} : (required message code value).Emits Fits := by
  cases value <;> trivial

theorem fits_transitionAgreement (agreementId : RowId) (toStatus : AgreementStatus) :
    (transitionAgreement appId agreementId toStatus).Emits Fits := by
  apply Program.emits_bind (emits_read _)
  intro found
  apply Program.emits_bind fits_required
  intro before
  apply Program.emits_bind (Program.emits_ofExcept _)
  intro _
  apply Program.emits_bind (fits_transitionAgreementStatus _ _ _ _)
  intro row
  exact Program.emits_pure _

theorem fits_acceptAgreement (agreementId : RowId) : (acceptAgreement appId agreementId).Emits Fits := by
  apply Program.emits_bind (emits_read _)
  intro found
  apply Program.emits_bind fits_required
  intro before
  apply Program.emits_bind (Program.emits_ofExcept _)
  intro _
  apply Program.emits_bind (Program.emits_ofExcept _)
  intro _
  apply Program.emits_bind (fits_transitionAgreementStatus _ _ _ _)
  intro row
  apply Program.emits_bind (fits_transitionAgreementStatus _ _ _ _)
  intro row
  exact Program.emits_pure _

theorem assertCurrency_ok {currency agreementCurrency : String} {value : Unit}
    (matched : assertCurrencyMatchesAgreement currency agreementCurrency = .ok value) : currency = agreementCurrency := by
  unfold assertCurrencyMatchesAgreement at matched
  split at matched
  next => cases matched
  next same => exact not_not.mp same

/-- A new milestone comes under the agreement that was read, in its currency. -/
theorem learns_createMilestoneForAgreement (request : Nat) (agreementId : RowId) (input : CreateMilestoneInput) :
    (createMilestoneForAgreement request appId agreementId input).Learns Steady Fits (fun _ _ => True) known := by
  apply learns_skip
  · apply Program.emits_statement
    intro now db answer writes executed
    split at executed <;> (cases executed; trivial)
  intro locked
  split
  next => exact Program.learns_throw _
  next =>
    apply Program.learns_bind learns_findAgreementForApp
    intro found
    apply learns_required
    intro agreement present
    split
    next => exact Program.learns_throw _
    next =>
      apply learns_skip (emits_read _)
      intro amounts
      apply Program.learns_check
      intro existingTotal _
      apply Program.learns_check
      intro _ _
      apply learns_skip (emits_read _)
      intro lastOrder
      apply Program.learns_check
      intro _ matched
      have currency := assertCurrency_ok matched
      apply Program.learns_bind
      · apply Program.learns_mapError
        apply Program.learns_allowed
        intro now db answer writes holds executed
        split at executed
        next => cases executed
        next =>
          split at executed
          next => cases executed
          next =>
            cases executed
            refine ⟨fun _ => ?_, trivial⟩
            unfold Milestone.Refers
            rw [currency]
            exact holds.2.under present
      intro created
      exact learns_rest (Program.emits_pure _)

/-- A new proof is under its milestone. -/
theorem learns_createProofForApp (request : Nat) (input : CreateProofInput) :
    (createProofForApp request appId input).Learns Steady Fits (fun _ _ => True) known := by
  apply Program.learns_bind learns_findAgreementForApp
  intro found
  apply learns_required
  intro agreement present
  apply Program.learns_bind learns_milestoneOf
  intro milestone
  apply Program.learns_check
  intro agreementPath _
  apply Program.learns_check
  intro milestonePath _
  apply Program.learns_bind
  · apply learns_insert
    intro db holds _
    obtain ⟨⟨_, read⟩, inside, under⟩ := holds
    exact inside.inside (under.trans (read agreement present).1)
  intro created
  apply learns_rest
  apply Program.emits_bind (fits_advanceAgreement _ _ _ _)
  intro _
  apply Program.emits_bind (fits_advanceMilestone _ _ _ _)
  intro _
  exact Program.emits_pure _

theorem fits_startReview (proof : Proof) : (startReview appId proof).Emits Fits := by
  unfold startReview
  split
  next =>
    apply Program.emits_bind (fits_transitionProofStatus _ _ _ _)
    intro _
    exact Program.emits_pure _
  next => exact Program.emits_pure _

/-- A new review is about the proof that was read. -/
theorem learns_reviewProofForApp (request : Nat) (proofId : RowId) (decision : ReviewDecision) :
    (reviewProofForApp request appId proofId decision).Learns Steady Fits (fun _ _ => True) known := by
  apply Program.learns_bind learns_findProofForApp
  intro found
  apply learns_required
  intro proof present
  split
  next => exact Program.learns_throw _
  next =>
    apply learns_skip (emits_read _)
    intro agreement
    apply learns_required
    intro agreement _
    apply Program.learns_bind learns_milestoneOf
    intro milestone
    apply Program.learns_check
    intro agreementPath _
    apply Program.learns_check
    intro milestonePath _
    apply learns_skip (fits_startReview _)
    intro status
    apply learns_skip (fits_advanceAgreement _ _ _ _)
    intro _
    apply learns_skip (fits_advanceMilestone _ _ _ _)
    intro _
    apply learns_skip (fits_transitionProofStatus _ _ _ _)
    intro reviewed
    refine Program.learns_bind (learns_insert ?_) fun _ => learns_rest (Program.emits_pure _)
    intro db holds _
    obtain ⟨key, owner, status, stored⟩ := holds.1.2 proof present
    have there : db.proofs.get proof.id = some { proof with status := status } := key.symm ▸ stored
    exact ⟨_, there, owner, rfl, rfl⟩

/-- A new dispute is about a milestone of its agreement. -/
theorem learns_createDisputeForApp (request : Nat) (input : CreateDisputeInput) :
    (createDisputeForApp request appId input).Learns Steady Fits (fun _ _ => True) known := by
  apply Program.learns_bind learns_findAgreementForApp
  intro found
  apply learns_required
  intro agreement present
  apply Program.learns_bind learns_milestoneOf
  intro milestone
  apply learns_skip (emits_read _)
  intro existing
  split
  next => exact Program.learns_throw _
  next =>
    apply Program.learns_check
    intro agreementPath _
    apply Program.learns_check
    intro milestonePath _
    apply Program.learns_bind
    · apply Program.learns_mapError
      apply learns_insert
      intro db holds _
      obtain ⟨⟨_, read⟩, inside, under⟩ := holds
      exact inside.inside (under.trans (read agreement present).1)
    intro created
    apply learns_rest
    apply Program.emits_bind (fits_advanceAgreement _ _ _ _)
    intro _
    apply Program.emits_bind (fits_advanceMilestone _ _ _ _)
    intro _
    exact Program.emits_pure _

theorem fits_milestoneOf (milestoneId : RowId) (agreement : Agreement) (message : String) :
    (milestoneOf appId milestoneId agreement message).Emits Fits := by
  apply Program.emits_bind (emits_read _)
  intro found
  split
  next =>
    split
    next => exact Program.emits_throw _
    next => exact Program.emits_pure _
  next => exact Program.emits_throw _

theorem fits_checkSplit (agreement : Agreement) (milestone : Milestone) (input : ResolveDisputeInput) :
    (checkSplit appId agreement milestone input).Emits Fits := by
  unfold checkSplit
  split
  next =>
    apply Program.emits_bind (emits_read _)
    intro found
    split
    next =>
      split
      next => exact Program.emits_throw _
      next => exact Program.emits_ofExcept _
    next => exact Program.emits_throw _
  next => exact Program.emits_pure _

theorem fits_resolveDisputeForApp (disputeId : RowId) (input : ResolveDisputeInput) :
    (resolveDisputeForApp appId disputeId input).Emits Fits := by
  apply Program.emits_bind (emits_read _)
  intro found
  apply Program.emits_bind fits_required
  intro dispute
  apply Program.emits_bind (Program.emits_ofExcept _)
  intro _
  apply Program.emits_bind (emits_read _)
  intro found
  apply Program.emits_bind fits_required
  intro agreement
  apply Program.emits_bind (fits_milestoneOf _ _ _)
  intro milestone
  apply Program.emits_bind (fits_checkSplit _ _ _)
  intro _
  apply Program.emits_bind (Program.emits_ofExcept _)
  intro agreementPath
  apply Program.emits_bind (Program.emits_ofExcept _)
  intro milestonePath
  apply Program.emits_bind (fits_resolveDispute _ _ _ _)
  intro resolved
  apply Program.emits_bind (fits_advanceAgreement _ _ _ _)
  intro _
  apply Program.emits_bind (fits_advanceMilestone _ _ _ _)
  intro _
  exact Program.emits_pure _

end Operations

end PactAgent.Lifecycle
