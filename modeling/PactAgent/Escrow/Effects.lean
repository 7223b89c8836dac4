import PactAgent.Escrow.Services
import PactAgent.Store.Lawful

/-! The writes of the escrow transactions. Beside the rows of the escrow and of its
transactions a body writes only what accompanies them: the idempotency key, a job,
and the agreement and milestone that follow the escrow. -/

namespace PactAgent.Escrow
open PactAgent.Common PactAgent.Foundation PactAgent.Lifecycle PactAgent.Store
open PactAgent.Idempotency.Repository PactAgent.Rail.Builder PactAgent.Rail.Node

/-- A write that accompanies the move of an escrow, with the statuses that agreements
and milestones take from it. -/
def Aside : Write → Prop
  | .lockAgreement _ | .job _ | .idempotencyKey _ _ => True
  | .agreement row => row.status ∈ [AgreementStatus.funded, .releasePending, .released, .refunded]
  | .milestone row => row.status ∈ [MilestoneStatus.funded, .released, .refunded]
  | .proof _ | .review _ | .dispute _ | .escrow _ | .deleteEscrow _ | .transaction _
  | .deleteTransaction _ => False

theorem Aside.relation_ne {write : Write} (aside : Aside write) :
    write.relation ≠ .escrows ∧ write.relation ≠ .transactions ∧ write.relation ≠ .proofs ∧
      write.relation ≠ .reviews ∧ write.relation ≠ .disputes := by
  cases write <;> simp_all [Aside, Write.relation]

/-- A lawful write beside the rows of the escrow and of its transactions. -/
def Accompanies (request : Nat) (db : Db) (write : Write) : Prop := Lawful request db write ∧ Aside write

/-- The rows that a body may leave under idempotency keys. -/
abbrev KeyRule := AppKey → Option (IdempotencyRow Reply) → Prop

def Heeds (rule : KeyRule) (write : Write) : Prop := ∀ appKey row, write = .idempotencyKey appKey row → rule appKey row

theorem heeds_other {rule : KeyRule} {write : Write} (other : write.relation ≠ .idempotencyKeys) : Heeds rule write := by
  rintro appKey row rfl
  exact absurd rfl other

/-- Beside the rows of the escrow and of its transactions, and under the rule of the keys. -/
structure Accompanied (rule : KeyRule) (request : Nat) (db : Db) (write : Write) : Prop where
  accompanies : Accompanies request db write
  heeds : Heeds rule write

/-! Parts of the bodies that write no row but an idempotency key. -/

section Keys
variable (settings : Settings) {allowed : Db → Write → Prop} {req : RequestContext}

theorem emits_required {α : Type} (message code : String) (value : Option α) :
    (required message code value).Emits allowed := by
  cases value with
  | some value => exact Program.emits_pure value
  | none => exact Program.emits_throw _

theorem emits_reserveRequest (reserve : ∀ db row, row.status = .pending → row.id = req.request →
      row.requestHash = req.context.requestHash → allowed db (.idempotencyKey req.appKey (some row))) :
    (reserveRequest settings req).Emits allowed :=
  emits_reserveIdempotentRequest _ _ _ _ reserve

theorem emits_storeIdempotentResponse
    (complete : ∀ db row, row.status = .completed → allowed db (.idempotencyKey req.appKey (some row)))
    (statusCode : Nat) (data : Reply) : (storeIdempotentResponse settings req statusCode data).Emits allowed := by
  unfold storeIdempotentResponse
  dsimp only
  split
  next => exact Program.emits_throw _
  next => exact emits_completeIdempotentRequest _ _ _ _ _ _ fun db row completed _ => complete db row completed

theorem emits_deletePendingRequest (delete : ∀ db, allowed db (.idempotencyKey req.appKey none)) :
    (deletePendingRequest req).Emits allowed :=
  emits_deleteIdempotentRequest _ _ delete

theorem emits_reserveFunding (reserve : ∀ db row, row.status = .pending → row.id = req.request →
      row.requestHash = req.context.requestHash → allowed db (.idempotencyKey req.appKey (some row)))
    (complete : ∀ db row, row.status = .completed → allowed db (.idempotencyKey req.appKey (some row)))
    (escrowId : RowId) : (reserveFunding settings req escrowId).Emits allowed := by
  apply Program.emits_bind (emits_reserveRequest settings reserve)
  intro _
  apply Program.emits_bind (emits_read _)
  intro found
  apply Program.emits_bind (emits_required _ _ _)
  intro escrow
  split
  next => exact Program.emits_throw _
  next =>
    split
    next =>
      apply Program.emits_bind (emits_storeIdempotentResponse settings complete _ _)
      intro _
      exact Program.emits_pure _
    next => exact Program.emits_pure _

theorem emits_loadSnapshot (transactionId : RowId) : (loadSnapshot settings transactionId).Emits allowed := by
  apply Program.emits_bind (emits_read _)
  intro found
  split
  next => exact Program.emits_throw _
  next transaction =>
    dsimp only
    split
    next =>
      apply Program.emits_bind (emits_read _)
      intro escrow
      split
      next =>
        split
        next => exact Program.emits_throw _
        next => exact Program.emits_pure _
      next => exact Program.emits_throw _
    next => exact Program.emits_throw _

end Keys

section Aside
variable (settings : Settings) {request : Nat} {rule : KeyRule}

/-- A key is written by the rule. -/
theorem accompanied_key (db : Db) {appKey : AppKey} {row : Option (IdempotencyRow Reply)} (permitted : rule appKey row) :
    Accompanied rule request db (.idempotencyKey appKey row) := by
  refine ⟨⟨trivial, trivial⟩, ?_⟩
  rintro _ _ ⟨⟩
  exact permitted

def KeyRule.any : KeyRule := fun _ _ => True

/-- A request may reserve its key. -/
def KeyRule.Reserves (rule : KeyRule) (req : RequestContext) : Prop :=
  ∀ row : IdempotencyRow Reply, row.status = .pending → row.id = req.request →
    row.requestHash = req.context.requestHash → rule req.appKey (some row)

/-- A request may complete its key. -/
def KeyRule.Completes (rule : KeyRule) (req : RequestContext) : Prop :=
  ∀ row : IdempotencyRow Reply, row.status = .completed → rule req.appKey (some row)

theorem accompanies_required {α : Type} (message code : String) (value : Option α) :
    (required message code value).Emits (Accompanied rule request) :=
  emits_required message code value

theorem accompanies_reserveRequest {req : RequestContext} (reserves : rule.Reserves req) :
    (reserveRequest settings req).Emits (Accompanied rule request) :=
  emits_reserveRequest settings fun db row pending own hash => accompanied_key db (reserves row pending own hash)

theorem accompanies_storeIdempotentResponse {req : RequestContext} (completes : rule.Completes req) (statusCode : Nat)
    (data : Reply) : (storeIdempotentResponse settings req statusCode data).Emits (Accompanied rule request) :=
  emits_storeIdempotentResponse settings (fun db row completed => accompanied_key db (completes row completed))
    statusCode data

theorem accompanies_enqueueCkbReconciliation {jobId : RowId} (own : jobId.request = request)
    (escrow : Escrow) (transactionId : RowId) :
    (enqueueCkbReconciliation jobId escrow transactionId).Emits (Accompanied rule request) := by
  unfold enqueueCkbReconciliation
  split
  next => exact Program.emits_pure _
  next =>
    apply Program.emits_bind (emits_enqueueJob own ⟨rfl, rfl⟩ fun _ lawful => ⟨⟨lawful, trivial⟩, heeds_other (by simp [Write.relation])⟩)
    intro job
    exact Program.emits_pure _

theorem accompanies_transitionAgreementStatus {appId : String} {id : RowId} {expected next : AgreementStatus}
    (valid : canTransitionAgreement expected next = true)
    (target : next ∈ [AgreementStatus.funded, .releasePending, .released, .refunded]) :
    (transitionAgreementStatus appId id expected next).Emits (Accompanied rule request) :=
  emits_transitionAgreementStatus valid fun _ row lawful _ moved =>
    ⟨⟨lawful, show row.status ∈ _ from moved ▸ target⟩, heeds_other (by simp [Write.relation])⟩

theorem accompanies_transitionMilestoneStatus {appId : String} {id : RowId} {expected next : MilestoneStatus}
    (valid : canTransitionMilestone expected next = true)
    (target : next ∈ [MilestoneStatus.funded, .released, .refunded]) :
    (transitionMilestoneStatus appId id expected next).Emits (Accompanied rule request) :=
  emits_transitionMilestoneStatus valid fun _ row lawful _ moved =>
    ⟨⟨lawful, show row.status ∈ _ from moved ▸ target⟩, heeds_other (by simp [Write.relation])⟩

theorem accompanies_transitionMilestoneIfAllowed {appId : String} {milestoneId : RowId}
    {toStatus : MilestoneStatus} (target : toStatus ∈ [MilestoneStatus.funded, .released, .refunded]) :
    (transitionMilestoneIfAllowed appId milestoneId toStatus).Emits (Accompanied rule request) := by
  apply Program.emits_bind (emits_read _)
  intro found
  cases found with
  | none => exact Program.emits_pure _
  | some milestone =>
    dsimp only
    split
    next => exact Program.emits_pure _
    next =>
      split
      next => exact Program.emits_pure _
      next valid =>
        apply Program.emits_bind (accompanies_transitionMilestoneStatus (by simpa using valid) target)
        intro row
        exact Program.emits_pure _

theorem accompanies_transitionAgreementWhenAllEscrowsTerminal (appId : String) (agreementId : RowId)
    (operation : SettlementOperation) :
    (transitionAgreementWhenAllEscrowsTerminal appId agreementId operation).Emits (Accompanied rule request) := by
  unfold transitionAgreementWhenAllEscrowsTerminal
  extract_lets toStatus terminalStatus
  have target : toStatus ∈ [AgreementStatus.funded, .releasePending, .released, .refunded] := by
    cases operation <;> simp [toStatus]
  clear_value toStatus terminalStatus
  apply Program.emits_bind (emits_read _)
  intro found
  cases found with
  | none => exact Program.emits_pure _
  | some agreement =>
    dsimp only
    split
    next => exact Program.emits_pure _
    next =>
      apply Program.emits_bind (emits_read _)
      intro escrows
      split
      next => exact Program.emits_pure _
      next =>
        split
        next => exact Program.emits_pure _
        next =>
          split
          next valid =>
            apply Program.emits_bind (accompanies_transitionAgreementStatus valid.1 (by simp))
            intro row
            apply Program.emits_bind (accompanies_transitionAgreementStatus rfl (by simp))
            intro row
            exact Program.emits_pure _
          next =>
            split
            next valid =>
              apply Program.emits_bind (accompanies_transitionAgreementStatus valid target)
              intro row
              exact Program.emits_pure _
            next => exact Program.emits_pure _

/-- The part of `transitionFundingScope` about the milestone. -/
def fundMilestone (appId : String) (escrow : Escrow) : Tx Unit :=
  match escrow.milestoneId with
  | none => pure ()
  | some milestoneId => do
      match (← findMilestoneForApp appId milestoneId) with
      | some milestone =>
          if milestone.status ∈ [MilestoneStatus.pending, .fundingRequired] then
            let _ ← transitionMilestoneStatus appId milestoneId milestone.status .funded
            pure ()
          else pure ()
      | none => pure ()

theorem accompanies_transitionFundingScope (appId : String) (escrow : Escrow) :
    (transitionFundingScope appId escrow).Emits (Accompanied rule request) := by
  apply Program.emits_bind (emits_read _)
  intro agreement
  have milestone : (fundMilestone appId escrow).Emits (Accompanied rule request) := by
    unfold fundMilestone
    split
    next => exact Program.emits_pure _
    next =>
      apply Program.emits_bind (emits_read _)
      intro found
      cases found with
      | none => exact Program.emits_pure _
      | some milestone =>
        dsimp only
        split
        next waiting =>
          have valid : canTransitionMilestone milestone.status .funded = true := by
            simp only [List.mem_cons, List.not_mem_nil, or_false] at waiting
            cases waiting with
            | inl pending => rw [pending]; rfl
            | inr required => rw [required]; rfl
          apply Program.emits_bind (accompanies_transitionMilestoneStatus valid (by simp))
          intro row
          exact Program.emits_pure _
        next => exact Program.emits_pure _
  cases agreement with
  | none => exact milestone
  | some agreement =>
    dsimp only
    split
    next waiting =>
      apply Program.emits_bind (accompanies_transitionAgreementStatus (by rw [waiting]; rfl) (by simp))
      intro row
      exact milestone
    next => exact milestone

theorem accompanies_transitionSettledScope (appId : String) (escrow : Escrow)
    (operation : SettlementOperation) :
    (transitionSettledScope appId escrow operation).Emits (Accompanied rule request) := by
  unfold transitionSettledScope
  split
  next =>
    apply Program.emits_bind
    · apply accompanies_transitionMilestoneIfAllowed
      cases operation <;> simp [settlementMilestoneStatus]
    · intro _
      exact accompanies_transitionAgreementWhenAllEscrowsTerminal ..
  next => exact accompanies_transitionAgreementWhenAllEscrowsTerminal ..

theorem accompanies_followReconciled (appId : String) (updatedEscrow : Escrow)
    (fromStatus nextEscrowStatus : EscrowStatus) (reorgEvent : Bool) :
    (followReconciled appId updatedEscrow fromStatus nextEscrowStatus reorgEvent).Emits
      (Accompanied rule request) := by
  unfold followReconciled
  split
  next => exact Program.emits_pure _
  next =>
    split
    next => exact accompanies_transitionFundingScope ..
    next => exact accompanies_transitionSettledScope ..
    next => exact accompanies_transitionSettledScope ..
    next => exact Program.emits_pure _

theorem accompanies_assertEscrowAgreementScope (appId : String) (input : CreateEscrowInput) :
    (assertEscrowAgreementScope appId input).Emits (Accompanied rule request) := by
  apply Program.emits_bind (emits_read _)
  intro found
  apply Program.emits_bind (accompanies_required _ _ found)
  intro agreement
  split
  next milestoneId =>
    apply Program.emits_bind
    · apply Program.emits_bind (emits_read _)
      intro milestone
      split
      next =>
        split
        next => exact Program.emits_throw _
        next => exact Program.emits_pure _
      next => exact Program.emits_throw _
    intro milestone
    apply Program.emits_bind (Program.emits_ofExcept _)
    intro _
    apply Program.emits_bind (Program.emits_ofExcept _)
    intro _
    exact Program.emits_pure _
  next =>
    apply Program.emits_bind (Program.emits_ofExcept _)
    intro _
    apply Program.emits_bind (Program.emits_ofExcept _)
    intro _
    exact Program.emits_pure _

theorem accompanies_assertReleaseAllowed (appId : String) (escrow : Escrow) (agreement : Option Agreement)
    (milestone : Option Milestone) :
    (assertReleaseAllowed appId escrow agreement milestone).Emits (Accompanied rule request) := by
  unfold assertReleaseAllowed
  split
  next => exact Program.emits_throw _
  next =>
    split
    next => exact Program.emits_throw _
    next agreement =>
      split
      next => exact Program.emits_pure _
      next =>
        split
        next =>
          apply Program.emits_bind (emits_read _)
          intro resolved
          split
          next => exact Program.emits_pure _
          next => exact Program.emits_throw _
        next =>
          split
          next => exact Program.emits_throw _
          next =>
            split
            next => exact Program.emits_throw _
            next => exact Program.emits_throw _

theorem accompanies_assertSettlementAllowed (appId : String) (operation : SettlementOperation)
    (before : Escrow) (agreement : Option Agreement) :
    (assertSettlementAllowed appId operation before agreement).Emits (Accompanied rule request) := by
  unfold assertSettlementAllowed
  split
  next =>
    split
    next =>
      apply Program.emits_bind (emits_read _)
      intro milestone
      exact accompanies_assertReleaseAllowed ..
    next => exact accompanies_assertReleaseAllowed ..
  next => exact Program.emits_ofExcept _

end Aside

/-- What a transaction does to its escrow, and the transaction rows that it inserts. -/
structure Effect where
  moves : EscrowStatus → EscrowStatus → Prop
  inserts : List TransactionType

def Effect.none : Effect := ⟨fun _ _ => False, []⟩

def creationEffect : Effect :=
  ⟨fun old new => old = .notCreated ∧ canTransitionEscrow old new = true, []⟩

def fundingEffect : Effect :=
  ⟨fun old new => new ∈ [EscrowStatus.fundingDetected, .funded] ∧ canTransitionEscrow old new = true, []⟩

def reservationEffect (operation : SettlementOperation) : Effect :=
  ⟨fun old new => old = .funded ∧ new = settlementPendingStatus operation, [settlementType operation]⟩

def failureEffect (operation : SettlementOperation) : Effect :=
  ⟨fun old new => old = settlementPendingStatus operation ∧ new = .failed, []⟩

def settlementEffect (operation : SettlementOperation) : Effect :=
  ⟨fun old new => old = settlementPendingStatus operation ∧ new ∈ [settlementPendingStatus operation,
    settlementTerminalStatus operation, .reconciliationRequired], []⟩

def reconciliationEffect : Effect := ⟨fun old new => canTransitionEscrow old new = true, []⟩

/-- A new escrow with its lock transaction. -/
def lockEffect : Effect := ⟨fun _ _ => False, [.lock]⟩

/-- A lawful write of an escrow transaction with this effect. -/
structure Touches (request : Nat) (effect : Effect) (db : Db) (write : Write) : Prop where
  lawful : Lawful request db write
  kind : Aside write ∨ write.relation = .escrows ∨ write.relation = .transactions
  moves : EscrowMoves effect.moves db write
  inserts : Introduces effect.inserts db write
  indexed : Indexed db write

/-- A write of a transaction that works on a stored escrow. -/
def Settles (request : Nat) (effect : Effect) (db : Db) (write : Write) : Prop :=
  Touches request effect db write ∧ Replaces db write

structure Touched (rule : KeyRule) (request : Nat) (effect : Effect) (db : Db) (write : Write) : Prop where
  touches : Touches request effect db write
  heeds : Heeds rule write

structure Settled (rule : KeyRule) (request : Nat) (effect : Effect) (db : Db) (write : Write) : Prop where
  settles : Settles request effect db write
  heeds : Heeds rule write

section Settles
variable (settings : Settings) {rule : KeyRule} {request : Nat} {effect : Effect} {α : Type}

theorem Accompanies.settle {db : Db} {write : Write} (accompanies : Accompanies request db write) :
    Settles request effect db write := by
  cases write with
  | escrow row => exact accompanies.2.elim
  | transaction row => exact accompanies.2.elim
  | _ => exact ⟨⟨accompanies.1, .inl accompanies.2, trivial, trivial, trivial⟩, trivial⟩

theorem Accompanied.settled {body : Tx α} (emits : body.Emits (Accompanied rule request)) :
    body.Emits (Settled rule request effect) :=
  emits.mono fun _ _ accompanied => ⟨accompanied.accompanies.settle, accompanied.heeds⟩

theorem Accompanied.touched {body : Tx α} (emits : body.Emits (Accompanied rule request)) :
    body.Emits (Touched rule request effect) :=
  emits.mono fun _ _ accompanied => ⟨accompanied.accompanies.settle.1, accompanied.heeds⟩

theorem settles_required {message code : String} {value : Option α} {β : Type} {rest : α → Tx β}
    (present : ∀ found, value = some found → (rest found).Emits (Settled rule request effect)) :
    (required message code value >>= rest).Emits (Settled rule request effect) := by
  cases value with
  | some found => exact present found rfl
  | none => exact Program.emits_throw _

theorem settles_updateTransaction {appId : String} {id : RowId} {change : Nat → Transaction → Transaction}
    (sameId : ∀ now row, (change now row).id = row.id)
    (sameTerms : ∀ now row, (change now row).terms = row.terms) :
    (updateTransaction appId id change).Emits (Settled rule request effect) :=
  emits_updateTransaction sameId sameTerms fun _ _ lawful stored =>
    ⟨⟨⟨lawful, .inr (.inr rfl), trivial, fun absent => absurd (stored absent) List.not_mem_nil, trivial⟩, trivial⟩,
      heeds_other (by simp [Write.relation])⟩

theorem settles_transitionEscrowStatus {appId : String} {id : RowId} {expected : EscrowStatus}
    {change : Escrow → Escrow} (sameId : ∀ row, (change row).id = row.id)
    (sameTerms : ∀ row, (change row).terms = row.terms)
    (valid : ∀ row, row.status = expected →
      expected = (change row).status ∨ canTransitionEscrow expected (change row).status = true)
    (move : ∀ row, row.status = expected → effect.moves expected (change row).status) :
    (transitionEscrowStatus appId id expected change).Emits (Settled rule request effect) := by
  apply emits_transitionEscrowStatus sameId sameTerms valid
  intro db old status stored free lawful
  refine ⟨⟨⟨lawful, .inr (.inl rfl), ?_, trivial, free⟩, by simp [Replaces, stored]⟩,
    heeds_other (by simp [Write.relation])⟩
  intro found same
  rw [stored] at same
  cases same
  rw [status]
  exact move old status

theorem touches_reserveEscrowCreation {req : RequestContext} (reserves : rule.Reserves req) (input : CreateEscrowInput) :
    (reserveEscrowCreation settings req input).Emits (Touched rule req.request lockEffect) := by
  apply Program.emits_bind (Accompanied.touched (accompanies_reserveRequest settings reserves))
  intro _
  apply Program.emits_bind (Accompanied.touched (accompanies_assertEscrowAgreementScope _ _))
  intro milestone
  apply Program.emits_bind
  · unfold findTerminalEscrow
    split
    next => exact emits_read _
    next => exact emits_read _
  intro terminal
  split
  next => exact Program.emits_throw _
  next =>
    apply Program.emits_bind (emits_read _)
    intro active
    split
    next => exact Program.emits_throw _
    next =>
      apply Program.emits_bind
      · apply Program.emits_mapError
        apply emits_insert
        intro db free
        simp only [Bool.or_eq_false_iff] at free
        have absent : db.escrows.get (newEscrow req input).id = none := by simpa using free.1
        refine ⟨⟨?_, .inr (.inl rfl), ?_, trivial, free.2⟩, heeds_other (by simp [Write.relation])⟩
        · simp only [Lawful, absent]
          exact ⟨rfl, rfl⟩
        · intro old stored
          cases absent.symm.trans stored
      intro created
      apply Program.emits_bind
      · apply emits_createTransaction rfl ⟨rfl, rfl, by simp [newTransaction]⟩
        intro db lawful
        exact ⟨⟨lawful, .inr (.inr rfl), trivial, fun _ => List.mem_cons_self, trivial⟩,
          heeds_other (by simp [Write.relation])⟩
      intro transaction
      exact Program.emits_pure _

theorem settles_discardEscrowCreation {req : RequestContext} (deletes : rule req.appKey none)
    (reserved : ReservedEscrowCreation) (lock : reserved.transactionId.index = 1) :
    (discardEscrowCreation req reserved).Emits (Settled rule request .none) := by
  apply Program.emits_bind
  · apply emits_delete
    intro db row found _
    obtain ⟨stored, _⟩ := transactionForApp_some.mp found
    have key : row.id = reserved.transactionId := Table.key_of_get stored
    exact ⟨⟨⟨by simp [Lawful, key, stored, lock], .inr (.inr rfl), trivial, trivial, trivial⟩, trivial⟩,
      heeds_other (by simp [Write.relation])⟩
  intro _
  apply Program.emits_bind
  · apply emits_delete
    intro db row found met
    obtain ⟨stored, _⟩ := escrowForApp_some.mp found
    have key : row.id = reserved.created.id := Table.key_of_get stored
    refine ⟨⟨⟨?_, .inr (.inl rfl), trivial, trivial, trivial⟩, trivial⟩, heeds_other (by simp [Write.relation])⟩
    simp only [Lawful, key, stored, true_and]
    simpa using met
  intro _
  exact Accompanied.settled (emits_deletePendingRequest fun db => accompanied_key db deletes)

theorem settles_finalizeEscrowCreation {req : RequestContext} (completes : rule.Completes req) (reserved : ReservedEscrowCreation)
    (result : EscrowAdapterResult) :
    (finalizeEscrowCreation settings req reserved result).Emits (Settled rule req.request creationEffect) := by
  apply Program.emits_check
  intro _ allowed
  have valid := assertEscrowTransition_ok_iff.mp allowed
  apply Program.emits_bind
  · apply settles_transitionEscrowStatus (by intros; rfl) (by intros; rfl)
    · exact fun _ _ => .inr valid
    · exact fun _ _ => ⟨rfl, valid⟩
  intro count
  apply Program.emits_bind (Program.emits_ofExcept _)
  intro _
  apply Program.emits_bind (emits_read _)
  intro found
  apply settles_required
  intro updated _
  apply Program.emits_bind (settles_updateTransaction (by intros; rfl) (by intros; rfl))
  intro _
  apply Program.emits_bind (Accompanied.settled (accompanies_enqueueCkbReconciliation (by rfl) _ _))
  intro _
  apply Program.emits_bind (Accompanied.settled (accompanies_storeIdempotentResponse settings completes _ _))
  intro _
  exact Program.emits_pure _

theorem settles_finalizeEscrowFunding {req : RequestContext} (completes : rule.Completes req) (before : Escrow)
    (result : EscrowAdapterResult) :
    (finalizeEscrowFunding settings req before result).Emits (Settled rule request fundingEffect) := by
  apply Program.emits_bind (emits_read _)
  intro found
  apply settles_required
  intro current _
  split
  next =>
    apply Program.emits_bind (Accompanied.settled (accompanies_storeIdempotentResponse settings completes _ _))
    intro _
    exact Program.emits_pure _
  next =>
    split
    next => exact Program.emits_throw _
    next expected =>
      apply Program.emits_bind
      · unfold moveFunding
        split
        next =>
          apply Program.emits_check
          intro _ allowed
          have valid := assertEscrowTransition_ok_iff.mp allowed
          apply Program.emits_bind
          · apply settles_transitionEscrowStatus (by intros; rfl) (by intros; rfl)
            · exact fun _ _ => .inr valid
            · exact fun _ _ => ⟨not_not.mp expected, valid⟩
          intro count
          exact Program.emits_ofExcept _
        next => exact Program.emits_pure _
      intro _
      apply Program.emits_bind (emits_read _)
      intro found
      apply settles_required
      intro updated _
      apply Program.emits_bind (emits_read _)
      intro lockTransaction
      have finish : (do
          if result.status = .funded then transitionFundingScope req.appId updated else pure ()
          storeIdempotentResponse settings req 200 (.escrow updated)
          return .escrow updated : Tx Reply).Emits (Settled rule request fundingEffect) := by
        split
        next =>
          apply Program.emits_bind (Accompanied.settled (accompanies_transitionFundingScope _ _))
          intro _
          apply Program.emits_bind
            (Accompanied.settled (accompanies_storeIdempotentResponse settings completes _ _))
          intro _
          exact Program.emits_pure _
        next =>
          apply Program.emits_bind
            (Accompanied.settled (accompanies_storeIdempotentResponse settings completes _ _))
          intro _
          exact Program.emits_pure _
      cases lockTransaction with
      | none => exact finish
      | some row =>
        apply Program.emits_bind (settles_updateTransaction (by intros; rfl) (by intros; rfl))
        intro _
        exact finish

theorem assertReleaseAllowed_funded (appId : String) (escrow : Escrow) (agreement : Option Agreement)
    (milestone : Option Milestone) :
    (assertReleaseAllowed appId escrow agreement milestone).Returns fun _ => escrow.status = .funded := by
  unfold assertReleaseAllowed
  split
  next => trivial
  next funded => exact Program.returns_const _ (not_not.mp funded)

/-- Both guards let only funded escrows pass. -/
theorem assertSettlementAllowed_funded (appId : String) (operation : SettlementOperation) (before : Escrow)
    (agreement : Option Agreement) :
    (assertSettlementAllowed appId operation before agreement).Returns fun _ => before.status = .funded := by
  cases operation with
  | release =>
    unfold assertSettlementAllowed
    dsimp only
    split
    next =>
      apply Program.returns_bind
      intro milestone
      exact assertReleaseAllowed_funded ..
    next => exact assertReleaseAllowed_funded ..
  | refund =>
    simp only [assertSettlementAllowed, assertRefundAllowed]
    split
    next => trivial
    next =>
      split
      next => trivial
      next funded => exact Program.returns_const _ (not_not.mp funded)

theorem settles_reserveEscrowSettlement {req : RequestContext} (reserves : rule.Reserves req) (escrowId : RowId)
    (operation : SettlementOperation) :
    (reserveEscrowSettlement settings req escrowId operation).Emits
      (Settled rule req.request (reservationEffect operation)) := by
  apply Program.emits_bind (Accompanied.settled (accompanies_reserveRequest settings reserves))
  intro _
  apply Program.emits_bind (emits_read _)
  intro found
  apply settles_required
  intro before _
  apply Program.emits_bind (emits_read _)
  intro agreement
  apply Program.emits_bind_returned (Accompanied.settled (accompanies_assertSettlementAllowed _ _ _ _))
    (assertSettlementAllowed_funded _ _ _ _)
  intro _ funded
  apply Program.emits_check
  intro _ allowed
  apply Program.emits_bind
  · apply settles_transitionEscrowStatus (by intros; rfl) (by intros; rfl)
    · exact fun _ _ => .inr (assertEscrowTransition_ok_iff.mp allowed)
    · exact fun _ _ => ⟨funded, rfl⟩
  intro count
  split
  next => exact Program.emits_throw _
  next =>
    apply Program.emits_bind (emits_read _)
    intro found
    apply settles_required
    intro pending _
    apply Program.emits_bind
    · apply emits_createTransaction rfl ⟨rfl, rfl, by cases operation <;> simp [newTransaction, settlementType]⟩
      intro db lawful
      exact ⟨⟨⟨lawful, .inr (.inr rfl), trivial, fun _ => List.mem_cons_self, trivial⟩, trivial⟩,
        heeds_other (by simp [Write.relation])⟩
    intro transaction
    exact Program.emits_pure _

/-- A finalization goes on only with an escrow in the pending status. -/
theorem settles_currentPending {req : RequestContext} {operation : SettlementOperation}
    {escrowId : RowId} {purpose : String} {rest : Escrow → Tx α}
    (pending : ∀ current, current.status = settlementPendingStatus operation →
      (rest current).Emits (Settled rule request effect)) :
    (currentPending req operation escrowId purpose >>= rest).Emits (Settled rule request effect) := by
  refine ⟨?_, ?_⟩
  · intro now db answer writes executed
    cases executed
    trivial
  intro found
  cases found with
  | none => trivial
  | some current =>
    by_cases changed : current.status ≠ settlementPendingStatus operation
    · change Program.Emits _ (Program.bind (if _ then _ else _) rest)
      rw [if_pos changed]
      trivial
    · change Program.Emits _ (Program.bind (if _ then _ else _) rest)
      rw [if_neg changed]
      exact pending current (not_not.mp changed)

theorem settles_finalizeFailedEscrowSettlement {req : RequestContext} (completes : rule.Completes req) (operation : SettlementOperation)
    (reserved : ReservedEscrowSettlement) :
    (finalizeFailedEscrowSettlement settings req operation reserved).Emits
      (Settled rule request (failureEffect operation)) := by
  apply settles_currentPending
  intro current pending
  apply Program.emits_check
  intro _ allowed
  have valid := pending ▸ assertEscrowTransition_ok_iff.mp allowed
  apply Program.emits_bind
  · apply settles_transitionEscrowStatus (by intros; rfl) (by intros; rfl)
    · exact fun _ _ => .inr valid
    · exact fun _ _ => ⟨rfl, rfl⟩
  intro count
  apply Program.emits_bind (Program.emits_ofExcept _)
  intro _
  apply Program.emits_bind (emits_read _)
  intro found
  apply settles_required
  intro failed _
  apply Program.emits_bind (settles_updateTransaction (by intros; rfl) (by intros; rfl))
  intro _
  apply Program.emits_bind (Accompanied.settled (accompanies_storeIdempotentResponse settings completes _ _))
  intro _
  exact Program.emits_pure _

@[simp] theorem escrowSettledBy_status (operation : SettlementOperation) (next : EscrowStatus)
    (txHash : Option String) (row : Escrow) : (escrowSettledBy operation next txHash row).status = next := by
  cases operation <;> rfl

theorem settlementNextStatus_mem (operation : SettlementOperation) (current : Escrow) (status : EscrowStatus) :
    settlementNextStatus operation current status ∈ [settlementPendingStatus operation,
      settlementTerminalStatus operation, .reconciliationRequired] := by
  unfold settlementNextStatus
  split
  next => simp
  next =>
    split
    next => simp
    next => simp

theorem settles_finalizeSuccessfulEscrowSettlement {req : RequestContext} (completes : rule.Completes req)
    (operation : SettlementOperation)
    (reserved : ReservedEscrowSettlement) (result : EscrowAdapterResult) :
    (finalizeSuccessfulEscrowSettlement settings req operation reserved result).Emits
      (Settled rule req.request (settlementEffect operation)) := by
  apply settles_currentPending
  intro current pending
  dsimp only
  have swap : (settlementPendingStatus operation = settlementNextStatus operation current result.status ∨
      canTransitionEscrow (settlementPendingStatus operation)
        (settlementNextStatus operation current result.status) = true) →
      (do
        let count ← transitionEscrowStatus req.appId current.id (settlementPendingStatus operation)
          (escrowSettledBy operation (settlementNextStatus operation current result.status) result.txHash)
        Program.ofExcept (assertLifecycleCompareAndSwap "escrow" count (settlementPendingStatus operation)
          (settlementNextStatus operation current result.status))
        let updated ← required "Escrow not found after settlement finalization." "escrow_not_found"
          (← findEscrowForApp req.appId current.id)
        let _ ← updateTransaction req.appId reserved.transactionId (transactionSettledBy current
          (settlementNextStatus operation current result.status) result.txHash)
        enqueueCkbReconciliation ⟨req.request, 1⟩ updated reserved.transactionId
        if settlementNextStatus operation current result.status = settlementTerminalStatus operation then
          transitionSettledScope req.appId updated operation
        else pure ()
        storeIdempotentResponse settings req 200 (.escrow updated)
        return .escrow updated : Tx Reply).Emits (Settled rule req.request (settlementEffect operation)) := by
    intro valid
    apply Program.emits_bind
    · apply settles_transitionEscrowStatus
      · intro row
        cases operation <;> rfl
      · intro row
        cases operation <;> rfl
      · intro row _
        rw [escrowSettledBy_status]
        exact valid
      · intro row _
        rw [escrowSettledBy_status]
        exact ⟨rfl, settlementNextStatus_mem _ _ _⟩
    intro count
    apply Program.emits_bind (Program.emits_ofExcept _)
    intro _
    apply Program.emits_bind (emits_read _)
    intro found
    apply settles_required
    intro updated _
    apply Program.emits_bind (settles_updateTransaction (by intros; rfl) (by intros; rfl))
    intro _
    apply Program.emits_bind (Accompanied.settled (accompanies_enqueueCkbReconciliation (by rfl) _ _))
    intro _
    split
    next =>
      apply Program.emits_bind (Accompanied.settled (accompanies_transitionSettledScope _ _ _))
      intro _
      apply Program.emits_bind (Accompanied.settled (accompanies_storeIdempotentResponse settings completes _ _))
      intro _
      exact Program.emits_pure _
    next =>
      apply Program.emits_bind (Accompanied.settled (accompanies_storeIdempotentResponse settings completes _ _))
      intro _
      exact Program.emits_pure _
  split
  next =>
    apply Program.emits_check
    intro _ allowed
    apply swap
    exact .inr (pending ▸ assertEscrowTransition_ok_iff.mp allowed)
  next same =>
    apply swap
    exact .inl (pending ▸ (not_not.mp same).symm)

theorem settles_reconcileTransaction (snapshot : Snapshot) (observation : Observation) :
    (reconcileTransaction settings snapshot observation).Emits (Settled rule request reconciliationEffect) := by
  apply Program.emits_bind (emits_read _)
  intro currentTransaction
  apply Program.emits_bind (emits_read _)
  intro currentEscrow
  split
  next currentTransaction currentEscrow =>
    split
    next => exact Program.emits_throw _
    next =>
      dsimp only
      apply Program.emits_bind
      · unfold moveReconciled
        split
        next =>
          apply Program.emits_check
          intro _ allowed
          have valid := assertEscrowTransition_ok_iff.mp allowed
          apply Program.emits_bind
          · apply settles_transitionEscrowStatus (by intros; rfl) (by intros; rfl)
            · exact fun _ _ => .inr valid
            · exact fun _ _ => valid
          intro count
          exact Program.emits_ofExcept _
        next => exact Program.emits_pure _
      intro _
      apply Program.emits_bind (settles_updateTransaction (by intros; rfl) (by intros; rfl))
      intro _
      apply Program.emits_bind (emits_read _)
      intro found
      split
      next => exact Program.emits_throw _
      next =>
        apply Program.emits_bind (Accompanied.settled (accompanies_followReconciled _ _ _ _ _))
        intro _
        exact Program.emits_pure _
  next => exact Program.emits_throw _

end Settles

section Writes
variable {rely : List Query → Db → Db → Prop} {good : Db → Prop} {α β : Type}
variable {before after : Point Db Write Query} {escrows transactions : List Write}

/-- The writes of an open transaction to the escrows and to their transactions;
all its other writes accompany these. -/
structure Wrote (point : Point Db Write Query) (escrows transactions : List Write) : Prop where
  escrows : Write.to .escrows point.writes = escrows
  transactions : Write.to .transactions point.writes = transactions
  aside : ∀ write ∈ point.writes, Aside write ∨ write.relation = .escrows ∨ write.relation = .transactions

theorem Wrote.start (db : Db) : Wrote ⟨[], [], db⟩ [] [] :=
  ⟨rfl, rfl, fun _ member => absurd member List.not_mem_nil⟩

theorem Wrote.congr (wrote : Wrote before escrows transactions) (same : after.writes = before.writes) :
    Wrote after escrows transactions :=
  ⟨same ▸ wrote.escrows, same ▸ wrote.transactions, same ▸ wrote.aside⟩

theorem Wrote.append {added : List Write} (wrote : Wrote before escrows transactions)
    (same : after.writes = before.writes ++ added)
    (each : ∀ write ∈ added, Aside write ∨ write.relation = .escrows ∨ write.relation = .transactions) :
    Wrote after (escrows ++ Write.to .escrows added) (transactions ++ Write.to .transactions added) := by
  refine ⟨?_, ?_, ?_⟩
  · rw [same, Write.to_append, wrote.escrows]
  · rw [same, Write.to_append, wrote.transactions]
  · intro write member
    rw [same] at member
    cases List.mem_append.mp member with
    | inl old => exact wrote.aside write old
    | inr new => exact each write new

/-- A part of the body that only accompanies. -/
theorem Wrote.beside {body : Tx α} {result : α} (wrote : Wrote before escrows transactions)
    {request : Nat}
    (outcome : Outcome rely good body before result after) (emits : body.Emits (Accompanied .any request)) :
    Wrote after escrows transactions := by
  obtain ⟨added, same, each⟩ := outcome.writes emits
  have aside : ∀ write ∈ added, Aside write := by
    intro write member
    obtain ⟨_, accompanied⟩ := each write member
    exact accompanied.accompanies.2
  have whole := wrote.append same fun write member => .inl (aside write member)
  rwa [Write.to_eq_nil fun write member => (aside write member).relation_ne.1,
    Write.to_eq_nil fun write member => (aside write member).relation_ne.2.1, List.append_nil,
    List.append_nil] at whole

theorem Wrote.escrow {row : Escrow} (wrote : Wrote before escrows transactions)
    (same : after.writes = before.writes ++ [.escrow row]) :
    Wrote after (escrows ++ [.escrow row]) transactions := by
  have whole := wrote.append same (by simp [Write.relation])
  simpa [Write.to, Write.relation] using whole

theorem Wrote.transaction {row : Transaction} (wrote : Wrote before escrows transactions)
    (same : after.writes = before.writes ++ [.transaction row]) :
    Wrote after escrows (transactions ++ [.transaction row]) := by
  have whole := wrote.append same (by simp [Write.relation])
  simpa [Write.to, Write.relation] using whole

theorem Wrote.record_read (wrote : Wrote before escrows transactions) (query : Query) :
    Wrote (before.record query []) escrows transactions :=
  wrote.congr (List.append_nil _)

theorem Wrote.record_escrow (wrote : Wrote before escrows transactions) (query : Query) (row : Escrow) :
    Wrote (before.record query [.escrow row]) (escrows ++ [.escrow row]) transactions :=
  wrote.escrow rfl

theorem Wrote.record_transaction (wrote : Wrote before escrows transactions) (query : Query)
    (row : Transaction) :
    Wrote (before.record query [.transaction row]) escrows (transactions ++ [.transaction row]) :=
  wrote.transaction rfl

theorem Wrote.view_escrows (wrote : Wrote after escrows transactions) :
    after.view.escrows = (Storage.view escrows after.db).escrows := by
  rw [Point.view, Store.view_escrows, wrote.escrows]

theorem Wrote.view_transactions (wrote : Wrote after escrows transactions) :
    after.view.transactions = (Storage.view transactions after.db).transactions := by
  rw [Point.view, Store.view_transactions, wrote.transactions]

end Writes

end PactAgent.Escrow
