import PactAgent.Store.Effects

/-! The rules that every single write of the server obeys, whatever transaction it
belongs to: an insert makes a row in its first status under an identifier of its own
request, and an update moves the stored row along its lifecycle table and leaves its
terms alone. The rule of a write speaks only of the row that the write locks, so that
it survives to the commit. -/

namespace PactAgent.Store
open PactAgent.Foundation PactAgent.Common PactAgent.Lifecycle

/-- What an escrow is about; no update changes it. -/
structure EscrowTerms where
  scope : Scope
  amount : String
  currency : String
  rail : Rail
  network : Network

def Escrow.terms (escrow : Escrow) : EscrowTerms :=
  ⟨escrow.scope, escrow.amount, escrow.currency, escrow.rail, escrow.network⟩

structure TransactionTerms where
  appId : String
  escrowId : Option RowId
  type : TransactionType
  rail : Rail
  operationId : Option OperationId

def Transaction.terms (row : Transaction) : TransactionTerms :=
  ⟨row.appId, row.escrowId, row.type, row.rail, row.operationId⟩

/-- The moves of a proof under review. -/
def proofMoves : ProofStatus → ProofStatus → Bool
  | .submitted, .underReview => true
  | .underReview, .accepted | .underReview, .rejected | .underReview, .needsChanges => true
  | _, _ => false

def Dispute.resolvedBy (input : ResolveDisputeInput) (now : Nat) (row : Dispute) : Dispute :=
  { row with
    status := statusForResolutionType input.resolutionType
    resolutionType := some input.resolutionType
    workerAmount := input.workerAmount
    clientAmount := input.clientAmount
    resolvedAt := some now }

/-- A row is inserted in its first status, or it follows a stored one. -/
def RowRule {Row : Type} (request : Nat) (id : RowId) (first : Prop) (next : Row → Prop) : Option Row → Prop
  | none => id.request = request ∧ first
  | some old => next old

/-- The rule of a write on a database. -/
def Lawful (request : Nat) (db : Db) : Write → Prop
  | .agreement row => RowRule request row.id (row.status = .draft)
      (fun old => ∃ next now, canTransitionAgreement old.status next = true ∧ row = old.transition next now)
      (db.agreements.get row.id)
  | .lockAgreement _ => True
  | .milestone row => RowRule request row.id (row.status = .pending)
      (fun old => ∃ next, canTransitionMilestone old.status next = true ∧ row = { old with status := next })
      (db.milestones.get row.id)
  | .proof row => RowRule request row.id (row.status = .submitted)
      (fun old => ∃ next, proofMoves old.status next = true ∧ row = { old with status := next })
      (db.proofs.get row.id)
  | .review row => RowRule request row.id True (fun _ => False) (db.reviews.get row.id)
  | .dispute row => RowRule request row.id (row.status = .opened)
      (fun old => ∃ input now, old.status.unresolved = true ∧ row = old.resolvedBy input now)
      (db.disputes.get row.id)
  | .escrow row => RowRule request row.id (row.status = .notCreated)
      (fun old => (old.status = row.status ∨ canTransitionEscrow old.status row.status = true) ∧
        row.terms = old.terms) (db.escrows.get row.id)
  | .deleteEscrow row => db.escrows.get row.id = some row ∧ row.status = .notCreated
  | .transaction row => RowRule request row.id
      (row.status = .pending ∧ row.txHash = none ∧ (row.type = .lock ↔ row.id.index = 1))
      (fun old => row.terms = old.terms) (db.transactions.get row.id)
  | .deleteTransaction row => db.transactions.get row.id = some row ∧ row.id.index = 1
  | .job row => RowRule request row.id (row.status = .queued ∧ row.dedupeKey = some row.transactionId)
      (fun _ => False) (db.jobs.get row.id)
  | .idempotencyKey _ _ => True

variable {request : Nat}

/-- The rule reads only the row that the write locks first. -/
theorem lawful_local : Storage.Local (Lawful request) := by
  intro write first second agree lawful
  cases write with
  | lockAgreement id => trivial
  | idempotencyKey appKey row => trivial
  | _ =>
    have same := agree _ List.mem_cons_self
    change _ = _ at same
    simp only [Lawful] at lawful ⊢
    rw [← same]
    exact lawful

section Statements
variable {allowed : Db → Write → Prop} {appId : String} {id : RowId}

theorem agreementForApp_some {db : Db} {row : Agreement} :
    db.agreementForApp appId id = some row ↔ db.agreements.get id = some row ∧ row.appId = appId := by
  simp [Db.agreementForApp, Option.filter_eq_some_iff]

theorem milestoneForApp_some {db : Db} {row : Milestone} :
    db.milestoneForApp appId id = some row ↔ db.milestones.get id = some row ∧ row.appId = appId := by
  simp [Db.milestoneForApp, Option.filter_eq_some_iff]

theorem proofForApp_some {db : Db} {row : Proof} :
    db.proofForApp appId id = some row ↔ db.proofs.get id = some row ∧ row.appId = appId := by
  simp [Db.proofForApp, Option.filter_eq_some_iff]

theorem disputeForApp_some {db : Db} {row : Dispute} :
    db.disputeForApp appId id = some row ↔ db.disputes.get id = some row ∧ row.appId = appId := by
  simp [Db.disputeForApp, Option.filter_eq_some_iff]

@[simp] theorem transition_id (next : AgreementStatus) (now : Nat) (row : Agreement) :
    (row.transition next now).id = row.id := by
  cases next <;> rfl

@[simp] theorem transition_status (next : AgreementStatus) (now : Nat) (row : Agreement) :
    (row.transition next now).status = next := by
  cases next <;> rfl

@[simp] theorem transition_appId (next : AgreementStatus) (now : Nat) (row : Agreement) :
    (row.transition next now).appId = row.appId := by
  cases next <;> rfl

@[simp] theorem transition_amount (next : AgreementStatus) (now : Nat) (row : Agreement) :
    (row.transition next now).amount = row.amount := by
  cases next <;> rfl

/-- The moves of agreements that a write may make. -/
def AgreementMoves (moves : AgreementStatus → AgreementStatus → Prop) (db : Db) : Write → Prop
  | .agreement row => ∀ old, db.agreements.get row.id = some old → moves old.status row.status
  | _ => True

def MilestoneMoves (moves : MilestoneStatus → MilestoneStatus → Prop) (db : Db) : Write → Prop
  | .milestone row => ∀ old, db.milestones.get row.id = some old → moves old.status row.status
  | _ => True

theorem agreementMoves_local {moves : AgreementStatus → AgreementStatus → Prop} :
    Storage.Local (AgreementMoves moves) := by
  intro write first second agree moved
  cases write with
  | agreement row =>
    have same : first.agreements.get row.id = second.agreements.get row.id :=
      agree (.agreement row.id) List.mem_cons_self
    simp only [AgreementMoves] at moved ⊢
    rw [← same]
    exact moved
  | _ => trivial

theorem milestoneMoves_local {moves : MilestoneStatus → MilestoneStatus → Prop} :
    Storage.Local (MilestoneMoves moves) := by
  intro write first second agree moved
  cases write with
  | milestone row =>
    have same : first.milestones.get row.id = second.milestones.get row.id :=
      agree (.milestone row.id) List.mem_cons_self
    simp only [MilestoneMoves] at moved ⊢
    rw [← same]
    exact moved
  | _ => trivial

/-- A validated compare-and-swap of an agreement. -/
theorem emits_transitionAgreementStatus {expected next : AgreementStatus}
    (valid : canTransitionAgreement expected next = true)
    (each : ∀ db row, Lawful request db (.agreement row) →
      AgreementMoves (fun old _ => old = expected) db (.agreement row) → row.status = next →
      allowed db (.agreement row)) :
    (transitionAgreementStatus appId id expected next).Emits allowed := by
  apply Program.emits_bind
  · apply emits_update
    intro now db row found met _
    obtain ⟨stored, _⟩ := agreementForApp_some.mp found
    have key : row.id = id := Table.key_of_get stored
    have status : row.status = expected := by simpa using met
    refine each db _ ?_ ?_ (transition_status next now row)
    · simp only [Lawful, transition_id, key, stored]
      exact ⟨next, now, status ▸ valid, rfl⟩
    · intro old found
      rw [transition_id, key, stored] at found
      cases found
      exact status
  intro count
  apply Program.emits_bind (Program.emits_ofExcept _)
  intro _
  exact emits_readOrThrow _

theorem emits_transitionMilestoneStatus {expected next : MilestoneStatus}
    (valid : canTransitionMilestone expected next = true)
    (each : ∀ db row, Lawful request db (.milestone row) →
      MilestoneMoves (fun old _ => old = expected) db (.milestone row) → row.status = next →
      allowed db (.milestone row)) :
    (transitionMilestoneStatus appId id expected next).Emits allowed := by
  apply Program.emits_bind
  · apply emits_update
    intro now db row found met _
    obtain ⟨stored, _⟩ := milestoneForApp_some.mp found
    have key : row.id = id := Table.key_of_get stored
    have status : row.status = expected := by simpa using met
    refine each db _ ?_ ?_ rfl
    · simp only [Lawful, key, stored]
      exact ⟨next, status ▸ valid, by rw [← key]⟩
    · intro old found
      rw [show ({ row with status := next } : Milestone).id = id from key, stored] at found
      cases found
      exact status
  intro count
  apply Program.emits_bind (Program.emits_ofExcept _)
  intro _
  exact emits_readOrThrow _

theorem emits_transitionProofStatus {expected next : ProofStatus} (valid : proofMoves expected next = true)
    (each : ∀ db row, Lawful request db (.proof row) → row.status = next → allowed db (.proof row)) :
    (transitionProofStatus appId id expected next).Emits allowed := by
  apply Program.emits_bind
  · apply emits_update
    intro now db row found met _
    obtain ⟨stored, _⟩ := proofForApp_some.mp found
    have key : row.id = id := Table.key_of_get stored
    refine each db _ ?_ rfl
    simp only [Lawful, key, stored]
    have status : row.status = expected := by simpa using met
    exact ⟨next, status ▸ valid, by rw [← key]⟩
  intro count
  apply Program.emits_bind (Program.emits_ofExcept _)
  intro _
  exact emits_readOrThrow _

theorem emits_resolveDispute {expected : DisputeStatus} {input : ResolveDisputeInput}
    (unresolved : expected.unresolved = true)
    (each : ∀ db row, Lawful request db (.dispute row) →
      row.status = statusForResolutionType input.resolutionType → allowed db (.dispute row)) :
    (resolveDispute appId id expected input).Emits allowed := by
  apply Program.emits_bind
  · apply emits_update
    intro now db row found met _
    obtain ⟨stored, _⟩ := disputeForApp_some.mp found
    have key : row.id = id := Table.key_of_get stored
    refine each db _ ?_ rfl
    simp only [Lawful, key, stored]
    have status : row.status = expected := by simpa using met
    exact ⟨input, now, status ▸ unresolved, by rw [← key]; rfl⟩
  intro count
  apply Program.emits_bind (Program.emits_ofExcept _)
  intro _
  exact emits_readOrThrow _

/-- A write of an escrow over a stored one; the other writes are free. -/
def Replaces (db : Db) : Write → Prop
  | .escrow row => (db.escrows.get row.id).isSome
  | _ => True

theorem replaces_local : Storage.Local Replaces := by
  intro write first second agree replaces
  cases write with
  | escrow row =>
    have same : first.escrows.get row.id = second.escrows.get row.id :=
      agree (.escrow row.id) List.mem_cons_self
    simp only [Replaces] at replaces ⊢
    rw [← same]
    exact replaces
  | _ => trivial

/-- The moves of escrows that a write may make. -/
def EscrowMoves (moves : EscrowStatus → EscrowStatus → Prop) (db : Db) : Write → Prop
  | .escrow row => ∀ old, db.escrows.get row.id = some old → moves old.status row.status
  | _ => True

theorem escrowMoves_local {moves : EscrowStatus → EscrowStatus → Prop} : Storage.Local (EscrowMoves moves) := by
  intro write first second agree moved
  cases write with
  | escrow row =>
    have same : first.escrows.get row.id = second.escrows.get row.id :=
      agree (.escrow row.id) List.mem_cons_self
    simp only [EscrowMoves] at moved ⊢
    rw [← same]
    exact moved
  | _ => trivial

/-- The types of the transactions that a write may insert. -/
def Introduces (types : List TransactionType) (db : Db) : Write → Prop
  | .transaction row => db.transactions.get row.id = none → row.type ∈ types
  | _ => True

theorem introduces_local {types : List TransactionType} : Storage.Local (Introduces types) := by
  intro write first second agree introduces
  cases write with
  | transaction row =>
    have same : first.transactions.get row.id = second.transactions.get row.id :=
      agree (.transaction row.id) List.mem_cons_self
    simp only [Introduces] at introduces ⊢
    rw [← same]
    exact introduces
  | _ => trivial

/-- A written escrow meets no other active escrow of its scope. -/
def Indexed (db : Db) : Write → Prop
  | .escrow row => activeScopeClashes row db = false
  | _ => True

theorem indexed_local : Storage.Local Indexed := by
  intro write first second agree indexed
  cases write with
  | escrow row =>
    have appeared : NoneAppeared (fun other => other.scope = row.scope) first.escrows second.escrows :=
      agree (.escrowScope row.scope) (List.mem_cons_of_mem _ List.mem_cons_self)
    simp only [Indexed, activeScopeClashes, Bool.and_eq_false_iff, List.any_eq_false] at indexed ⊢
    refine indexed.imp_right ?_
    intro free other member clashes
    have sameScope : other.scope = row.scope := by
      simp only [Bool.and_eq_true, decide_eq_true_eq] at clashes
      exact clashes.1.2
    exact free other (appeared other member sameScope) clashes
  | _ => trivial

/-- A compare-and-swap of an escrow that keeps its terms. -/
theorem emits_transitionEscrowStatus {expected : EscrowStatus} {change : Escrow → Escrow}
    (sameId : ∀ row, (change row).id = row.id) (sameTerms : ∀ row, (change row).terms = row.terms)
    (valid : ∀ row, row.status = expected →
      expected = (change row).status ∨ canTransitionEscrow expected (change row).status = true)
    (each : ∀ db old, old.status = expected → db.escrows.get (change old).id = some old →
      activeScopeClashes (change old) db = false →
      Lawful request db (.escrow (change old)) → allowed db (.escrow (change old))) :
    (transitionEscrowStatus appId id expected change).Emits allowed := by
  apply emits_update
  intro now db row found met free
  obtain ⟨stored, _⟩ := escrowForApp_some.mp found
  have key : row.id = id := Table.key_of_get stored
  have status : row.status = expected := by simpa using met
  apply each db row status
  · rw [sameId, key, stored]
  · exact free
  · simp only [Lawful, sameId, key, stored]
    exact ⟨status ▸ valid row status, sameTerms row⟩

theorem emits_updateTransaction {change : Nat → Transaction → Transaction}
    (sameId : ∀ now row, (change now row).id = row.id)
    (sameTerms : ∀ now row, (change now row).terms = row.terms)
    (each : ∀ db row, Lawful request db (.transaction row) → Introduces [] db (.transaction row) →
      allowed db (.transaction row)) :
    (updateTransaction appId id change).Emits allowed := by
  apply emits_update
  intro now db row found _ _
  obtain ⟨stored, _⟩ := transactionForApp_some.mp found
  have key : row.id = id := Table.key_of_get stored
  apply each
  · simp only [Lawful, sameId, key, stored]
    exact sameTerms now row
  · simp [Introduces, sameId, key, stored]

theorem emits_createTransaction {row : Transaction} (own : row.id.request = request)
    (first : row.status = .pending ∧ row.txHash = none ∧ (row.type = .lock ↔ row.id.index = 1))
    (each : ∀ db, Lawful request db (.transaction row) → allowed db (.transaction row)) :
    (createTransaction row).Emits allowed := by
  apply emits_insert
  intro db free
  have absent : db.transactions.get row.id = none := by
    simp only [transactionClashes, Bool.or_eq_false_iff] at free
    simpa using free.1
  apply each
  simp only [Lawful, absent]
  exact ⟨own, first⟩

theorem emits_enqueueJob {row : Job} (own : row.id.request = request)
    (first : row.status = .queued ∧ row.dedupeKey = some row.transactionId)
    (each : ∀ db, Lawful request db (.job row) → allowed db (.job row)) : (enqueueJob row).Emits allowed := by
  apply Program.emits_bind (emits_read _)
  intro existing
  cases existing with
  | some job => exact Program.emits_pure job
  | none =>
    apply emits_insert
    intro db free
    have absent : db.jobs.get row.id = none := by
      simp only [Bool.or_eq_false_iff] at free
      simpa using free.1
    apply each
    simp only [Lawful, absent]
    exact ⟨own, first⟩

end Statements

end PactAgent.Store
