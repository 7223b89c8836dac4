import PactAgent.Store.References

/-! The audits of the references between rows: the script that compares the apps of rows
and of what they name, and the check of the migration that scopes them. -/

namespace PactAgent.Store
open PactAgent.Foundation PactAgent.Common PactAgent.Lifecycle

section Tenants

structure TenantViolation where
  relation : String
  childId : RowId
  childAppId : String
  parentId : RowId
  parentAppId : String

/-- A column that names rows of another table. -/
structure TenantCheck where
  relation : String
  /-- The rows of the table: their id, their app, and the column. -/
  children : Db → List (RowId × String × Option RowId)
  /-- The app of a row of the other table. -/
  parentAppId : Db → RowId → Option String

/-- The rows of the query before they are sorted. -/
def TenantCheck.rows (check : TenantCheck) (db : Db) : List TenantViolation :=
  (check.children db).filterMap fun (childId, childAppId, column) => do
    let parentId ← column
    let parentAppId ← check.parentAppId db parentId
    if childAppId ≠ parentAppId then some ⟨check.relation, childId, childAppId, parentId, parentAppId⟩ else none

def Db.agreementApp (db : Db) (id : RowId) : Option String := (db.agreements.get id).map (·.appId)
def Db.milestoneApp (db : Db) (id : RowId) : Option String := (db.milestones.get id).map (·.appId)
def Db.proofApp (db : Db) (id : RowId) : Option String := (db.proofs.get id).map (·.appId)
def Db.escrowApp (db : Db) (id : RowId) : Option String := (db.escrows.get id).map (·.appId)

def tenantChecks : List TenantCheck :=
  [⟨"Milestone.agreementId", fun db => db.milestones.rows.map fun row => (row.id, row.appId, some row.agreementId),
      Db.agreementApp⟩,
    ⟨"Proof.agreementId", fun db => db.proofs.rows.map fun row => (row.id, row.appId, some row.agreementId),
      Db.agreementApp⟩,
    ⟨"Proof.milestoneId", fun db => db.proofs.rows.map fun row => (row.id, row.appId, some row.milestoneId),
      Db.milestoneApp⟩,
    ⟨"Review.agreementId", fun db => db.reviews.rows.map fun row => (row.id, row.appId, some row.agreementId),
      Db.agreementApp⟩,
    ⟨"Review.milestoneId", fun db => db.reviews.rows.map fun row => (row.id, row.appId, some row.milestoneId),
      Db.milestoneApp⟩,
    ⟨"Review.proofSubmissionId", fun db => db.reviews.rows.map fun row =>
      (row.id, row.appId, some row.proofSubmissionId), Db.proofApp⟩,
    ⟨"Escrow.agreementId", fun db => db.escrows.rows.map fun row => (row.id, row.appId, some row.agreementId),
      Db.agreementApp⟩,
    ⟨"Escrow.milestoneId", fun db => db.escrows.rows.map fun row => (row.id, row.appId, row.milestoneId),
      Db.milestoneApp⟩,
    ⟨"Transaction.agreementId", fun db => db.transactions.rows.map fun row => (row.id, row.appId, row.agreementId),
      Db.agreementApp⟩,
    ⟨"Transaction.milestoneId", fun db => db.transactions.rows.map fun row => (row.id, row.appId, row.milestoneId),
      Db.milestoneApp⟩,
    ⟨"Transaction.escrowId", fun db => db.transactions.rows.map fun row => (row.id, row.appId, row.escrowId),
      Db.escrowApp⟩,
    ⟨"Dispute.agreementId", fun db => db.disputes.rows.map fun row => (row.id, row.appId, some row.agreementId),
      Db.agreementApp⟩,
    ⟨"Dispute.milestoneId", fun db => db.disputes.rows.map fun row => (row.id, row.appId, some row.milestoneId),
      Db.milestoneApp⟩]

/-- The violations that are logged, at most a hundred of each check, in the order of the ids. -/
def auditTenantIntegrity (byChildId : TenantViolation → TenantViolation → Bool) (db : Db) : List TenantViolation :=
  tenantChecks.flatMap fun check => ((check.rows db).mergeSort byChildId).take 100

end Tenants

section Preflight

def Db.milestoneInScope (db : Db) (appId : String) (agreementId milestoneId : RowId) : Bool :=
  (db.milestones.get milestoneId).any fun milestone =>
    milestone.agreementId = agreementId && milestone.appId = appId

def Review.proofInScope (db : Db) (row : Review) : Bool :=
  (db.proofs.get row.proofSubmissionId).any fun proof =>
    proof.agreementId = row.agreementId && proof.milestoneId = row.milestoneId && proof.appId = row.appId

def Escrow.milestoneInScope (db : Db) (row : Escrow) : Bool :=
  row.milestoneId.all fun milestoneId => db.milestoneInScope row.appId row.agreementId milestoneId

/-- Without an agreement no milestone is in scope. -/
def Transaction.milestoneInScope (db : Db) (row : Transaction) : Bool :=
  row.milestoneId.all fun milestoneId =>
    row.agreementId.any fun agreementId => db.milestoneInScope row.appId agreementId milestoneId

/-- What a transaction has in common with its escrow. -/
structure TransactionScope where
  agreementId : Option RowId
  milestoneId : Option RowId
  rail : Rail
  network : Network
  amount : String
  currency : String
  deriving DecidableEq

def Transaction.scope (row : Transaction) : TransactionScope :=
  ⟨row.agreementId, row.milestoneId, row.rail, row.network, row.amount, row.currency⟩

def Escrow.transactionScope (row : Escrow) : TransactionScope :=
  ⟨some row.agreementId, row.milestoneId, row.rail, row.network, row.amount, row.currency⟩

/-- An escrow of another app is not joined. -/
def Transaction.escrowInScope (db : Db) (row : Transaction) : Bool :=
  row.escrowId.all fun escrowId => (db.escrows.get escrowId).all fun escrow =>
    escrow.appId ≠ row.appId || row.scope = escrow.transactionScope

/-- The checks that count something. -/
def invalidRelationships (db : Db) : List (String × Nat) :=
  [("Proof milestone/agreement",
      db.proofs.rows.countP fun row => !db.milestoneInScope row.appId row.agreementId row.milestoneId),
    ("Review proof scope", db.reviews.rows.countP fun row => !row.proofInScope db),
    ("Dispute milestone/agreement",
      db.disputes.rows.countP fun row => !db.milestoneInScope row.appId row.agreementId row.milestoneId),
    ("Escrow milestone/agreement", db.escrows.rows.countP fun row => !row.milestoneInScope db),
    ("Transaction milestone/agreement", db.transactions.rows.countP fun row => !row.milestoneInScope db),
    ("Transaction escrow scope", db.transactions.rows.countP fun row => !row.escrowInScope db)].filter
    fun check => 0 < check.2

/-- What the migration raises. -/
def migrationBlocked (db : Db) : Option String :=
  if invalidRelationships db = [] then none
  else some ("Phase 2 cross-resource migration blocked: " ++ String.intercalate ", "
    (((invalidRelationships db).mergeSort fun one two => one.1 ≤ two.1).map fun check =>
      check.1 ++ "=" ++ toString check.2))

end Preflight

section Intact
variable {db : Db}

/-- A transaction is about its escrow, which is there. -/
structure Transaction.Concerns (row : Transaction) (escrow : Escrow) : Prop where
  belongs : row.escrowId = some escrow.id
  app : row.appId = escrow.appId
  scope : row.scope = escrow.transactionScope

def Concerned (db : Db) : Prop :=
  ∀ row ∈ db.transactions, ∃ escrow, db.escrows.get escrow.id = some escrow ∧ row.Concerns escrow

/-- A check finds nothing where every reference stays within the app. -/
theorem TenantCheck.rows_nil {check : TenantCheck}
    (within : ∀ child ∈ check.children db, ∀ parentId, child.2.2 = some parentId →
      check.parentAppId db parentId = some child.2.1) : check.rows db = [] := by
  unfold TenantCheck.rows
  rw [List.filterMap_eq_nil_iff]
  rintro ⟨childId, childAppId, column⟩ member
  cases column with
  | none => rfl
  | some parentId =>
    have same := within _ member parentId rfl
    simp only [Option.bind_eq_bind, Option.bind_some, same, ne_eq, not_true_eq_false, if_false]

theorem InMilestone.app {appId : String} {agreementId milestoneId : RowId}
    (inside : InMilestone db appId agreementId milestoneId) : db.milestoneApp milestoneId = some appId := by
  obtain ⟨milestone, stored, owner, _⟩ := inside
  unfold Db.milestoneApp
  rw [stored]
  exact congrArg some owner

theorem UnderAgreement.app {appId currency : String} {agreementId : RowId}
    (under : UnderAgreement db appId agreementId currency) : db.agreementApp agreementId = some appId := by
  obtain ⟨agreement, stored, owner, _⟩ := under
  unfold Db.agreementApp
  rw [stored]
  exact congrArg some owner

/-- The agreement of a milestone is that of its app. -/
theorem InMilestone.agreementApp {appId : String} {agreementId milestoneId : RowId}
    (inside : InMilestone db appId agreementId milestoneId) (linked : Linked db) :
    db.agreementApp agreementId = some appId := by
  obtain ⟨milestone, stored, owner, under⟩ := inside
  have refers := linked.milestones milestone (Table.mem_of_get stored)
  unfold Milestone.Refers at refers
  rw [owner, under] at refers
  exact refers.app

theorem Review.Refers.inside {row : Review} (refers : row.Refers db) (linked : Linked db) :
    InMilestone db row.appId row.agreementId row.milestoneId := by
  obtain ⟨proof, stored, owner, agreement, milestone⟩ := refers
  have inside := linked.proofs proof (Table.mem_of_get stored)
  unfold Proof.Refers at inside
  rwa [owner, agreement, milestone] at inside

theorem Escrow.Refers.inside {row : Escrow} (refers : row.Refers db) {milestoneId : RowId}
    (named : row.milestoneId = some milestoneId) : InMilestone db row.appId row.agreementId milestoneId := by
  have fits := refers.fits
  unfold EscrowTerms.Fits at fits
  rw [show row.terms.scope.milestoneId = some milestoneId from named] at fits
  obtain ⟨milestone, stored, owner, under, _⟩ := fits
  exact ⟨milestone, stored, owner, under⟩

/-- Where every row refers to what is there, and every transaction is about its escrow, the
script finds no row of another app. -/
theorem auditTenantIntegrity_nil (linked : Linked db) (concerned : Concerned db)
    (byChildId : TenantViolation → TenantViolation → Bool) : auditTenantIntegrity byChildId db = [] := by
  have none : ∀ check ∈ tenantChecks, check.rows db = [] := by
    intro check member
    simp only [tenantChecks, List.mem_cons, List.not_mem_nil, or_false] at member
    rcases member with rfl | rfl | rfl | rfl | rfl | rfl | rfl | rfl | rfl | rfl | rfl | rfl | rfl
    all_goals
      apply TenantCheck.rows_nil
      intro child listed parentId named
      obtain ⟨row, stored, rfl⟩ := List.mem_map.mp listed
      dsimp only at named ⊢
    · cases named
      exact (linked.milestones row stored).app
    · cases named
      exact (linked.proofs row stored).agreementApp linked
    · cases named
      exact (linked.proofs row stored).app
    · cases named
      exact ((linked.reviews row stored).inside linked).agreementApp linked
    · cases named
      exact ((linked.reviews row stored).inside linked).app
    · cases named
      obtain ⟨proof, there, owner, _⟩ := linked.reviews row stored
      unfold Db.proofApp
      rw [there]
      exact congrArg some owner
    · cases named
      exact (linked.escrows row stored).agreement.app
    · exact ((linked.escrows row stored).inside named).app
    · obtain ⟨escrow, there, concerns⟩ := concerned row stored
      have same : some parentId = some escrow.agreementId :=
        named.symm.trans (congrArg TransactionScope.agreementId concerns.scope)
      cases same
      rw [concerns.app]
      exact (linked.escrows escrow (Table.mem_of_get there)).agreement.app
    · obtain ⟨escrow, there, concerns⟩ := concerned row stored
      have same : escrow.milestoneId = some parentId :=
        (congrArg TransactionScope.milestoneId concerns.scope).symm.trans named
      rw [concerns.app]
      exact ((linked.escrows escrow (Table.mem_of_get there)).inside same).app
    · obtain ⟨escrow, there, concerns⟩ := concerned row stored
      have same : some parentId = some escrow.id := named.symm.trans concerns.belongs
      cases same
      unfold Db.escrowApp
      rw [there, concerns.app]
      rfl
    · cases named
      exact (linked.disputes row stored).agreementApp linked
    · cases named
      exact (linked.disputes row stored).app
  unfold auditTenantIntegrity
  rw [List.flatMap_eq_nil_iff]
  intro check member
  rw [none check member, List.mergeSort_nil, List.take_nil]

theorem InMilestone.inScope {appId : String} {agreementId milestoneId : RowId}
    (inside : InMilestone db appId agreementId milestoneId) : db.milestoneInScope appId agreementId milestoneId = true := by
  obtain ⟨milestone, stored, owner, under⟩ := inside
  simp [Db.milestoneInScope, stored, owner, under]

/-- Nor does the migration find anything to raise. -/
theorem migrationBlocked_none (linked : Linked db) (concerned : Concerned db) : migrationBlocked db = none := by
  have proofs : (db.proofs.rows.countP fun row =>
      !db.milestoneInScope row.appId row.agreementId row.milestoneId) = 0 := by
    rw [List.countP_eq_zero]
    intro row stored
    simp [(linked.proofs row stored).inScope]
  have reviews : (db.reviews.rows.countP fun row => !row.proofInScope db) = 0 := by
    rw [List.countP_eq_zero]
    intro row stored
    obtain ⟨proof, there, owner, agreement, milestone⟩ := linked.reviews row stored
    simp [Review.proofInScope, there, owner, agreement, milestone]
  have disputes : (db.disputes.rows.countP fun row =>
      !db.milestoneInScope row.appId row.agreementId row.milestoneId) = 0 := by
    rw [List.countP_eq_zero]
    intro row stored
    simp [(linked.disputes row stored).inScope]
  have escrows : (db.escrows.rows.countP fun row => !row.milestoneInScope db) = 0 := by
    rw [List.countP_eq_zero]
    intro row stored
    unfold Escrow.milestoneInScope
    cases named : row.milestoneId with
    | none => simp
    | some milestoneId => simp [((linked.escrows row stored).inside named).inScope]
  have transactions : (db.transactions.rows.countP fun row => !row.milestoneInScope db) = 0 := by
    rw [List.countP_eq_zero]
    intro row stored
    obtain ⟨escrow, there, concerns⟩ := concerned row stored
    have milestone : row.milestoneId = escrow.milestoneId := congrArg TransactionScope.milestoneId concerns.scope
    have agreement : row.agreementId = some escrow.agreementId :=
      congrArg TransactionScope.agreementId concerns.scope
    unfold Transaction.milestoneInScope
    rw [milestone, agreement, concerns.app]
    cases named : escrow.milestoneId with
    | none => simp
    | some milestoneId => simp [((linked.escrows escrow (Table.mem_of_get there)).inside named).inScope]
  have scopes : (db.transactions.rows.countP fun row => !row.escrowInScope db) = 0 := by
    rw [List.countP_eq_zero]
    intro row stored
    obtain ⟨escrow, there, concerns⟩ := concerned row stored
    simp [Transaction.escrowInScope, concerns.belongs, there, concerns.scope]
  have empty : invalidRelationships db = [] := by
    simp [invalidRelationships, proofs, reviews, disputes, escrows, transactions, scopes]
  unfold migrationBlocked
  rw [if_pos empty]

end Intact

end PactAgent.Store
