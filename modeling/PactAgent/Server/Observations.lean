import PactAgent.Escrow.Observed
import PactAgent.Server.Reports

/-! What an observation of the node does to a transaction and its escrow: which ones the
escrow can follow, and where a transaction that the node does not know is flagged. -/

namespace PactAgent.Server
open PactAgent.Common PactAgent.Foundation PactAgent.Lifecycle PactAgent.Store PactAgent.Escrow
open PactAgent.Foundation.Execution PactAgent.Foundation.ReadCommitted
open PactAgent.Rail.Builder PactAgent.Rail.Node PactAgent.Rail.Script

section Statuses

/-- The server has seen the transaction, or the end of its escrow, in a block. -/
def wasSettled (row : TransactionStatus) (status : EscrowStatus) : Bool :=
  row = .confirmed || row = .reorged || status.terminal

/-- The statuses in which an escrow can follow an observation of its transaction. -/
def canFollow (type : TransactionType) (row : TransactionStatus) (status : EscrowStatus) :
    ObservationStatus → Bool
  | .unknown => status ≠ .failed
  | .pending => !wasSettled row status || status ≠ .failed
  | .rejected => if wasSettled row status then status ≠ .failed else status ≠ .funded
  | .committed =>
      type ≠ .lock || status ∈ [EscrowStatus.awaitingFunding, .fundingDetected, .reconciliationRequired]
  | .confirmed =>
      match type with
      | .lock => status ∈ [EscrowStatus.awaitingFunding, .fundingDetected, .funded, .reconciliationRequired, .failed]
      | .release => status ∈ [EscrowStatus.releasePending, .released, .reconciliationRequired]
      | .refund => status ∈ [EscrowStatus.refundPending, .refunded, .reconciliationRequired]

theorem reorganised_eq (row : TransactionStatus) (status : EscrowStatus) (observed : ObservationStatus) :
    reorganised row status observed = (wasSettled row status && !(observed = .confirmed || observed = .committed)) := by
  simp only [reorganised, wasSettled, Bool.or_assoc, Bool.or_comm status.terminal]

theorem canFollow_iff {type : TransactionType} {row : TransactionStatus} {status : EscrowStatus}
    {observed : ObservationStatus} {toStatus : EscrowStatus}
    (is : toStatus = reconciliationEscrowStatus type status observed (reorganised row status observed)) :
    canFollow type row status observed = true ↔ toStatus = status ∨ canTransitionEscrow status toStatus = true := by
  rw [is, reorganised_eq]
  unfold canFollow wasSettled
  generalize (decide (row = .confirmed) || decide (row = .reorged)) = noticed
  cases type <;> cases status <;> cases observed <;> cases noticed <;> decide

/-- A released or refunded escrow moves when its transaction is in no block, and then only. -/
theorem terminal_moves {type : TransactionType} {row : TransactionStatus} {status : EscrowStatus}
    {observed : ObservationStatus} {toStatus : EscrowStatus} (terminal : status.terminal = true)
    (is : toStatus = reconciliationEscrowStatus type status observed (reorganised row status observed)) :
    (observed ≠ .confirmed ∧ observed ≠ .committed → toStatus = .reconciliationRequired) ∧
      (toStatus ≠ status → canTransitionEscrow status toStatus = true →
        observed ≠ .confirmed ∧ observed ≠ .committed) := by
  rw [is, reorganised_eq, wasSettled, terminal, Bool.or_true, Bool.true_and]
  cases type <;> cases status <;> cases observed <;> first | (cases terminal; done) | decide

end Statuses

section Reconciliation
variable {settings : Settings} {id : Nat} {snapshot : Snapshot} {observation : Observation}
variable {actions between more : List Action} {start middle after : State} {answers : ObserveAnswers}
variable {verification : VerifyAnswers} {result : ReconcileResult}

/-- The rows that a reconciliation works on are there. -/
theorem reconciling_rows {db : Db} (holds : custody.holds db)
    (belongs : snapshot.transaction.escrowId = some snapshot.escrow.id)
    (knows : Knows id (.reconciling snapshot observation) db) : ∃ row escrow,
      db.transactionForApp snapshot.transaction.appId snapshot.transaction.id = some row ∧
      db.escrowForApp snapshot.transaction.appId snapshot.escrow.id = some escrow ∧
      row.txHash.map toLowerCase = some (toLowerCase snapshot.txHash) ∧ row.escrowId = some escrow.id := by
  obtain ⟨row, stored, _, terms, hash⟩ := knows.snapshot snapshot rfl
  obtain ⟨_, escrow, there, _⟩ := knows.subject snapshot.escrow rfl
  have key : escrow.id = snapshot.escrow.id := Table.key_of_get there
  have app : row.appId = snapshot.transaction.appId := congrArg TransactionTerms.appId terms
  have scope : row.escrowId = some escrow.id := by
    rw [key, ← belongs]
    exact congrArg TransactionTerms.escrowId terms
  have owner : escrow.appId = row.appId := by
    by_cases type : row.type = .lock
    · obtain ⟨_, found, key', stored', locks⟩ := holds.2.owner holds.1.typed (Table.mem_of_get stored) type
      have same : found.id = escrow.id := Option.some.inj (locks.belongs.symm.trans scope)
      rw [← key', same, key, there] at stored'
      cases stored'
      exact locks.app.symm
    · obtain ⟨found, backs⟩ := holds.1.backed row (Table.mem_of_get stored) type
      have same : found.id = escrow.id := Option.some.inj (backs.belongs.symm.trans scope)
      have stored' := backs.stored
      rw [same, key, there] at stored'
      cases stored'
      exact backs.app.symm
  exact ⟨row, escrow, transactionForApp_some.mpr ⟨stored, app⟩, escrowForApp_some.mpr ⟨there, owner.trans app⟩,
    by rw [hash]; rfl, scope⟩

/-- The observation is on the transaction, and the escrow is where it was or one edge on. -/
structure Recorded (id : Nat) (row : Transaction) (escrow : Escrow) (observation : Observation) (after : State) :
    Prop where
  ended : ∃ result, after.processes id = some ⟨.reconciled result, none, true⟩
  transaction : ∃ now, after.db.transactions.get row.id = some (transactionReconciledBy row observation
    (reorganised row.status escrow.status observation.status) now row)
  escrow : ∃ new, after.db.escrows.get escrow.id = some new ∧
    (new.status = escrow.status ∨ canTransitionEscrow escrow.status new.status = true)

/-- A released or refunded escrow leaves its end, and its scope has another active one. -/
def Displaced (db : Db) (escrow : Escrow) (observed : ObservationStatus) : Prop :=
  escrow.status.terminal = true ∧ observed ≠ .confirmed ∧ observed ≠ .committed ∧
    ∃ other ∈ db.escrows, other.id ≠ escrow.id ∧ other.scope = escrow.scope ∧ other.status.terminal = false

/-- The index of active scopes stops a move of the escrow where the escrow is displaced. -/
theorem clashes_iff {db : Db} {row : TransactionStatus} {type : TransactionType} {escrow : Escrow}
    {observed : ObservationStatus} {toStatus : EscrowStatus} (unique : ActiveUnique db) (member : escrow ∈ db.escrows)
    (is : toStatus = reconciliationEscrowStatus type escrow.status observed
      (reorganised row escrow.status observed)) (moves : toStatus ≠ escrow.status)
    (valid : canTransitionEscrow escrow.status toStatus = true) :
    activeScopeClashes { escrow with status := toStatus } db = true ↔ Displaced db escrow observed := by
  constructor
  · intro clashes
    obtain ⟨_, other, otherIn, different, scope, active⟩ := activeScopeClashes_iff.mp clashes
    cases terminal : escrow.status.terminal with
    | false =>
      rw [unique.free member terminal] at clashes
      cases clashes
    | true =>
      obtain ⟨unconfirmed, uncommitted⟩ := (terminal_moves terminal is).2 moves valid
      exact ⟨terminal, unconfirmed, uncommitted, other, otherIn, different, scope, active⟩
  · rintro ⟨terminal, unconfirmed, uncommitted, other, otherIn, different, scope, active⟩
    have required := (terminal_moves terminal is).1 ⟨unconfirmed, uncommitted⟩
    refine activeScopeClashes_iff.mpr ⟨?_, other, otherIn, different, scope, active⟩
    rw [required]
    rfl

/-- What the transaction of a reconciliation makes of the state it starts on. -/
theorem reconciling_ends (reached : run (step settings) initial actions = some start)
    (here : start.processes id = some ⟨.reconciling snapshot observation, none, true⟩)
    (quiet : ∀ action ∈ more, Uninterrupted id action)
    (transacted : run (step settings) start (.start id :: more) = some after)
    (ended : ∃ next, after.processes id = some ⟨next, none, true⟩) : ∃ row escrow result,
      start.db.transactions.get snapshot.transaction.id = some row ∧
      start.db.escrows.get snapshot.escrow.id = some escrow ∧ row.escrowId = some escrow.id ∧
      Reconciles start.db row escrow observation (reorganised row.status escrow.status observation.status)
        (reconciliationEscrowStatus row.type escrow.status observation.status
          (reorganised row.status escrow.status observation.status)) result ∧
      after.db = (match result with
        | .ok (_, writes) => Storage.view writes start.db
        | .error _ => start.db) ∧
      after.processes id = some ⟨match result with
        | .ok (value, _) => .reconciled value
        | .error error => .failed error, none, true⟩ := by
  have sound : Sound (app settings) custody start :=
    Sound.always custody_preserved custody_empty actions reached
  obtain ⟨ground, knows⟩ := sound.knows id _ here rfl
  obtain ⟨row, escrow, rowIs, escrowIs, sameHash, scope⟩ :=
    reconciling_rows sound.holds (ground.2 snapshot rfl).belongs knows
  obtain ⟨result, alone, ends⟩ := alone_of_run here rfl quiet transacted ended
  have rowStored := (transactionForApp_some.mp rowIs).1
  have escrowStored := (escrowForApp_some.mp escrowIs).1
  rcases alone_bind.mp alone with ⟨value, writes, reconciled, returned⟩ | ⟨error, reconciled, rfl⟩
  · cases alone_pure.mp returned
    exact ⟨row, escrow, .ok (value, writes), rowStored, escrowStored, scope,
      reconcileTransaction_alone rowIs escrowIs sameHash rfl rfl reconciled, ends.db, ends.process⟩
  · exact ⟨row, escrow, .error error, rowStored, escrowStored, scope,
      reconcileTransaction_alone rowIs escrowIs sameHash rfl rfl reconciled, ends.db, ends.process⟩

/-- The rest of `transact`. -/
theorem uninterrupted_transact (id statements : Nat) :
    ∀ action ∈ (List.replicate statements (.statement id 0) ++ [.finish id] : List Action), Uninterrupted id action := by
  intro action member
  rcases List.mem_append.mp member with statement | finish
  · rw [List.eq_of_mem_replicate statement]
    simp [Uninterrupted]
  · rw [List.mem_singleton.mp finish]
    simp [Uninterrupted]

/-- The node has no knowledge of the transaction: there is no response, or one without
the transaction that calls it unknown. -/
def Ignorant (answers : ObserveAnswers) : Prop :=
  answers.transaction = .ok none ∨ ∃ response, answers.transaction = .ok (some response) ∧
    response.transaction = none ∧ response.status = .unknown

/-- A missing response counts as unknown, every other ignorant one as pending. -/
theorem observe_ignorant (ignorant : Ignorant answers) (confirmations : Nat) :
    (answers.transaction = .ok none ∧ observeTransaction confirmations answers = .ok ⟨.unknown, 0, none, none, none⟩) ∨
      (answers.transaction ≠ .ok none ∧
        observeTransaction confirmations answers = .ok ⟨.pending, 0, none, none, none⟩) := by
  rcases ignorant with null | ⟨response, given, _, unknown⟩
  · left
    refine ⟨null, ?_⟩
    unfold observeTransaction
    rw [null]
    rfl
  · right
    refine ⟨by simp [given], ?_⟩
    unfold observeTransaction
    rw [given]
    change (if response.status = .rejected then _ else _) = _
    rw [unknown]
    rfl

/-- An observation outside the blocks is the one that the reconciliation goes on with. -/
theorem observing_step {env : Env} {observation : Observation} {verification : VerifyAnswers}
    (observed : observeTransaction settings.railConfig.confirmations answers = .ok observation)
    (outsideBlocks : observation.status ≠ .committed ∧ observation.status ≠ .confirmed) :
    ∃ reported, outside settings env id (.observing snapshot) (.observe answers verification) =
      some (reported, .reconciling snapshot observation) := by
  have passed : observeSnapshot settings snapshot answers verification = .ok observation := by
    refine Guard.bind_ok_iff.mpr ⟨observation, observed, ?_⟩
    rw [if_neg (not_or.mpr outsideBlocks)]
    rfl
  simp only [outside, passed]
  exact ⟨_, rfl⟩

/-- The transaction is flagged, and so is its escrow. -/
structure Flagged (snapshot : Snapshot) (db : Db) : Prop where
  transaction : ∃ row, db.transactions.get snapshot.transaction.id = some row ∧
    row.status ∈ [TransactionStatus.reconciliationRequired, .reorged]
  escrow : ∃ escrow, db.escrows.get snapshot.escrow.id = some escrow ∧ escrow.status = .reconciliationRequired

/-- A reconciliation that recorded an observation outside the blocks has flagged the
transaction where the observation is unknown, or takes the transaction out of a block. -/
theorem flagged_iff {db : Db} {row new : Transaction} {escrow moved : Escrow} {reorg : Bool}
    (storedNew : db.transactions.get snapshot.transaction.id = some new)
    (storedEscrow : db.escrows.get snapshot.escrow.id = some moved)
    (movedTo : moved.status = reconciliationEscrowStatus row.type escrow.status observation.status reorg)
    (recorded : new.status = reconciledTransactionStatus observation.status reorg) :
    Flagged snapshot db ↔ observation.status = .unknown ∨ reorg = true := by
  constructor
  · rintro ⟨⟨found, stored, flagged⟩, _⟩
    rw [storedNew] at stored
    cases stored
    rw [recorded] at flagged
    unfold reconciledTransactionStatus at flagged
    cases reorg <;> cases observed : observation.status <;> simp [observed] at flagged ⊢
  · intro cause
    refine ⟨⟨new, storedNew, ?_⟩, _, storedEscrow, ?_⟩
    · rw [recorded]
      unfold reconciledTransactionStatus
      rcases cause with unknown | reorganised
      · rw [unknown]
        cases reorg <;> simp
      · rw [reorganised]
        simp
    · rw [movedTo]
      unfold reconciliationEscrowStatus
      exact if_pos cause.symm

end Reconciliation

end PactAgent.Server
