import PactAgent.Escrow.Commits
import PactAgent.Store.Alone

/-! What a reconciliation makes of the transaction and the escrow that it finds, when no
other transaction commits meanwhile: it fails on a move that is no edge, or on the index
of active scopes, and records the observation otherwise. -/

namespace PactAgent.Escrow
open PactAgent.Common PactAgent.Foundation PactAgent.Lifecycle PactAgent.Store
open PactAgent.Rail.Builder PactAgent.Rail.Node PactAgent.Rail.Script

variable {settings : Settings} {db : Db} {writes : List Write} {appId : String}

section Parents

theorem completes_transitionMilestoneIfAllowed (milestoneId : RowId) (toStatus : MilestoneStatus) :
    Completes db (transitionMilestoneIfAllowed appId milestoneId toStatus) writes := by
  apply completes_bind (completes_read _)
  intro found after read
  cases alone_read.mp read
  split
  next => exact completes_pure _
  next milestone present =>
    split
    next => exact completes_pure _
    next =>
      split
      next => exact completes_pure _
      next =>
        apply completes_bind (completes_transitionMilestoneStatus present)
        intro _ _ _
        exact completes_pure _

theorem completes_transitionAgreementWhenAllEscrowsTerminal (agreementId : RowId) (operation : SettlementOperation) :
    Completes db (transitionAgreementWhenAllEscrowsTerminal appId agreementId operation) writes := by
  unfold transitionAgreementWhenAllEscrowsTerminal
  extract_lets toStatus terminalStatus
  clear_value toStatus terminalStatus
  apply completes_bind (completes_read _)
  intro found after read
  cases alone_read.mp read
  cases present : (Storage.view writes db).agreementForApp appId agreementId with
  | none => exact completes_pure _
  | some agreement =>
    dsimp only
    split
    next => exact completes_pure _
    next =>
      apply completes_bind (completes_read _)
      intro escrows after read
      cases alone_read.mp read
      split
      next => exact completes_pure _
      next =>
        split
        next => exact completes_pure _
        next =>
          split
          next =>
            obtain ⟨completes, moves⟩ := completes_transitionAgreementStatus present
            apply completes_bind completes
            intro moved after alone
            obtain ⟨now, _, there⟩ := moves moved after alone
            apply completes_bind (completes_transitionAgreementStatus there).1
            intro _ _ _
            exact completes_pure _
          next =>
            split
            next =>
              apply completes_bind (completes_transitionAgreementStatus present).1
              intro _ _ _
              exact completes_pure _
            next => exact completes_pure _

theorem completes_transitionFundingScope (escrow : Escrow) :
    Completes db (transitionFundingScope appId escrow) writes := by
  have milestones : ∀ writes, Completes db (fundMilestone appId escrow) writes := by
    intro writes
    unfold fundMilestone
    split
    next => exact completes_pure _
    next milestoneId _ =>
      apply completes_bind (completes_read _)
      intro found after read
      cases alone_read.mp read
      cases present : (Storage.view writes db).milestoneForApp appId milestoneId with
      | none => exact completes_pure _
      | some milestone =>
        dsimp only
        split
        next =>
          apply completes_bind (completes_transitionMilestoneStatus present)
          intro _ _ _
          exact completes_pure _
        next => exact completes_pure _
  apply completes_bind (completes_read _)
  intro found after read
  cases alone_read.mp read
  cases present : (Storage.view writes db).agreementForApp appId escrow.agreementId with
  | none => exact milestones _
  | some agreement =>
    dsimp only
    split
    next =>
      apply completes_bind (completes_transitionAgreementStatus present).1
      intro _ after _
      exact milestones after
    next => exact milestones _

theorem completes_transitionSettledScope (escrow : Escrow) (operation : SettlementOperation) :
    Completes db (transitionSettledScope appId escrow operation) writes := by
  unfold transitionSettledScope
  split
  next milestoneId _ =>
    apply completes_bind (completes_transitionMilestoneIfAllowed _ _)
    intro _ _ _
    exact completes_transitionAgreementWhenAllEscrowsTerminal _ _
  next => exact completes_transitionAgreementWhenAllEscrowsTerminal _ _

theorem completes_followReconciled (escrow : Escrow) (fromStatus toStatus : EscrowStatus) (reorgEvent : Bool) :
    Completes db (followReconciled appId escrow fromStatus toStatus reorgEvent) writes := by
  unfold followReconciled
  split
  next => exact completes_pure _
  next =>
    split
    next => exact completes_transitionFundingScope _
    next => exact completes_transitionSettledScope _ _
    next => exact completes_transitionSettledScope _ _
    next => exact completes_pure _

end Parents

theorem escrowForApp_put {row : Escrow} (owned : row.appId = appId) :
    (Storage.view (writes ++ [.escrow row]) db).escrowForApp appId row.id = some row := by
  rw [Storage.view_append]
  change Option.filter _ (Table.get (Table.put row _) (Keyed.key row)) = _
  rw [Table.get_put_self]
  simp [owned]

/-- The move of an escrow that was just read. -/
theorem moveReconciled_alone {escrow : Escrow} {toStatus : EscrowStatus}
    {result : Except Failure (Unit × List Write)}
    (found : (Storage.view writes db).escrowForApp appId escrow.id = some escrow)
    (alone : Alone db (moveReconciled appId escrow toStatus) writes result) :
    (toStatus = escrow.status ∧ result = .ok ((), writes)) ∨ (toStatus ≠ escrow.status ∧
      ((canTransitionEscrow escrow.status toStatus = false ∧ ∃ error,
          assertEscrowTransition escrow.status toStatus = .error error ∧ result = .error error) ∨
        (canTransitionEscrow escrow.status toStatus = true ∧
          result = if activeScopeClashes { escrow with status := toStatus } (Storage.view writes db) then
              .error .uniqueConstraint
            else .ok ((), writes ++ [.escrow { escrow with status := toStatus }])))) := by
  unfold moveReconciled at alone
  by_cases same : toStatus = escrow.status
  · rw [if_neg (not_not.mpr same)] at alone
    exact .inl ⟨same, alone⟩
  · refine .inr ⟨same, ?_⟩
    rw [if_pos same] at alone
    cases checked : assertEscrowTransition escrow.status toStatus with
    | error error =>
      have refused : canTransitionEscrow escrow.status toStatus = false := by
        by_contra allowed
        rw [Bool.not_eq_false] at allowed
        have passed : assertEscrowTransition escrow.status toStatus = .ok () :=
          assertEscrowTransition_ok_iff.mpr allowed
        rw [passed] at checked
        cases checked
      rw [checked] at alone
      exact .inl ⟨refused, error, rfl, alone⟩
    | ok _ =>
      refine .inr ⟨assertEscrowTransition_ok_iff.mp checked, ?_⟩
      rw [checked] at alone
      have onwards := alone_passed.mp alone
      have moved : ∀ ended, Alone db (transitionEscrowStatus appId escrow.id escrow.status
          fun row => { row with status := toStatus }) writes ended →
          ended = if activeScopeClashes { escrow with status := toStatus } (Storage.view writes db) then
              .error .uniqueConstraint
            else .ok (1, writes ++ [.escrow { escrow with status := toStatus }]) := by
        intro ended swap
        obtain ⟨_, same⟩ := alone_update found (by simp) swap
        exact same
      rcases alone_bind.mp onwards with ⟨count, after, swap, rest⟩ | ⟨error, swap, ended⟩
      · have swapped := moved _ swap
        split at swapped
        next => cases swapped
        next free =>
          cases swapped
          rw [if_neg free]
          exact rest
      · have swapped := moved _ swap
        split at swapped
        next clash =>
          cases swapped
          rw [if_pos clash]
          exact ended
        next => cases swapped

section Reconciliation
variable {snapshot : Snapshot} {observation : Observation} {transaction : Transaction} {escrow : Escrow}
variable {result : Except Failure (ReconcileResult × List Write)}

/-- The write that moves the escrow; none when the observation leaves its status. -/
def movedTo (escrow : Escrow) (toStatus : EscrowStatus) : List Write :=
  if toStatus = escrow.status then [] else [.escrow { escrow with status := toStatus }]

theorem movedTo_view {toStatus : EscrowStatus} (stored : db.escrowForApp appId escrow.id = some escrow) :
    (Storage.view (movedTo escrow toStatus) db).escrowForApp appId escrow.id =
      some { escrow with status := toStatus } := by
  unfold movedTo
  split
  next same =>
    subst same
    exact stored
  next =>
    obtain ⟨_, owned⟩ := Option.filter_eq_some_iff.mp stored
    have moved : (Storage.view ([] ++ [.escrow { escrow with status := toStatus }]) db).escrowForApp appId escrow.id =
        some { escrow with status := toStatus } := escrowForApp_put (by simpa using owned)
    exact moved

/-- How an uninterrupted reconciliation ends: on a move that is no edge, on a second
active escrow of the scope, or with the observation on the transaction. -/
inductive Reconciles (db : Db) (transaction : Transaction) (escrow : Escrow) (observation : Observation)
    (reorg : Bool) (toStatus : EscrowStatus) : Except Failure (ReconcileResult × List Write) → Prop
  | refused {error : Failure} (moves : toStatus ≠ escrow.status)
      (invalid : canTransitionEscrow escrow.status toStatus = false)
      (thrown : assertEscrowTransition escrow.status toStatus = .error error) :
      Reconciles db transaction escrow observation reorg toStatus (.error error)
  | clashed (moves : toStatus ≠ escrow.status) (valid : canTransitionEscrow escrow.status toStatus = true)
      (clashes : activeScopeClashes { escrow with status := toStatus } db = true) :
      Reconciles db transaction escrow observation reorg toStatus (.error .uniqueConstraint)
  | recorded {value : ReconcileResult} {now : Nat} {parents : List Write}
      (valid : toStatus = escrow.status ∨ canTransitionEscrow escrow.status toStatus = true ∧
        activeScopeClashes { escrow with status := toStatus } db = false)
      (aside : ∀ write ∈ parents, Aside write) :
      Reconciles db transaction escrow observation reorg toStatus (.ok (value, movedTo escrow toStatus ++
        .transaction (transactionReconciledBy transaction observation reorg now transaction) :: parents))

/-- The part behind the move of the escrow: the update of the transaction and of the parents. -/
theorem recordReconciled_alone {reorg : Bool} {toStatus : EscrowStatus} {value : ReconcileResult}
    (transactionIs : db.transactionForApp appId transaction.id = some transaction)
    (escrowIs : db.escrowForApp appId escrow.id = some escrow)
    (alone : Alone db (do
      let _ ← updateTransaction appId transaction.id (transactionReconciledBy transaction observation reorg)
      match (← findEscrowForApp appId escrow.id) with
      | none => throw (.other s!"Escrow {settings.uuid escrow.id} disappeared during reconciliation.")
      | some updatedEscrow =>
          followReconciled appId updatedEscrow escrow.status toStatus (reorg && transaction.status ≠ .reorged)
          return value : Tx ReconcileResult) (movedTo escrow toStatus) result) :
    ∃ now parents, (∀ write ∈ parents, Aside write) ∧
      result = .ok (value, movedTo escrow toStatus ++
        .transaction (transactionReconciledBy transaction observation reorg now transaction) :: parents) := by
  have found : (Storage.view (movedTo escrow toStatus) db).transactionForApp appId transaction.id =
      some transaction := by
    rw [← transactionIs]
    unfold movedTo
    split <;> rfl
  have update : ∀ ended, Alone db (updateTransaction appId transaction.id
      (transactionReconciledBy transaction observation reorg)) (movedTo escrow toStatus) ended → ∃ now,
      ended = .ok (1, movedTo escrow toStatus ++
        [.transaction (transactionReconciledBy transaction observation reorg now transaction)]) := by
    intro ended updating
    obtain ⟨now, same⟩ := alone_update found rfl updating
    exact ⟨now, same⟩
  have completes : Completes db (updateTransaction appId transaction.id
      (transactionReconciledBy transaction observation reorg)) (movedTo escrow toStatus) := by
    intro error updating
    obtain ⟨now, impossible⟩ := update _ updating
    cases impossible
  obtain ⟨count, after, updating, rest⟩ := completes.bind alone
  obtain ⟨now, updated⟩ := update _ updating
  cases updated
  have reread := alone_read_bind.mp rest
  have there : (Storage.view (movedTo escrow toStatus ++
      [.transaction (transactionReconciledBy transaction observation reorg now transaction)]) db).escrowForApp appId
      escrow.id = some { escrow with status := toStatus } := by
    rw [Storage.view_append, ← movedTo_view escrowIs]
    rfl
  rw [there] at reread
  obtain ⟨_, last, following, ended⟩ := (completes_followReconciled _ _ _ _).bind reread
  obtain ⟨asked, outcome⟩ := following.outcome []
  obtain ⟨parents, written, aside⟩ := beside_followReconciled outcome
  refine ⟨now, parents, aside, ?_⟩
  rw [alone_pure.mp ended]
  dsimp only at written
  rw [written, List.append_assoc]
  rfl

theorem reconcileTransaction_alone {reorg : Bool} {toStatus : EscrowStatus}
    (transactionIs : db.transactionForApp snapshot.transaction.appId snapshot.transaction.id = some transaction)
    (escrowIs : db.escrowForApp snapshot.transaction.appId snapshot.escrow.id = some escrow)
    (sameHash : transaction.txHash.map toLowerCase = some (toLowerCase snapshot.txHash))
    (reorgIs : reorg = reorganised transaction.status escrow.status observation.status)
    (statusIs : toStatus = reconciliationEscrowStatus transaction.type escrow.status observation.status reorg)
    (alone : Alone db (reconcileTransaction settings snapshot observation) [] result) :
    Reconciles db transaction escrow observation reorg toStatus result := by
  have transactionKey : transaction.id = snapshot.transaction.id :=
    Table.key_of_get (Option.filter_eq_some_iff.mp transactionIs).1
  have escrowKey : escrow.id = snapshot.escrow.id :=
    Table.key_of_get (Option.filter_eq_some_iff.mp escrowIs).1
  have first := alone_read_bind.mp alone
  have rest := alone_read_bind.mp first
  rw [Storage.view_nil, transactionIs, escrowIs] at rest
  dsimp only at rest
  rw [if_neg (not_not.mpr sameHash), ← reorgIs, ← statusIs] at rest
  rw [← escrowKey] at escrowIs
  rw [← transactionKey] at transactionIs
  have initially : (Storage.view ([] : List Write) db).escrowForApp snapshot.transaction.appId escrow.id =
      some escrow := escrowIs
  rcases alone_bind.mp rest with ⟨_, after, moving, rest⟩ | ⟨error, moving, rfl⟩
  · have ends : ∀ writes, Except.ok ((), after) = (.ok ((), writes) : Except Failure (Unit × List Write)) →
        writes = movedTo escrow toStatus → (toStatus = escrow.status ∨ canTransitionEscrow escrow.status toStatus = true ∧
        activeScopeClashes { escrow with status := toStatus } db = false) →
        Reconciles db transaction escrow observation reorg toStatus result := by
      rintro writes same rfl valid
      cases same
      obtain ⟨now, parents, aside, ended⟩ := recordReconciled_alone transactionIs escrowIs rest
      rw [ended]
      exact .recorded valid aside
    rcases moveReconciled_alone initially moving with ⟨same, ended⟩ | ⟨different, ⟨_, _, _, ended⟩ | ⟨valid, ended⟩⟩
    · exact ends _ ended (if_pos same).symm (.inl same)
    · cases ended
    · split at ended
      next => cases ended
      next free => exact ends _ ended (if_neg different).symm (.inr ⟨valid, by simpa using free⟩)
  · rcases moveReconciled_alone initially moving with ⟨_, ended⟩ |
      ⟨different, ⟨invalid, thrown, failed, ended⟩ | ⟨valid, ended⟩⟩
    · cases ended
    · cases ended
      exact .refused different invalid failed
    · split at ended
      next clash =>
        cases ended
        exact .clashed different valid clash
      next => cases ended

/-- Both rows after a reconciliation that records the observation. -/
theorem recorded_view {toStatus : EscrowStatus} {new : Transaction} {parents : List Write}
    (stored : db.escrows.get escrow.id = some escrow) (aside : ∀ write ∈ parents, Aside write) :
    let written := movedTo escrow toStatus ++ .transaction new :: parents
    (Storage.view written db).transactions.get new.id = some new ∧
      (Storage.view written db).escrows.get escrow.id = some { escrow with status := toStatus } ∧
      Write.to .escrows written = movedTo escrow toStatus ∧ Write.to .transactions written = [.transaction new] := by
  intro written
  have escrowsAside : Write.to .escrows parents = [] :=
    Write.to_eq_nil fun write member => (aside write member).relation_ne.1
  have transactionsAside : Write.to .transactions parents = [] :=
    Write.to_eq_nil fun write member => (aside write member).relation_ne.2.1
  have transactions : Write.to .transactions written = [.transaction new] := by
    simp only [written, Write.to_append, Write.to_cons, transactionsAside]
    unfold movedTo
    split <;> rfl
  have escrows : Write.to .escrows written = movedTo escrow toStatus := by
    simp only [written, Write.to_append, Write.to_cons, escrowsAside]
    unfold movedTo
    split <;> rfl
  have transactionRows : Write.to .transactions written = [new].map Write.transaction := transactions
  refine ⟨stored_transactions.get_last transactionRows rfl db, ?_, escrows, transactions⟩
  unfold movedTo at escrows
  split at escrows
  next same =>
    rw [stored_escrows.untouched escrows, same]
    exact stored
  next =>
    have escrowRows : Write.to .escrows written = [{ escrow with status := toStatus }].map Write.escrow := escrows
    exact stored_escrows.get_last escrowRows rfl db

end Reconciliation

end PactAgent.Escrow
