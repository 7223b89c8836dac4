import PactAgent.Escrow.Effects
import PactAgent.Lifecycle.Commits

/-! What the escrow transactions have read and written when they commit. -/

namespace PactAgent.Escrow
open PactAgent.Common PactAgent.Foundation PactAgent.Lifecycle PactAgent.Store
open PactAgent.Idempotency.Repository PactAgent.Rail.Builder PactAgent.Rail.Node PactAgent.Rail.Script

variable {settings : Settings} {rely : List Query → Db → Db → Prop} {good : Db → Prop}
variable {kept : Db → Db → Prop} {before after final : Point Db Write Query} {appId : String}

section Creations

/-- A creation inserts an escrow and its lock transaction, under the number of its request. -/
theorem reserveEscrowCreation_commits {req : RequestContext} {input : CreateEscrowInput}
    {reserved : ReservedEscrowCreation} {start : Db}
    (outcome : Outcome rely good (reserveEscrowCreation settings req input) ⟨[], [], start⟩ reserved after) :
    reserved.created = newEscrow req input ∧ reserved.transactionId = ⟨req.request, 1⟩ ∧
      Wrote after [.escrow (newEscrow req input)]
        [.transaction (newTransaction ⟨req.request, 1⟩ (newEscrow req input) .lock)] ∧
      ∀ final, Follows after final → final.db.escrows.get ⟨req.request, 0⟩ = none ∧
        final.db.transactions.get ⟨req.request, 1⟩ = none := by
  obtain ⟨_, _, keyed, rest⟩ := outcome_bind.mp outcome
  have wrote := (Wrote.start start).beside keyed (@accompanies_reserveRequest settings 0 .any req fun _ _ _ _ => trivial)
  obtain ⟨_, _, agreed, rest⟩ := outcome_bind.mp rest
  have wrote := wrote.beside agreed (@accompanies_assertEscrowAgreementScope 0 .any _ _)
  obtain ⟨terminal, _, ended, rest⟩ := outcome_bind.mp rest
  have reads : (findTerminalEscrow req.appId input).Emits (Accompanied .any 0) := by
    unfold findTerminalEscrow
    split <;> exact emits_read _
  have wrote := wrote.beside ended reads
  cases terminal with
  | some row => exact rest.elim
  | none =>
  obtain ⟨active, _, found, rest⟩ := outcome_bind.mp rest
  obtain ⟨_, later, _, rfl⟩ := outcome_read.mp found
  have wrote := (wrote.congr later.writes).record_read .findActiveEscrowForScope
  cases active with
  | some row => exact rest.elim
  | none =>
  obtain ⟨created, _, insertion, rest⟩ := outcome_bind.mp rest
  obtain ⟨transaction, _, recorded, rest⟩ := outcome_bind.mp rest
  obtain ⟨here, laterInsert, createdIs, free, insertedIs⟩ := outcome_insert (outcome_mapError.mp insertion)
  obtain ⟨there, laterRecord, transactionIs, unclashed, recordedIs⟩ := outcome_insert recorded
  have wroteHere := wrote.congr laterInsert.writes
  have wroteInsert := wroteHere.record_escrow .createEscrow (newEscrow req input)
  rw [← insertedIs] at wroteInsert
  have wroteThere := wroteInsert.congr laterRecord.writes
  have wroteRecord := wroteThere.record_transaction .createTransaction
    (newTransaction ⟨req.request, 1⟩ (newEscrow req input) .lock)
  obtain ⟨reservedIs, ended⟩ := rest
  rw [createdIs] at recordedIs unclashed
  rw [← recordedIs] at wroteRecord
  subst ended
  refine ⟨by rw [reservedIs]; exact createdIs, by rw [reservedIs, transactionIs]; rfl, wroteRecord, ?_⟩
  intro final follows
  simp only [Bool.or_eq_false_iff] at free
  have absent : here.db.escrows.get ⟨req.request, 0⟩ = none := by
    rw [wroteHere.view_escrows] at free
    simpa [newEscrow] using free.1
  simp only [transactionClashes, Bool.or_eq_false_iff] at unclashed
  have missing : there.db.transactions.get ⟨req.request, 1⟩ = none := by
    rw [wroteThere.view_transactions] at unclashed
    simpa [newTransaction] using unclashed.1
  have keptEscrow := @keeps_escrow _ _ (newEscrow req input) (recorded.follows.trans follows)
    (by rw [insertedIs]; simp [Point.record])
  have keptTransaction := @keeps_transaction _ _ (newTransaction ⟨req.request, 1⟩ (newEscrow req input) .lock)
    follows (by rw [recordedIs]; simp [Point.record])
  rw [insertedIs] at keptEscrow
  rw [recordedIs] at keptTransaction
  exact ⟨keptEscrow ▸ absent, keptTransaction ▸ missing⟩

/-- A row that was deleted, or was not there to be deleted. -/
inductive Deleted (good : Db → Prop) (kept : Db → Db → Prop) (start : Db) {Row : Type} (find : Db → Option Row)
    (condition : Row → Bool) (write : Row → Write) (db : Db) : List Write → Prop
  | row {old : Row} (met : condition old = true) (stored : find db = some old) :
      Deleted good kept start find condition write db [write old]
  | missed (missing : Seen (Since good kept start) kept db fun here => ∀ row, find here = some row →
        condition row = false) : Deleted good kept start find condition write db []

/-- A delete whose row is locked until the transaction ends. -/
theorem deleted_of_outcome (keeps : Keeps rely kept) {start : Db} {Row : Type} {query : Query}
    {find : Db → Option Row} {condition : Row → Bool} {write : Row → Write}
    (unwritten : ∀ here : Point Db Write Query, here.writes = before.writes → find here.view = find here.db)
    (locked : ∀ row (here final : Point Db Write Query), Follows (here.record query [write row]) final →
      find here.db = some row → find final.db = some row)
    (since : kept start before.db)
    (outcome : Outcome rely good (deleteStatement query find condition write) before () after)
    (follows : Follows after final) (onwards : kept after.db final.db) :
    ∃ added, after.writes = before.writes ++ added ∧
      Deleted good kept start find condition write final.db added := by
  obtain ⟨here, now, writes, later, executed, ended⟩ := outcome_statement.mp outcome
  have toFinal : kept here.db final.db := by
    rw [ended] at onwards
    exact onwards
  have missed : (∀ row, find here.db = some row → condition row = false) →
      Deleted good kept start find condition write final.db [] :=
    fun missing => .missed ⟨here.db, ⟨later.good, keeps.trans _ _ _ since (later.keeps keeps)⟩, toFinal, missing⟩
  refine ⟨writes, by rw [ended, Point.record, later.writes], ?_⟩
  rw [unwritten here later.writes] at executed
  split at executed
  next row found =>
    split at executed
    next met =>
      cases executed
      exact .row met (locked row here final (ended ▸ follows) found)
    next unmet =>
      cases executed
      apply missed
      intro other same
      rw [found] at same
      cases same
      simpa using unmet
  next absent =>
    cases executed
    apply missed
    intro other same
    rw [absent] at same
    cases same

end Creations

section Reservations

/-- What a release has seen: an approval, or a dispute that was resolved so. -/
def ReleaseSeen (good : Db → Prop) (kept : Db → Db → Prop) (escrow : Escrow) (db : Db) : Prop :=
  (∃ agreement : Agreement, agreement.status = .approved ∧
      Seen good kept db (fun db => db.agreements.get escrow.agreementId = some agreement) ∧
      ∀ milestoneId, escrow.milestoneId = some milestoneId → Seen good kept db fun db =>
        ∃ milestone : Milestone, db.milestones.get milestoneId = some milestone ∧ milestone.status = .approved) ∨
    Seen good kept db fun db => ∃ dispute ∈ db.disputes, dispute.agreementId = escrow.agreementId ∧
      (∀ milestoneId, escrow.milestoneId = some milestoneId → dispute.milestoneId = milestoneId) ∧
        dispute.status = .resolvedRelease

/-- The writes of a transaction that so far wrote its idempotency key alone. -/
def KeyOnly (writes : List Write) : Prop := ∃ appKey row, writes = [.idempotencyKey appKey row]

theorem KeyOnly.to_nil {writes : List Write} (key : KeyOnly writes) {relation : Relation}
    (other : relation ≠ .idempotencyKeys) : Write.to relation writes = [] := by
  obtain ⟨appKey, row, rfl⟩ := key
  simp [Write.to, Write.relation, other.symm]

theorem reserveRequest_writes {req : RequestContext}
    (outcome : Outcome rely good (reserveRequest settings req) before () after) :
    ∃ appKey row, after.writes = before.writes ++ [.idempotencyKey appKey row] := by
  obtain ⟨here, now, writes, later, executed, rfl⟩ := outcome_statement.mp outcome
  split at executed
  next row _ =>
    cases executed
    exact ⟨_, _, by rw [Point.record, later.writes]⟩
  next => cases executed

theorem storeIdempotentResponse_writes {req : RequestContext} {statusCode : Nat} {data : Reply}
    (outcome : Outcome rely good (storeIdempotentResponse settings req statusCode data) before () after) :
    ∃ appKey row, after.writes = before.writes ++ [.idempotencyKey appKey row] := by
  unfold storeIdempotentResponse at outcome
  dsimp only at outcome
  split at outcome
  next => exact outcome.elim
  next =>
    obtain ⟨here, now, writes, later, executed, rfl⟩ := outcome_statement.mp outcome
    split at executed
    next row _ =>
      cases executed
      exact ⟨_, _, by rw [Point.record, later.writes]⟩
    next => cases executed

theorem ReleaseSeen.later (keeps : Keeps rely kept) {escrow : Escrow} {db later : Db}
    (seen : ReleaseSeen good kept escrow db) (onwards : kept db later) : ReleaseSeen good kept escrow later := by
  cases seen with
  | inl approved =>
    obtain ⟨agreement, status, found, milestone⟩ := approved
    exact .inl ⟨agreement, status, found.later keeps onwards, fun milestoneId scope =>
      (milestone milestoneId scope).later keeps onwards⟩
  | inr resolved => exact .inr (resolved.later keeps onwards)

/-- The guard of a release, with the agreement and the milestone that were read for it. -/
theorem assertReleaseAllowed_seen (keeps : Keeps rely kept) {escrow : Escrow} {agreement : Option Agreement}
    {milestone : Option Milestone}
    (found : ∀ row, agreement = some row → Seen good kept before.db fun db =>
      db.agreements.get escrow.agreementId = some row)
    (milestoneFound : ∀ row, milestone = some row → ∀ milestoneId, escrow.milestoneId = some milestoneId →
      Seen good kept before.db fun db => db.milestones.get milestoneId = some row)
    (untouched : Write.to .disputes before.writes = [])
    (outcome : Outcome rely good (assertReleaseAllowed appId escrow agreement milestone) before () after) :
    after.writes = before.writes ∧ ReleaseSeen good kept escrow after.db := by
  unfold assertReleaseAllowed at outcome
  split at outcome
  next => exact outcome.elim
  next =>
    split at outcome
    next => exact outcome.elim
    next row =>
      split at outcome
      next approved =>
        obtain ⟨_, rfl⟩ := outcome
        refine ⟨rfl, .inl ⟨row, approved.1, found row rfl, ?_⟩⟩
        intro milestoneId scope
        cases approved.2 with
        | inl whole => rw [whole] at scope; cases scope
        | inr status =>
          obtain ⟨stored, same, status⟩ := Option.map_eq_some_iff.mp status
          obtain ⟨earlier, holds, reached, present⟩ := milestoneFound stored same milestoneId scope
          exact ⟨earlier, holds, reached, stored, present, status⟩
      next =>
        split at outcome
        next =>
          obtain ⟨resolved, middle, read, rest⟩ := outcome_bind.mp outcome
          split at rest
          next present =>
            obtain ⟨_, rfl⟩ := rest
            obtain ⟨here, later, same, rfl⟩ := outcome_read.mp read
            obtain ⟨dispute, rfl⟩ := Option.isSome_iff_exists.mp present
            obtain ⟨member, passed⟩ := Table.last_some same.symm
            rw [Point.view, stored_disputes.untouched (later.writes ▸ untouched)] at member
            refine ⟨by rw [Point.record, List.append_nil, later.writes], .inr ?_⟩
            apply Seen.now keeps later.good
            simp only [Bool.and_eq_true, decide_eq_true_eq] at passed
            refine ⟨dispute, member, passed.1.1.1.2, ?_, passed.1.2⟩
            intro milestoneId scope
            simpa [scope] using passed.1.1.2
          next => exact rest.elim
        next =>
          split at outcome
          next => exact outcome.elim
          next => split at outcome <;> exact outcome.elim

/-- What a settlement has seen when its guard has passed. -/
def SettlementSeen (good : Db → Prop) (kept : Db → Db → Prop) (operation : SettlementOperation) (escrow : Escrow)
    (db : Db) : Prop :=
  match operation with
  | .release => ReleaseSeen good kept escrow db
  | .refund => True

theorem assertSettlementAllowed_seen (keeps : Keeps rely kept) {operation : SettlementOperation} {escrow : Escrow}
    {agreement : Option Agreement}
    (found : ∀ row, agreement = some row → Seen good kept before.db fun db =>
      db.agreements.get escrow.agreementId = some row)
    (key : KeyOnly before.writes)
    (outcome : Outcome rely good (assertSettlementAllowed appId operation escrow agreement) before () after) :
    after.writes = before.writes ∧ SettlementSeen good kept operation escrow after.db := by
  cases operation with
  | refund =>
    obtain ⟨_, rfl⟩ := outcome_ofExcept.mp outcome
    exact ⟨rfl, trivial⟩
  | release =>
    simp only [assertSettlementAllowed] at outcome
    split at outcome
    next milestoneId scope =>
      obtain ⟨milestone, middle, read, rest⟩ := outcome_bind.mp outcome
      obtain ⟨here, later, same, ended⟩ := outcome_read.mp read
      have writes : middle.writes = before.writes := by
        rw [ended, Point.record, List.append_nil, later.writes]
      have db : middle.db = here.db := by rw [ended, Point.record]
      have none : ∀ relation, relation ≠ .idempotencyKeys → Write.to relation here.writes = [] := by
        intro relation other
        rw [later.writes]
        exact key.to_nil other
      obtain ⟨unwritten, seen⟩ := assertReleaseAllowed_seen keeps
        (fun row present => db ▸ (found row present).later keeps (later.keeps keeps))
        (by
          intro row present other same'
          cases scope.symm.trans same'
          rw [present, eq_comm, milestoneForApp_some, Point.view,
            stored_milestones.untouched (none .milestones (by simp))] at same
          exact db ▸ Seen.now keeps later.good same.1)
        (by rw [writes]; exact key.to_nil (by simp)) rest
      exact ⟨unwritten.trans writes, seen⟩
    next scope =>
      exact assertReleaseAllowed_seen keeps found (fun row present => by cases present)
        (key.to_nil (by simp)) outcome

/-- A reservation moved the escrow out of `funded`, wrote the row of its transaction
beside it, and had seen what its guard asks for. -/
theorem reserveEscrowSettlement_commits (keeps : Keeps rely kept) {req : RequestContext} {escrowId : RowId}
    {operation : SettlementOperation} {reserved : ReservedEscrowSettlement} {start : Db}
    (outcome : Outcome rely good (reserveEscrowSettlement settings req escrowId operation) ⟨[], [], start⟩ reserved
      after) :
    ∃ (seen old : Escrow) (appKey : AppKey) (row : Option (IdempotencyRow Reply)),
      after.writes = [.idempotencyKey appKey row,
        .escrow { old with status := settlementPendingStatus operation },
        .transaction (newTransaction ⟨req.request, 0⟩ { old with status := settlementPendingStatus operation }
          (settlementType operation))] ∧
      old.status = .funded ∧ old.appId = req.appId ∧
      (∀ final, Follows after final → final.db.escrows.get escrowId = some old) ∧
      (∀ final, Follows after final → ∀ other ∈ final.db.transactions, other.appId = req.appId →
        other.operationId ≠ some ⟨escrowId, settlementType operation⟩) ∧
      seen.status = .funded ∧ Seen good kept after.db (fun db => db.escrows.get escrowId = some seen) ∧
      SettlementSeen good kept operation seen after.db ∧
      (∀ final, Follows after final → final.db.transactions.get ⟨req.request, 0⟩ = none) ∧
      reserved = ⟨seen, { old with status := settlementPendingStatus operation }, ⟨req.request, 0⟩⟩ := by
  obtain ⟨_, first, keyed, rest⟩ := outcome_bind.mp outcome
  obtain ⟨appKey, keyRow, keyWrites⟩ := reserveRequest_writes keyed
  have key : KeyOnly first.writes := ⟨appKey, keyRow, keyWrites⟩
  obtain ⟨found, second, read, rest⟩ := outcome_bind.mp rest
  obtain ⟨seen, present, rest⟩ := outcome_required rest
  rw [present] at read
  obtain ⟨secondWrites, secondGood, stored, _⟩ := stored_escrows.read (key.to_nil (by simp)) read
  have onwards := rest
  obtain ⟨agreement, third, readAgreement, rest⟩ := outcome_bind.mp rest
  obtain ⟨_, fourth, guarded, rest⟩ := outcome_bind.mp rest
  have funded := guarded.returns (assertSettlementAllowed_funded _ _ _ _)
  have thirdWrites : third.writes = first.writes := by
    obtain ⟨here, later, _, same⟩ := outcome_read.mp readAgreement
    rw [same, Point.record, List.append_nil, later.writes, secondWrites]
  obtain ⟨fourthWrites, guard⟩ := assertSettlementAllowed_seen keeps (by
    intro row same
    rw [same] at readAgreement
    obtain ⟨_, holds, storedAgreement, _⟩ := stored_agreements.read
      (by rw [secondWrites]; exact key.to_nil (by simp)) readAgreement
    exact Seen.now keeps holds storedAgreement) (thirdWrites ▸ key) guarded
  have behind := rest
  obtain ⟨_, _, rest⟩ := outcome_check rest
  obtain ⟨count, fifth, swap, rest⟩ := outcome_bind.mp rest
  split at rest
  next => exact rest.elim
  next once =>
    rw [not_not.mp once] at swap
    obtain ⟨old, now, met, owned, oldKey, fifthWrites, committed⟩ := stored_escrows.swapped (by intros; rfl) swap
    have untouched : Write.to .escrows fourth.writes = [] := by
      rw [fourthWrites, thirdWrites]
      exact key.to_nil (by simp)
    obtain ⟨found, sixth, reread, rest⟩ := outcome_bind.mp rest
    obtain ⟨pending, present, rest⟩ := outcome_required rest
    have written : Write.to .escrows fifth.writes =
        [{ old with status := settlementPendingStatus operation }].map Write.escrow := by
      rw [fifthWrites, Write.to_append, untouched]
      rfl
    obtain ⟨same, sixthWrites⟩ := stored_escrows.reread written rfl oldKey owned reread
    rw [present] at same
    have pendingIs := Option.some.inj same
    obtain ⟨transaction, seventh, insertion, rest⟩ := outcome_bind.mp rest
    have sixthTransactions : Write.to .transactions sixth.writes = [] := by
      rw [sixthWrites, fifthWrites, fourthWrites, thirdWrites, keyWrites]
      rfl
    rw [pendingIs] at insertion
    have operationIs : (newTransaction ⟨req.request, 0⟩ { old with status := settlementPendingStatus operation }
        (settlementType operation)).operationId = some ⟨escrowId, settlementType operation⟩ :=
      congrArg (fun id => some (OperationId.mk id _)) oldKey
    obtain ⟨created, inserted, unique⟩ := transaction_inserted operationIs sixthTransactions insertion
    obtain ⟨reservedIs, ended⟩ := rest
    have owner : old.appId = req.appId := by simpa using owned
    refine ⟨seen, old, appKey, keyRow, ?_, ?_, owner, ?_, ?_, funded, ?_, ?_, ?_, ?_⟩
    · rw [ended, inserted, sixthWrites, fifthWrites, fourthWrites, thirdWrites, keyWrites]
      rfl
    · rw [← funded]
      simpa using met
    · intro final follows
      have toEnd : Follows fifth after := by
        rw [ended]
        exact reread.follows.trans insertion.follows
      exact committed untouched final (toEnd.trans follows)
    · intro final follows other member app
      rw [ended] at follows
      exact (unique final follows).2 other member (app.trans owner.symm)
    · exact (Seen.now keeps secondGood stored).later keeps (onwards.keeps keeps)
    · cases operation with
      | release => exact ReleaseSeen.later keeps guard (behind.keeps keeps)
      | refund => trivial
    · intro final follows
      rw [ended] at follows
      exact (unique final follows).1
    · rw [reservedIs, created, pendingIs]
      rfl

end Reservations

section Moves
variable {id : RowId}

/-- The escrow was moved from the status in which it was read, or is in the status already. -/
def Moved (before after : Point Db Write Query) (appId : String) (id : RowId) (fromStatus toStatus : EscrowStatus)
    (change : Escrow → Escrow) : Prop :=
  (toStatus = fromStatus ∧ after = before) ∨
    (toStatus ≠ fromStatus ∧ canTransitionEscrow fromStatus toStatus = true ∧ ∃ old : Escrow,
      old.status = fromStatus ∧ old.appId = appId ∧ old.id = id ∧
      after.writes = before.writes ++ [.escrow (change old)] ∧
      ∀ final, Follows after final → final.db.escrows.get id = some old)

theorem transitionEscrowStatus_once {fromStatus toStatus : EscrowStatus} {change : Escrow → Escrow}
    (sameId : ∀ row, (change row).id = row.id) (untouched : Write.to .escrows before.writes = [])
    (outcome : Outcome rely good (do
      let count ← transitionEscrowStatus appId id fromStatus change
      Program.ofExcept (assertLifecycleCompareAndSwap "escrow" count fromStatus toStatus)) before () after) :
    ∃ old : Escrow, old.status = fromStatus ∧ old.appId = appId ∧ old.id = id ∧
      after.writes = before.writes ++ [.escrow (change old)] ∧
      ∀ final, Follows after final → final.db.escrows.get id = some old := by
  obtain ⟨count, middle, swap, rest⟩ := outcome_bind.mp outcome
  obtain ⟨once, ended⟩ := outcome_ofExcept.mp rest
  rw [assertLifecycleCompareAndSwap_ok_iff.mp once] at swap
  obtain ⟨old, now, met, owned, key, writes, committed⟩ := stored_escrows.swapped (by intros; exact sameId _) swap
  exact ⟨old, by simpa using met, by simpa using owned, key, by rw [ended, writes], fun final follows =>
    committed untouched final (ended ▸ follows)⟩

theorem moveReconciled_moved {current : Escrow} {toStatus : EscrowStatus}
    (untouched : Write.to .escrows before.writes = [])
    (outcome : Outcome rely good (moveReconciled appId current toStatus) before () after) :
    Moved before after appId current.id current.status toStatus fun row => { row with status := toStatus } := by
  unfold moveReconciled at outcome
  split at outcome
  next different =>
    obtain ⟨_, allowed, rest⟩ := outcome_check outcome
    exact .inr ⟨different, assertEscrowTransition_ok_iff.mp allowed,
      transitionEscrowStatus_once (by intros; rfl) untouched rest⟩
  next same =>
    obtain ⟨_, rfl⟩ := outcome
    exact .inl ⟨not_not.mp same, rfl⟩

theorem moveFunding_moved {current : Escrow} {result : EscrowAdapterResult}
    (untouched : Write.to .escrows before.writes = [])
    (outcome : Outcome rely good (moveFunding appId current result) before () after) :
    Moved before after appId current.id current.status result.status fun row =>
      { row with status := result.status, lockTxHash := result.txHash.or current.lockTxHash } := by
  unfold moveFunding at outcome
  split at outcome
  next different =>
    obtain ⟨_, allowed, rest⟩ := outcome_check outcome
    exact .inr ⟨Ne.symm different, assertEscrowTransition_ok_iff.mp allowed,
      transitionEscrowStatus_once (by intros; rfl) untouched rest⟩
  next same =>
    obtain ⟨_, rfl⟩ := outcome
    exact .inl ⟨(not_not.mp same).symm, rfl⟩

theorem Moved.transactions {fromStatus toStatus : EscrowStatus} {change : Escrow → Escrow}
    (moved : Moved before after appId id fromStatus toStatus change)
    (untouched : Write.to .transactions before.writes = []) : Write.to .transactions after.writes = [] := by
  rcases moved with ⟨_, rfl⟩ | ⟨_, _, old, _, _, _, writes, _⟩
  · exact untouched
  · rw [writes, Write.to_append, untouched]
    rfl

/-- An update of a transaction wrote over the committed row, or found none. -/
def Updated (before after : Point Db Write Query) (appId : String) (id : RowId)
    (change : Nat → Transaction → Transaction) : Prop :=
  after.writes = before.writes ∨ ∃ old now, old.appId = appId ∧ old.id = id ∧
    after.writes = before.writes ++ [.transaction (change now old)] ∧
    ∀ final, Follows after final → final.db.transactions.get id = some old

theorem updateTransaction_updated {change : Nat → Transaction → Transaction} {count : Nat}
    (sameId : ∀ now row, (change now row).id = row.id) (untouched : Write.to .transactions before.writes = [])
    (outcome : Outcome rely good (updateTransaction appId id change) before count after) :
    Updated before after appId id change := by
  obtain ⟨here, later, moved | unmoved⟩ := outcome_update outcome
  · obtain ⟨_, _, _, _, rfl, _, _⟩ := moved
    obtain ⟨old, now, _, owned, key, writes, committed⟩ :=
      stored_transactions.swapped (by intros; exact sameId _ _) outcome
    exact .inr ⟨old, now, by simpa using owned, key, writes, committed untouched⟩
  · exact .inl (by rw [unmoved.2, Point.record, later.writes, List.append_nil])

theorem Moved.escrows {fromStatus toStatus : EscrowStatus} {change : Escrow → Escrow}
    (moved : Moved before after appId id fromStatus toStatus change)
    (untouched : Write.to .escrows before.writes = []) :
    (toStatus = fromStatus ∧ Write.to .escrows after.writes = []) ∨
      (toStatus ≠ fromStatus ∧ canTransitionEscrow fromStatus toStatus = true ∧ ∃ old : Escrow,
        old.status = fromStatus ∧ old.appId = appId ∧ Write.to .escrows after.writes = [.escrow (change old)] ∧
        ∀ final, Follows after final → final.db.escrows.get id = some old) := by
  rcases moved with ⟨same, rfl⟩ | ⟨different, allowed, old, status, owned, _, writes, committed⟩
  · exact .inl ⟨same, untouched⟩
  · refine .inr ⟨different, allowed, old, status, owned, ?_, committed⟩
    rw [writes, Write.to_append, untouched]
    rfl

theorem Updated.escrows {change : Nat → Transaction → Transaction} (updated : Updated before after appId id change) :
    Write.to .escrows after.writes = Write.to .escrows before.writes := by
  rcases updated with same | ⟨old, now, _, _, writes, _⟩
  · rw [same]
  · rw [writes, Write.to_append]
    exact List.append_nil _

theorem Updated.transactions {change : Nat → Transaction → Transaction}
    (updated : Updated before after appId id change) (untouched : Write.to .transactions before.writes = []) :
    Write.to .transactions after.writes = [] ∨ ∃ old now, old.appId = appId ∧ old.id = id ∧
      Write.to .transactions after.writes = [.transaction (change now old)] ∧
      ∀ final, Follows after final → final.db.transactions.get id = some old := by
  rcases updated with same | ⟨old, now, owned, key, writes, committed⟩
  · exact .inl (by rw [same, untouched])
  · refine .inr ⟨old, now, owned, key, ?_, committed⟩
    rw [writes, Write.to_append, untouched]
    rfl

/-- The update of a transaction that commits: over the row as it is stored, or over
none, where none was found on the way. -/
inductive Booked (good : Db → Prop) (kept : Db → Db → Prop) (start : Db) (appId : String) (id : RowId)
    (change : Nat → Transaction → Transaction) (db : Db) : List Write → Prop
  | row {old : Transaction} {now : Nat} (owner : old.appId = appId) (stored : db.transactions.get id = some old) :
      Booked good kept start appId id change db [.transaction (change now old)]
  | missed (missing : Seen (Since good kept start) kept db fun here => here.transactionForApp appId id = none) :
      Booked good kept start appId id change db []

/-- An update, with what is known wherever it may have read the table. -/
theorem updateTransaction_booked (keeps : Keeps rely kept) {start : Db} {change : Nat → Transaction → Transaction} {count : Nat} (sameId : ∀ now row, (change now row).id = row.id)
    (untouched : Write.to .transactions before.writes = []) (since : kept start before.db)
    (outcome : Outcome rely good (updateTransaction appId id change) before count after)
    (follows : Follows after final) (onwards : kept after.db final.db) :
    ∃ added, after.writes = before.writes ++ added ∧
      Booked good kept start appId id change final.db added := by
  obtain ⟨here, now, writes, later, executed, ended⟩ := outcome_statement.mp outcome
  have reached := later.keeps keeps
  have toFinal : kept here.db final.db := by
    rw [ended] at onwards
    exact onwards
  have viewIs : here.view.transactionForApp appId id = here.db.transactionForApp appId id := by
    unfold Db.transactionForApp
    rw [Point.view, stored_transactions.untouched (later.writes ▸ untouched)]
  dsimp only at executed
  rw [viewIs] at executed
  split at executed
  next row found =>
    cases executed
    obtain ⟨stored, owner⟩ := transactionForApp_some.mp found
    have key : row.id = id := Table.key_of_get stored
    refine ⟨_, by rw [ended, Point.record, later.writes], .row owner ?_⟩
    have kept := @keeps_transaction _ _ (change now row) follows (by rw [ended]; simp [Point.record])
    rw [sameId, key] at kept
    rw [← kept, ended]
    exact stored
  next missing =>
    cases executed
    refine ⟨[], by rw [ended, Point.record, later.writes], ?_⟩
    exact .missed ⟨here.db, ⟨later.good, keeps.trans _ _ _ since reached⟩, toFinal, missing⟩

theorem Booked.to_escrows {start db : Db} {change : Nat → Transaction → Transaction}
    {added : List Write} (booked : Booked good kept start appId id change db added) :
    Write.to .escrows added = [] := by
  cases booked <;> rfl

theorem Booked.to_transactions {start db : Db} {change : Nat → Transaction → Transaction}
    {added : List Write} (booked : Booked good kept start appId id change db added) :
    Write.to .transactions added = added := by
  cases booked <;> rfl

/-- Parts of a body that write neither escrows nor transactions. -/
def Beside (before after : Point Db Write Query) : Prop :=
  ∃ added, after.writes = before.writes ++ added ∧ ∀ write ∈ added, Aside write

theorem Beside.trans {first second third : Point Db Write Query} (earlier : Beside first second)
    (later : Beside second third) : Beside first third := by
  obtain ⟨added, writes, each⟩ := earlier
  obtain ⟨more, further, eachMore⟩ := later
  refine ⟨added ++ more, by rw [further, writes, List.append_assoc], ?_⟩
  intro write member
  cases List.mem_append.mp member with
  | inl old => exact each write old
  | inr new => exact eachMore write new

theorem beside_of_emits {request : Nat} {α : Type} {body : Tx α} {result : α}
    (emits : body.Emits (Accompanied .any request)) (outcome : Outcome rely good body before result after) :
    Beside before after := by
  obtain ⟨added, writes, each⟩ := outcome.writes emits
  refine ⟨added, writes, ?_⟩
  intro write member
  obtain ⟨_, accompanied⟩ := each write member
  exact accompanied.accompanies.2

theorem Beside.to_escrows (beside : Beside before after) :
    Write.to .escrows after.writes = Write.to .escrows before.writes := by
  obtain ⟨added, writes, each⟩ := beside
  rw [writes, Write.to_append, Write.to_eq_nil fun write member => (each write member).relation_ne.1,
    List.append_nil]

theorem Beside.to_transactions (beside : Beside before after) :
    Write.to .transactions after.writes = Write.to .transactions before.writes := by
  obtain ⟨added, writes, each⟩ := beside
  rw [writes, Write.to_append, Write.to_eq_nil fun write member => (each write member).relation_ne.2.1,
    List.append_nil]

theorem beside_of_eq (same : after.writes = before.writes) : Beside before after :=
  ⟨[], by rw [same, List.append_nil], fun _ member => by cases member⟩

theorem beside_followReconciled {updated : Escrow} {fromStatus toStatus : EscrowStatus} {reorgEvent : Bool}
    (outcome : Outcome rely good (followReconciled appId updated fromStatus toStatus reorgEvent) before () after) :
    Beside before after := by
  have emits : (followReconciled appId updated fromStatus toStatus reorgEvent).Emits (Accompanied .any 0) :=
    accompanies_followReconciled _ _ _ _ _
  exact beside_of_emits emits outcome

theorem beside_transitionSettledScope {escrow : Escrow} {operation : SettlementOperation}
    (outcome : Outcome rely good (transitionSettledScope appId escrow operation) before () after) :
    Beside before after := by
  have emits : (transitionSettledScope appId escrow operation).Emits (Accompanied .any 0) :=
    accompanies_transitionSettledScope _ _ _
  exact beside_of_emits emits outcome

theorem beside_transitionFundingScope {escrow : Escrow}
    (outcome : Outcome rely good (transitionFundingScope appId escrow) before () after) :
    Beside before after := by
  have emits : (transitionFundingScope appId escrow).Emits (Accompanied .any 0) :=
    accompanies_transitionFundingScope _ _
  exact beside_of_emits emits outcome

theorem beside_storeIdempotentResponse {req : RequestContext} {statusCode : Nat} {data : Reply}
    (outcome : Outcome rely good (storeIdempotentResponse settings req statusCode data) before () after) :
    Beside before after := by
  obtain ⟨appKey, row, written⟩ := storeIdempotentResponse_writes outcome
  refine ⟨[.idempotencyKey appKey row], written, ?_⟩
  intro write member
  rw [List.mem_singleton.mp member]
  trivial

/-- A discarded creation deletes its lock transaction and its escrow, where they are there. -/
theorem discardEscrowCreation_commits (keeps : Keeps rely kept) {req : RequestContext}
    {reserved : ReservedEscrowCreation} {start : Db}
    (outcome : Outcome rely good (discardEscrowCreation req reserved) ⟨[], [], start⟩ () after)
    (follows : Follows after final) (onwards : kept after.db final.db) :
    Deleted good kept start (·.escrowForApp req.appId reserved.created.id) (fun row => row.status = .notCreated)
        .deleteEscrow final.db (Write.to .escrows after.writes) ∧
      Deleted good kept start (·.transactionForApp req.appId reserved.transactionId) (fun _ => true)
        .deleteTransaction final.db (Write.to .transactions after.writes) := by
  obtain ⟨_, first, deleting, rest⟩ := outcome_bind.mp outcome
  have behind := rest
  obtain ⟨_, second, discarding, clearing⟩ := outcome_bind.mp rest
  have keys : (deletePendingRequest req).Emits (Accompanied .any 0) := 
    emits_deletePendingRequest fun db => accompanied_key db trivial
  have beside : Beside second after := beside_of_emits keys clearing
  obtain ⟨gone, firstWrites, transaction⟩ := deleted_of_outcome keeps
    (fun here none => by rw [Point.view, none]; rfl)
    (fun row here final follows found => by
      obtain ⟨stored, owner⟩ := transactionForApp_some.mp found
      have kept := follows.locked (.deleteTransaction row) (by simp [Point.record]) (.transaction row.id)
        List.mem_cons_self
      have key : row.id = reserved.transactionId := Table.key_of_get stored
      change here.db.transactions.get row.id = final.db.transactions.get row.id at kept
      rw [key] at kept
      exact transactionForApp_some.mpr ⟨kept ▸ stored, owner⟩)
    (keeps.refl start) deleting (behind.follows.trans follows) (keeps.trans _ _ _ (behind.keeps keeps) onwards)
  obtain ⟨discarded, secondWrites, escrow⟩ := deleted_of_outcome keeps
    (fun here same => by
      unfold Db.escrowForApp
      rw [Point.view, stored_escrows.untouched]
      rw [same, firstWrites]
      cases transaction <;> rfl)
    (fun row here final follows found => by
      obtain ⟨stored, owner⟩ := escrowForApp_some.mp found
      have kept := follows.locked (.deleteEscrow row) (by simp [Point.record]) (.escrow row.id) List.mem_cons_self
      have key : row.id = reserved.created.id := Table.key_of_get stored
      change here.db.escrows.get row.id = final.db.escrows.get row.id at kept
      rw [key] at kept
      exact escrowForApp_some.mpr ⟨kept ▸ stored, owner⟩)
    (deleting.keeps keeps) discarding (clearing.follows.trans follows)
    (keeps.trans _ _ _ (clearing.keeps keeps) onwards)
  have toEscrows : Write.to .escrows after.writes = discarded := by
    rw [beside.to_escrows, secondWrites, firstWrites]
    cases transaction <;> cases escrow <;> rfl
  have toTransactions : Write.to .transactions after.writes = gone := by
    rw [beside.to_transactions, secondWrites, firstWrites]
    cases transaction <;> cases escrow <;> rfl
  rw [toEscrows, toTransactions]
  exact ⟨escrow, transaction⟩

end Moves

section Finalizations

/-- A pending escrow as it was read. -/
theorem currentPending_read {req : RequestContext} {operation : SettlementOperation} {id : RowId}
    {purpose : String} {current : Escrow} (untouched : Write.to .escrows before.writes = [])
    (outcome : Outcome rely good (currentPending req operation id purpose) before current after) :
    after.writes = before.writes ∧ good after.db ∧ after.db.escrows.get id = some current ∧
      current.appId = req.appId ∧ current.status = settlementPendingStatus operation := by
  obtain ⟨found, middle, read, rest⟩ := outcome_bind.mp outcome
  obtain ⟨row, present, rest⟩ := outcome_required rest
  rw [present] at read
  obtain ⟨writes, holds, stored, owned⟩ := stored_escrows.read untouched read
  split at rest
  next => exact rest.elim
  next pending =>
    obtain ⟨rfl, rfl⟩ := rest
    exact ⟨writes, holds, stored, by simpa using owned, not_not.mp pending⟩

/-- A failed settlement moved its escrow into `failed`, and its row with it. -/
theorem finalizeFailedEscrowSettlement_commits (keeps : Keeps rely kept) {req : RequestContext}
    {operation : SettlementOperation} {reserved : ReservedEscrowSettlement} {reply : Reply} {start : Db}
    (outcome : Outcome rely good (finalizeFailedEscrowSettlement settings req operation reserved) ⟨[], [], start⟩
      reply after) :
    ∃ old : Escrow, old.status = settlementPendingStatus operation ∧ old.appId = req.appId ∧
      Write.to .escrows after.writes = [.escrow { old with status := .failed }] ∧
      ∀ final, Follows after final → kept after.db final.db →
        final.db.escrows.get reserved.pending.id = some old ∧
        Booked good kept start req.appId reserved.transactionId
          (fun _ row => { row with status := .failed }) final.db (Write.to .transactions after.writes) := by
  obtain ⟨current, read, reading, rest⟩ := outcome_bind.mp outcome
  obtain ⟨unwritten, _, stored, _, pending⟩ := currentPending_read rfl reading
  have key : current.id = reserved.pending.id := Table.key_of_get stored
  obtain ⟨_, _, rest⟩ := outcome_check rest
  obtain ⟨count, swapped, swap, rest⟩ := outcome_bind.mp rest
  obtain ⟨_, once, rest⟩ := outcome_check rest
  rw [assertLifecycleCompareAndSwap_ok_iff.mp once] at swap
  obtain ⟨old, now, met, owned, oldKey, written, committed⟩ := stored_escrows.swapped (by intros; rfl) swap
  have alone : swapped.writes = [.escrow { old with status := .failed }] := by
    rw [written, unwritten]
    rfl
  obtain ⟨found, first, reread, rest⟩ := outcome_bind.mp rest
  obtain ⟨failed, present, rest⟩ := outcome_required rest
  have rows : Write.to .escrows swapped.writes = [{ old with status := .failed }].map Write.escrow := by
    rw [alone]
    rfl
  obtain ⟨_, firstWrites⟩ := stored_escrows.reread rows rfl oldKey owned reread
  have since : kept start first.db :=
    keeps.trans _ _ _ (keeps.trans _ _ _ (reading.keeps keeps) (swap.keeps keeps)) (reread.keeps keeps)
  obtain ⟨_, second, updating, rest⟩ := outcome_bind.mp rest
  have onwards := rest
  obtain ⟨_, last, storing, ended⟩ := outcome_bind.mp rest
  obtain ⟨_, rfl⟩ := ended
  have beside : Beside second after := beside_storeIdempotentResponse storing
  have booked : ∀ final, Follows second final → kept second.db final.db → ∃ added,
      second.writes = first.writes ++ added ∧ Booked good kept start req.appId
        reserved.transactionId (fun _ row => { row with status := .failed }) final.db added :=
    fun final follows later => updateTransaction_booked keeps (by intros; rfl) (by rw [firstWrites, alone]; rfl)
      since updating follows later
  have toEscrows : Write.to .escrows second.writes = [.escrow { old with status := .failed }] := by
    obtain ⟨added, same, entry⟩ := booked second (.refl _) (keeps.refl _)
    rw [same, Write.to_append, entry.to_escrows, firstWrites, alone]
    rfl
  refine ⟨old, by simpa using met, by simpa using owned, by rw [beside.to_escrows, toEscrows], ?_⟩
  intro final follows later
  refine ⟨?_, ?_⟩
  · rw [← key]
    exact committed (by rw [unwritten]; rfl) final
      ((reread.follows.trans updating.follows).trans (onwards.follows.trans follows))
  · obtain ⟨added, same, entry⟩ := booked final (onwards.follows.trans follows)
      (keeps.trans _ _ _ (onwards.keeps keeps) later)
    rw [beside.to_transactions, same, Write.to_append, entry.to_transactions, firstWrites, alone]
    exact entry

theorem escrowSettledBy_id (operation : SettlementOperation) (status : EscrowStatus) (txHash : Option String)
    (row : Escrow) : (escrowSettledBy operation status txHash row).id = row.id := by
  cases operation <;> rfl

theorem escrowSettledBy_appId (operation : SettlementOperation) (status : EscrowStatus) (txHash : Option String)
    (row : Escrow) : (escrowSettledBy operation status txHash row).appId = row.appId := by
  cases operation <;> rfl

theorem settlementNextStatus_congr {operation : SettlementOperation} {first second : Escrow}
    (terms : first.terms = second.terms) (status : EscrowStatus) :
    settlementNextStatus operation first status = settlementNextStatus operation second status := by
  have rail : first.rail = second.rail := congrArg EscrowTerms.rail terms
  have network : first.network = second.network := congrArg EscrowTerms.network terms
  simp only [settlementNextStatus, rail, network]

theorem transactionSettledBy_congr {first second : Escrow} (terms : first.terms = second.terms)
    (nextStatus : EscrowStatus) (txHash : Option String) :
    transactionSettledBy first nextStatus txHash = transactionSettledBy second nextStatus txHash := by
  have rail : first.rail = second.rail := congrArg EscrowTerms.rail terms
  have network : first.network = second.network := congrArg EscrowTerms.network terms
  funext now row
  simp only [transactionSettledBy, rail, network]

theorem beside_enqueueCkbReconciliation {jobId : RowId} {escrow : Escrow} {transactionId : RowId}
    (outcome : Outcome rely good (enqueueCkbReconciliation jobId escrow transactionId) before () after) :
    Beside before after :=
  beside_of_emits (accompanies_enqueueCkbReconciliation rfl escrow transactionId) outcome

/-- What a settlement's finalization wrote: its escrow, its row, the job that watches it,
and the parents of an escrow that has reached its end. -/
theorem finalizeSuccessfulEscrowSettlement_commits (keeps : Keeps rely kept)
    (steady : ∀ earlier later, kept earlier later → Steady earlier later) {req : RequestContext}
    {operation : SettlementOperation} {reserved : ReservedEscrowSettlement} {result : EscrowAdapterResult}
    {reply : Reply} {start : Db}
    (outcome : Outcome rely good (finalizeSuccessfulEscrowSettlement settings req operation reserved result)
      ⟨[], [], start⟩ reply after) :
    ∃ (old : Escrow) (nextStatus : EscrowStatus) (first second third : Point Db Write Query),
      nextStatus = settlementNextStatus operation old result.status ∧
      old.status = settlementPendingStatus operation ∧ old.appId = req.appId ∧
      Write.to .escrows after.writes = [.escrow (escrowSettledBy operation nextStatus result.txHash old)] ∧
      (∀ final, Follows after final → kept after.db final.db →
        final.db.escrows.get reserved.pending.id = some old ∧
        Booked good kept start req.appId reserved.transactionId
          (transactionSettledBy old nextStatus result.txHash) final.db (Write.to .transactions after.writes)) ∧
      Outcome rely good (enqueueCkbReconciliation ⟨req.request, 1⟩
        (escrowSettledBy operation nextStatus result.txHash old) reserved.transactionId) first () second ∧
      Follows second after ∧ Beside second after ∧
      (if nextStatus = settlementTerminalStatus operation then
        Outcome rely good (transitionSettledScope req.appId
          (escrowSettledBy operation nextStatus result.txHash old) operation) second () third
        else third = second) ∧
      Follows third after ∧ ∃ appKey row, after.writes = third.writes ++ [.idempotencyKey appKey row] := by
  obtain ⟨current, read, reading, rest⟩ := outcome_bind.mp outcome
  obtain ⟨unwritten, _, stored, _, pending⟩ := currentPending_read rfl reading
  have key : current.id = reserved.pending.id := Table.key_of_get stored
  have onwards := rest
  obtain ⟨checked, checking, rest⟩ := outcome_when rest
  have sameChecked : checked = read := by
    split at checking
    next => exact (outcome_ofExcept.mp checking).2
    next => exact checking
  rw [sameChecked] at rest
  obtain ⟨count, swapped, swap, rest⟩ := outcome_bind.mp rest
  obtain ⟨_, once, rest⟩ := outcome_check rest
  rw [assertLifecycleCompareAndSwap_ok_iff.mp once] at swap
  obtain ⟨old, now, met, owned, oldKey, written, committed⟩ :=
    stored_escrows.swapped (by intros; exact escrowSettledBy_id _ _ _ _) swap
  have committedOld : ∀ final, Follows swapped final → final.db.escrows.get reserved.pending.id = some old := by
    intro final follows
    rw [← key]
    exact committed (by rw [unwritten]; rfl) final follows
  -- the escrow that was read is the one that was moved, in its terms
  have sameTerms : current.terms = old.terms := by
    obtain ⟨there, found, terms, _⟩ := (steady _ _ (swap.keeps keeps)).escrows reserved.pending.id current stored
      (by simp only [pending]; cases operation <;> simp [settlementPendingStatus])
    rw [committedOld swapped (.refl _)] at found
    exact (Option.some.inj found) ▸ terms.symm
  rw [settlementNextStatus_congr sameTerms] at written rest
  have alone : swapped.writes = [.escrow (escrowSettledBy operation
      (settlementNextStatus operation old result.status) result.txHash old)] := by
    rw [written, unwritten]
    rfl
  obtain ⟨found, first, reread, rest⟩ := outcome_bind.mp rest
  obtain ⟨updated, present, rest⟩ := outcome_required rest
  have rows : Write.to .escrows swapped.writes = [escrowSettledBy operation
      (settlementNextStatus operation old result.status) result.txHash old].map Write.escrow := by
    rw [alone]
    rfl
  have ownedNow : decide ((escrowSettledBy operation (settlementNextStatus operation old result.status)
      result.txHash old).appId = req.appId) = true := by
    rw [escrowSettledBy_appId]
    exact owned
  obtain ⟨same, firstWrites⟩ := stored_escrows.reread rows rfl ((escrowSettledBy_id ..).trans oldKey) ownedNow reread
  rw [present] at same
  obtain rfl := Option.some.inj same
  have since : kept start first.db :=
    keeps.trans _ _ _ (keeps.trans _ _ _ (reading.keeps keeps) (swap.keeps keeps)) (reread.keeps keeps)
  obtain ⟨_, second, updating, rest⟩ := outcome_bind.mp rest
  rw [transactionSettledBy_congr sameTerms] at updating
  have behind := rest
  obtain ⟨_, third, enqueuing, rest⟩ := outcome_bind.mp rest
  have afterJob := rest
  obtain ⟨fourth, following, rest⟩ := outcome_when rest
  have closing := rest
  obtain ⟨_, last, storing, ended⟩ := outcome_bind.mp rest
  obtain ⟨_, rfl⟩ := ended
  obtain ⟨appKey, row, stored'⟩ := storeIdempotentResponse_writes storing
  have besideParents : Beside third fourth := by
    split at following
    next => exact beside_transitionSettledScope following
    next => exact beside_of_eq (by rw [following])
  have besideThird : Beside third after := besideParents.trans (beside_storeIdempotentResponse storing)
  have beside : Beside second after := (beside_enqueueCkbReconciliation enqueuing).trans besideThird
  have booked : ∀ final, Follows second final → kept second.db final.db → ∃ added,
      second.writes = first.writes ++ added ∧ Booked good kept start req.appId
        reserved.transactionId (transactionSettledBy old (settlementNextStatus operation old result.status)
          result.txHash) final.db added :=
    fun final follows later => updateTransaction_booked keeps (by intros; rfl) (by rw [firstWrites, alone]; rfl)
      since updating follows later
  have toEscrows : Write.to .escrows second.writes = [.escrow (escrowSettledBy operation
      (settlementNextStatus operation old result.status) result.txHash old)] := by
    obtain ⟨added, same, entry⟩ := booked second (.refl _) (keeps.refl _)
    rw [same, Write.to_append, entry.to_escrows, firstWrites, alone]
    rfl
  refine ⟨old, _, second, third, fourth, rfl, by simpa using met, by simpa using owned,
    by rw [beside.to_escrows, toEscrows], ?_, enqueuing, afterJob.follows, besideThird, following, closing.follows,
    appKey, row, stored'⟩
  intro final follows later
  refine ⟨committedOld final ((reread.follows.trans updating.follows).trans (behind.follows.trans follows)), ?_⟩
  obtain ⟨added, same, entry⟩ := booked final (behind.follows.trans follows)
    (keeps.trans _ _ _ (behind.keeps keeps) later)
  rw [beside.to_transactions, same, Write.to_append, entry.to_transactions, firstWrites, alone]
  exact entry

/-- A creation's finalization wrote the answer of the rail into the escrow, and into the
lock transaction. -/
theorem finalizeEscrowCreation_commits (keeps : Keeps rely kept) {req : RequestContext}
    {reserved : ReservedEscrowCreation} {result : EscrowAdapterResult} {reply : Reply} {start : Db}
    (outcome : Outcome rely good (finalizeEscrowCreation settings req reserved result) ⟨[], [], start⟩ reply after) :
    ∃ (old : Escrow) (first second : Point Db Write Query),
      canTransitionEscrow .notCreated result.status = true ∧ old.status = .notCreated ∧ old.appId = req.appId ∧
      Write.to .escrows after.writes = [.escrow (escrowLockedBy result reserved.created old)] ∧
      (∀ final, Follows after final → kept after.db final.db →
        final.db.escrows.get reserved.created.id = some old ∧
        Booked good kept start req.appId
          reserved.transactionId (transactionLockedBy (escrowLockedBy result reserved.created old) result.status)
          final.db (Write.to .transactions after.writes)) ∧
      Outcome rely good (enqueueCkbReconciliation ⟨req.request, 2⟩ (escrowLockedBy result reserved.created old)
        reserved.transactionId) first () second ∧
      Follows second after ∧ ∃ appKey row, after.writes = second.writes ++ [.idempotencyKey appKey row] := by
  obtain ⟨_, allowed, rest⟩ := outcome_check outcome
  obtain ⟨count, swapped, swap, rest⟩ := outcome_bind.mp rest
  obtain ⟨_, once, rest⟩ := outcome_check rest
  rw [assertLifecycleCompareAndSwap_ok_iff.mp once] at swap
  obtain ⟨old, now, met, owned, oldKey, written, committed⟩ := stored_escrows.swapped (by intros; rfl) swap
  have committedOld : ∀ final, Follows swapped final → final.db.escrows.get reserved.created.id = some old :=
    committed rfl
  have alone : swapped.writes = [.escrow (escrowLockedBy result reserved.created old)] := by
    rw [written]
    rfl
  have rows : Write.to .escrows swapped.writes =
      [escrowLockedBy result reserved.created old].map Write.escrow := by
    rw [alone]
    rfl
  obtain ⟨found, first, reread, rest⟩ := outcome_bind.mp rest
  obtain ⟨updated, present, rest⟩ := outcome_required rest
  obtain ⟨same, firstWrites⟩ := stored_escrows.reread rows rfl oldKey owned reread
  rw [present] at same
  obtain rfl := Option.some.inj same
  have since : kept start first.db := keeps.trans _ _ _ (swap.keeps keeps) (reread.keeps keeps)
  obtain ⟨_, second, updating, rest⟩ := outcome_bind.mp rest
  have behind := rest
  obtain ⟨_, third, enqueuing, rest⟩ := outcome_bind.mp rest
  have closing := rest
  obtain ⟨_, last, storing, ended⟩ := outcome_bind.mp rest
  obtain ⟨_, rfl⟩ := ended
  obtain ⟨appKey, row, stored⟩ := storeIdempotentResponse_writes storing
  have beside : Beside second after :=
    (beside_enqueueCkbReconciliation enqueuing).trans (beside_storeIdempotentResponse storing)
  have booked : ∀ final, Follows second final → kept second.db final.db → ∃ added,
      second.writes = first.writes ++ added ∧ Booked good kept start req.appId reserved.transactionId
        (transactionLockedBy (escrowLockedBy result reserved.created old) result.status) final.db added :=
    fun final follows later => updateTransaction_booked keeps (by intros; rfl) (by rw [firstWrites, alone]; rfl)
      since updating follows later
  have toEscrows : Write.to .escrows second.writes = [.escrow (escrowLockedBy result reserved.created old)] := by
    obtain ⟨added, same, entry⟩ := booked second (.refl _) (keeps.refl _)
    rw [same, Write.to_append, entry.to_escrows, firstWrites, alone]
    rfl
  refine ⟨old, second, third, assertEscrowTransition_ok_iff.mp allowed, by simpa using met, by simpa using owned,
    by rw [beside.to_escrows, toEscrows], ?_, enqueuing, closing.follows, appKey, row, stored⟩
  intro final follows later
  refine ⟨committedOld final ((reread.follows.trans updating.follows).trans (behind.follows.trans follows)), ?_⟩
  obtain ⟨added, same, entry⟩ := booked final (behind.follows.trans follows)
    (keeps.trans _ _ _ (behind.keeps keeps) later)
  rw [beside.to_transactions, same, Write.to_append, entry.to_transactions, firstWrites, alone]
  exact entry

/-- A mark-funded request goes on with an escrow whose lock was created. -/
theorem reserveFunding_commits (keeps : Keeps rely kept) {req : RequestContext} {escrowId : RowId}
    {escrow : Escrow} {start : Db}
    (outcome : Outcome rely good (reserveFunding settings req escrowId) ⟨[], [], start⟩ escrow after) :
    Seen good kept after.db (fun db => db.escrows.get escrow.id = some escrow) ∧ escrow.appId = req.appId ∧
      escrow.status ≠ .notCreated := by
  obtain ⟨_, first, keyed, rest⟩ := outcome_bind.mp outcome
  obtain ⟨appKey, keyRow, keyWrites⟩ := reserveRequest_writes keyed
  have key : KeyOnly first.writes := ⟨appKey, keyRow, keyWrites⟩
  obtain ⟨found, second, read, rest⟩ := outcome_bind.mp rest
  obtain ⟨seen, present, rest⟩ := outcome_required rest
  rw [present] at read
  obtain ⟨_, secondGood, stored, owned⟩ := stored_escrows.read (key.to_nil (by simp)) read
  have same : seen.id = escrowId := Table.key_of_get stored
  have seenThere : Seen good kept after.db fun db => db.escrows.get seen.id = some seen :=
    (Seen.now keeps secondGood (same ▸ stored)).later keeps (rest.keeps keeps)
  have owner : seen.appId = req.appId := by simpa using owned
  split at rest
  next => exact rest.elim
  next created =>
    split at rest
    next =>
      obtain ⟨_, _, _, ended⟩ := outcome_bind.mp rest
      obtain ⟨rfl, _⟩ := ended
      exact ⟨seenThere, owner, created⟩
    next =>
      obtain ⟨rfl, _⟩ := rest
      exact ⟨seenThere, owner, created⟩

/-- The escrow of a funding that is not yet funded: where it stands afterwards, and how
it got there. -/
inductive FundingMove (good : Db → Prop) (kept : Db → Db → Prop) (appId : String) (id : RowId) (current : Escrow)
    (result : EscrowAdapterResult) (db : Db) : Escrow → List Write → Prop
  | stays {updated : Escrow} (same : result.status = current.status)
      (seen : Seen good kept db fun db => db.escrows.get id = some updated) :
      FundingMove good kept appId id current result db updated []
  | moves {old : Escrow} (valid : canTransitionEscrow old.status result.status = true)
      (status : old.status = current.status) (owner : old.appId = appId)
      (stored : db.escrows.get id = some old) :
      FundingMove good kept appId id current result db
        { old with status := result.status, lockTxHash := result.txHash.or current.lockTxHash }
        [.escrow { old with status := result.status, lockTxHash := result.txHash.or current.lockTxHash }]

/-- The lock transaction of a funding: updated where it is found. -/
inductive FundingBooked (good : Db → Prop) (kept : Db → Db → Prop) (start : Db) (appId : String) (id : RowId)
    (result : EscrowAdapterResult) (updated : Escrow) (db : Db) : List Write → Prop
  | none (seen : Seen (Since good kept start) kept db fun db => ∀ row ∈ db.transactions, row.appId = appId →
        row.escrowId = some id → row.type ≠ .lock) : FundingBooked good kept start appId id result updated db []
  | lock {row : Transaction} {added : List Write} (belongs : row.escrowId = some id) (type : row.type = .lock)
      (seen : Seen (Since good kept start) kept db fun db => row ∈ db.transactions)
      (booked : Booked good kept start appId row.id (transactionFundedBy result updated) db added) :
      FundingBooked good kept start appId id result updated db added

/-- What a funding's finalization wrote: nothing when the escrow was funded already. -/
theorem finalizeEscrowFunding_commits (keeps : Keeps rely kept) {req : RequestContext} {seen : Escrow}
    {result : EscrowAdapterResult} {reply : Reply} {start : Db}
    (outcome : Outcome rely good (finalizeEscrowFunding settings req seen result) ⟨[], [], start⟩ reply after) :
    ∃ current : Escrow, Seen (Since good kept start) kept after.db (fun db => db.escrows.get seen.id = some current) ∧
      current.appId = req.appId ∧
      ((current.status = .funded ∧ Write.to .escrows after.writes = [] ∧ Write.to .transactions after.writes = []) ∨
        (current.status ≠ .funded ∧ result.status ∈ [EscrowStatus.fundingDetected, .funded] ∧
          ∃ updated, (∀ final, Follows after final → kept after.db final.db →
            FundingMove (Since good kept start) kept req.appId seen.id current result final.db updated
              (Write.to .escrows after.writes) ∧
            FundingBooked good kept start req.appId seen.id result updated final.db
              (Write.to .transactions after.writes)) ∧
          ∃ second third, (if result.status = .funded then
              Outcome rely good (transitionFundingScope req.appId updated) second () third else third = second) ∧
            Follows third after ∧ ∃ appKey row, after.writes = third.writes ++ [.idempotencyKey appKey row])) := by
  obtain ⟨found, read, reading, rest⟩ := outcome_bind.mp outcome
  obtain ⟨current, present, rest⟩ := outcome_required rest
  rw [present] at reading
  obtain ⟨unwritten, holds, stored, owned⟩ := stored_escrows.read rfl reading
  have key : current.id = seen.id := Table.key_of_get stored
  have sinceRead : kept start read.db := reading.keeps keeps
  have seenCurrent : Seen (Since good kept start) kept after.db fun db => db.escrows.get seen.id = some current :=
    (Seen.since keeps holds sinceRead stored).later keeps (rest.keeps keeps)
  refine ⟨current, seenCurrent, by simpa using owned, ?_⟩
  split at rest
  next funded =>
    obtain ⟨_, last, storing, ended⟩ := outcome_bind.mp rest
    obtain ⟨_, rfl⟩ := ended
    have beside := beside_storeIdempotentResponse storing
    exact .inl ⟨funded, by rw [beside.to_escrows, unwritten]; rfl, by rw [beside.to_transactions, unwritten]; rfl⟩
  next unfunded =>
    split at rest
    next => exact rest.elim
    next valid =>
      obtain ⟨_, second, moving, rest⟩ := outcome_bind.mp rest
      have moved := moveFunding_moved (by rw [unwritten]; rfl) moving
      have sinceMoved : kept start second.db := keeps.trans _ _ _ sinceRead (moving.keeps keeps)
      have behind := rest
      obtain ⟨found, third, reread, rest⟩ := outcome_bind.mp rest
      obtain ⟨updated, present, rest⟩ := outcome_required rest
      rw [present] at reread
      obtain ⟨here, later, same, thirdIs⟩ := outcome_read.mp reread
      have thirdWrites : third.writes = second.writes := by
        rw [thirdIs, Point.record, List.append_nil, later.writes]
      have sinceThird : kept start third.db := keeps.trans _ _ _ sinceMoved (reread.keeps keeps)
      have untouched : Write.to .transactions third.writes = [] := by
        rw [thirdWrites]
        exact moved.transactions (by rw [unwritten]; rfl)
      have rereadView : third.view.escrowForApp req.appId current.id = some updated := by
        rw [thirdIs, Point.view, Point.record, List.append_nil]
        exact same.symm
      -- where the escrow stands, at any point that follows
      have move : ∀ final, Follows third final → kept third.db final.db →
          FundingMove (Since good kept start) kept req.appId seen.id current result final.db updated
            (Write.to .escrows third.writes) := by
        intro final follows onwards
        rcases moved with ⟨unmoved, unchanged⟩ | ⟨_, allowed, old, status, owner, oldKey, written, committed⟩
        · have none : third.writes = [] := by rw [thirdWrites, unchanged, unwritten]
          rw [none]
          refine .stays unmoved ?_
          have there : third.db.escrows.get seen.id = some updated := by
            obtain ⟨found, _⟩ := Option.filter_eq_some_iff.mp rereadView
            rw [Point.view, none, key] at found
            exact found
          exact ⟨third.db, ⟨by rw [thirdIs]; exact later.good, sinceThird⟩, onwards, there⟩
        · have escrows : Write.to .escrows third.writes = [.escrow { old with
              status := result.status, lockTxHash := result.txHash.or current.lockTxHash }] := by
            rw [thirdWrites, written, unwritten]
            rfl
          obtain ⟨sameRow, _⟩ := stored_escrows.reread
            (show Write.to .escrows _ = [{ old with
              status := result.status, lockTxHash := result.txHash.or current.lockTxHash }].map _ by
                rw [written, unwritten]
                rfl) rfl oldKey (decide_eq_true owner) reread
          cases sameRow
          rw [escrows]
          refine .moves (status ▸ allowed) status owner ?_
          rw [← key]
          exact committed final (reread.follows.trans follows)
      have finish : ∀ fourth, Follows third fourth → kept third.db fourth.db →
          Write.to .escrows fourth.writes = Write.to .escrows third.writes →
          (∀ final, Follows fourth final → kept fourth.db final.db → FundingBooked good kept start req.appId seen.id
            result updated final.db (Write.to .transactions fourth.writes)) →
          ∀ closing : Tx Reply, closing = (do
            storeIdempotentResponse settings req 200 (.escrow updated)
            pure (Reply.escrow updated)) →
          Outcome rely good (if result.status = .funded then
            transitionFundingScope req.appId updated >>= fun _ => closing else closing) fourth reply after →
          ∃ updated, (∀ final, Follows after final → kept after.db final.db →
            FundingMove (Since good kept start) kept req.appId seen.id current result final.db updated
              (Write.to .escrows after.writes) ∧
            FundingBooked good kept start req.appId seen.id result updated final.db
              (Write.to .transactions after.writes)) ∧
          ∃ second third, (if result.status = .funded then
              Outcome rely good (transitionFundingScope req.appId updated) second () third else third = second) ∧
            Follows third after ∧ ∃ appKey row, after.writes = third.writes ++ [.idempotencyKey appKey row] := by
        intro fourth toFourth keptFourth sameEscrows booked closing closingIs rest
        have tail := rest
        obtain ⟨fifth, following, rest⟩ := outcome_when rest
        have ending := rest
        rw [closingIs] at rest
        obtain ⟨_, last, storing, ended⟩ := outcome_bind.mp rest
        obtain ⟨_, rfl⟩ := ended
        obtain ⟨appKey, row, written⟩ := storeIdempotentResponse_writes storing
        have besideParents : Beside fourth fifth := by
          split at following
          next => exact beside_transitionFundingScope following
          next => exact beside_of_eq (by rw [following])
        have beside : Beside fourth after := besideParents.trans (beside_storeIdempotentResponse storing)
        refine ⟨updated, ?_, fourth, fifth, following, ending.follows, appKey, row, written⟩
        intro final follows onwards
        have keptFinal := keeps.trans _ _ _ (tail.keeps keeps) onwards
        rw [beside.to_escrows, sameEscrows, beside.to_transactions]
        exact ⟨move final (toFourth.trans (tail.follows.trans follows)) (keeps.trans _ _ _ keptFourth keptFinal),
          booked final (tail.follows.trans follows) keptFinal⟩
      obtain ⟨found, looked, looking, rest⟩ := outcome_bind.mp rest
      obtain ⟨there, laterThere, lockIs, lookedIs⟩ := outcome_read.mp looking
      have lookedWrites : looked.writes = third.writes := by
        rw [lookedIs, Point.record, List.append_nil, laterThere.writes]
      have sinceLooked : kept start looked.db := keeps.trans _ _ _ sinceThird (looking.keeps keeps)
      have lookedGood : good looked.db := by
        rw [lookedIs]
        exact laterThere.good
      have updatedKey : updated.id = seen.id := by
        obtain ⟨stored, _⟩ := Option.filter_eq_some_iff.mp rereadView
        exact (Table.key_of_get stored).trans key
      have table : there.view.transactions = looked.db.transactions := by
        rw [Point.view, stored_transactions.untouched (laterThere.writes ▸ untouched), lookedIs, Point.record]
      refine .inr ⟨unfunded, not_not.mp valid, ?_⟩
      cases found with
      | none =>
        refine finish looked looking.follows (looking.keeps keeps) (by rw [lookedWrites]) ?_ _ rfl rest
        intro final follows onwards
        rw [lookedWrites, untouched]
        apply FundingBooked.none
        refine ⟨looked.db, ⟨lookedGood, sinceLooked⟩, onwards, ?_⟩
        intro row member app belongs lock
        rw [table] at lockIs
        have fails := Table.last_none lockIs.symm member
        simp [app, belongs, lock, updatedKey] at fails
      | some lock =>
        rw [table] at lockIs
        obtain ⟨member, passed⟩ := Table.last_some lockIs.symm
        simp only [Bool.and_eq_true, decide_eq_true_eq] at passed
        obtain ⟨_, fourth, updating, rest⟩ := outcome_bind.mp rest
        have booked : ∀ final, Follows fourth final → kept fourth.db final.db → ∃ added,
            fourth.writes = looked.writes ++ added ∧ Booked good kept start req.appId lock.id
              (transactionFundedBy result updated) final.db added :=
          fun final follows onwards => updateTransaction_booked keeps (by intros; rfl)
            (by rw [lookedWrites]; exact untouched) sinceLooked updating follows onwards
        refine finish fourth (looking.follows.trans updating.follows)
          (keeps.trans _ _ _ (looking.keeps keeps) (updating.keeps keeps)) ?_ ?_ _ rfl rest
        · obtain ⟨added, same, entry⟩ := booked fourth (.refl _) (keeps.refl _)
          rw [same, Write.to_append, entry.to_escrows, lookedWrites, List.append_nil]
        · intro final follows onwards
          obtain ⟨added, same, entry⟩ := booked final follows onwards
          rw [same, Write.to_append, entry.to_transactions, lookedWrites, untouched]
          refine .lock (by rw [passed.1.2, updatedKey]) passed.2 ?_ entry
          exact ⟨looked.db, ⟨lookedGood, sinceLooked⟩, keeps.trans _ _ _ (updating.keeps keeps) onwards, member⟩

end Finalizations

section Reconciliation

/-- The escrow of a reconciliation: left as it is, or moved from the status that was read. -/
inductive ReconciledMove (appId : String) (id : RowId) (fromStatus toStatus : EscrowStatus) (db : Db) :
    List Write → Prop
  | stays (same : toStatus = fromStatus) : ReconciledMove appId id fromStatus toStatus db []
  | moves {old : Escrow} (different : toStatus ≠ fromStatus)
      (valid : canTransitionEscrow fromStatus toStatus = true) (status : old.status = fromStatus)
      (owner : old.appId = appId) (stored : db.escrows.get id = some old) :
      ReconciledMove appId id fromStatus toStatus db [.escrow { old with status := toStatus }]

/-- What a reconciliation has read, the move of its escrow, the update of its
transaction, and the part that moves the parents. -/
theorem reconcileTransaction_commits (keeps : Keeps rely kept) {snapshot : Snapshot} {observation : Observation}
    {result : ReconcileResult} {start : Db}
    (outcome : Outcome rely good (reconcileTransaction settings snapshot observation) ⟨[], [], start⟩ result
      after) :
    ∃ (transaction : Transaction) (escrow updated : Escrow) (reorg : Bool) (toStatus : EscrowStatus),
      Seen (Since good kept start) kept after.db
        (fun db => db.transactions.get snapshot.transaction.id = some transaction) ∧
      transaction.txHash.map toLowerCase = some (toLowerCase snapshot.txHash) ∧
      Seen (Since good kept start) kept after.db (fun db => db.escrows.get snapshot.escrow.id = some escrow) ∧
      reorg = reorganised transaction.status escrow.status observation.status ∧
      toStatus = reconciliationEscrowStatus transaction.type escrow.status observation.status reorg ∧
      (∀ final, Follows after final → kept after.db final.db →
        ReconciledMove snapshot.transaction.appId snapshot.escrow.id escrow.status toStatus final.db
          (Write.to .escrows after.writes) ∧
        Booked good kept start snapshot.transaction.appId snapshot.transaction.id
          (transactionReconciledBy transaction observation reorg) final.db (Write.to .transactions after.writes)) ∧
      ∃ fourth : Point Db Write Query, fourth.view.escrowForApp snapshot.transaction.appId escrow.id = some updated ∧
        Outcome rely good (followReconciled snapshot.transaction.appId updated escrow.status toStatus
          (reorg && transaction.status ≠ .reorged)) fourth () after := by
  obtain ⟨foundTransaction, read, readTransaction, rest⟩ := outcome_bind.mp outcome
  obtain ⟨foundEscrow, first, readEscrow, rest⟩ := outcome_bind.mp rest
  cases foundTransaction with
  | none => exact rest.elim
  | some transaction =>
  cases foundEscrow with
  | none => exact rest.elim
  | some escrow =>
    dsimp only at rest
    obtain ⟨readWrites, readGood, storedTransaction, _⟩ := stored_transactions.read rfl readTransaction
    obtain ⟨firstWrites, firstGood, storedEscrow, _⟩ := stored_escrows.read (by rw [readWrites]; rfl) readEscrow
    have none : first.writes = [] := by rw [firstWrites, readWrites]
    have transactionKey : transaction.id = snapshot.transaction.id := Table.key_of_get storedTransaction
    have escrowKey : escrow.id = snapshot.escrow.id := Table.key_of_get storedEscrow
    have sinceRead : kept start read.db := readTransaction.keeps keeps
    have sinceFirst : kept start first.db := keeps.trans _ _ _ sinceRead (readEscrow.keeps keeps)
    split at rest
    next => exact rest.elim
    next sameHash =>
      have onwards := rest
      obtain ⟨_, second, moving, rest⟩ := outcome_bind.mp rest
      obtain ⟨_, third, updating, rest⟩ := outcome_bind.mp rest
      have moved := moveReconciled_moved (by rw [none]; rfl) moving
      have sinceSecond : kept start second.db := keeps.trans _ _ _ sinceFirst (moving.keeps keeps)
      have behind := rest
      obtain ⟨found, fourth, reread, rest⟩ := outcome_bind.mp rest
      split at rest
      next => exact rest.elim
      next updatedEscrow =>
        obtain ⟨_, fifth, following, ended⟩ := outcome_bind.mp rest
        obtain ⟨_, rfl⟩ := ended
        obtain ⟨here, later, same, fourthIs⟩ := outcome_read.mp reread
        have seenTransaction : Seen (Since good kept start) kept after.db fun db =>
            db.transactions.get snapshot.transaction.id = some transaction :=
          ((Seen.since keeps readGood sinceRead storedTransaction).later keeps (readEscrow.keeps keeps)).later keeps
            (onwards.keeps keeps)
        have seenEscrow : Seen (Since good kept start) kept after.db fun db =>
            db.escrows.get snapshot.escrow.id = some escrow :=
          (Seen.since keeps firstGood sinceFirst storedEscrow).later keeps (onwards.keeps keeps)
        have fourthWrites : fourth.writes = third.writes := by
          rw [fourthIs, Point.record, List.append_nil, later.writes]
        have beside : Beside third after := (beside_of_eq fourthWrites).trans (beside_followReconciled following)
        have booked : ∀ final, Follows third final → kept third.db final.db → ∃ added,
            third.writes = second.writes ++ added ∧ Booked good kept start
              snapshot.transaction.appId transaction.id (transactionReconciledBy transaction observation
                (reorganised transaction.status escrow.status observation.status)) final.db added :=
          fun final follows onwards => updateTransaction_booked keeps (by intros; rfl)
            (moved.transactions (by rw [none]; rfl)) sinceSecond updating follows onwards
        have toEscrows : Write.to .escrows after.writes = Write.to .escrows second.writes := by
          obtain ⟨added, same, entry⟩ := booked third (.refl _) (keeps.refl _)
          rw [beside.to_escrows, same, Write.to_append, entry.to_escrows, List.append_nil]
        refine ⟨transaction, escrow, updatedEscrow, _, _, seenTransaction, not_not.mp sameHash, seenEscrow, rfl, rfl,
          ?_, fourth, ?_, following⟩
        · intro final follows onwards
          refine ⟨?_, ?_⟩
          · rw [toEscrows]
            rcases moved.escrows (by rw [none]; rfl) with
              ⟨unmoved, unwritten⟩ | ⟨different, allowed, old, status, owner, written, committed⟩
            · rw [unwritten]
              exact .stays unmoved
            · rw [written]
              refine .moves different allowed status owner ?_
              rw [← escrowKey]
              exact committed final (updating.follows.trans (behind.follows.trans follows))
          · obtain ⟨added, same, entry⟩ := booked final (behind.follows.trans follows)
              (keeps.trans _ _ _ (behind.keeps keeps) onwards)
            rw [beside.to_transactions, same, Write.to_append, entry.to_transactions,
              moved.transactions (by rw [none]; rfl), List.nil_append, ← transactionKey]
            exact entry
        · rw [fourthIs, same]
          simp [Point.view, Point.record]

/-- A snapshot is a transaction with a hash, and the escrow that it belongs to, which is
read when the transaction is there. -/
theorem loadSnapshot_commits (keeps : Keeps rely kept) {transactionId : RowId} {snapshot : Snapshot} {start : Db}
    (outcome : Outcome rely good (loadSnapshot settings transactionId) ⟨[], [], start⟩ snapshot after) :
    snapshot.transaction.escrowId = some snapshot.escrow.id ∧ snapshot.transaction.rail = .ckb ∧
      snapshot.transaction.txHash = some snapshot.txHash ∧
      Seen (fun here => good here ∧ Seen good kept here
          fun db => db.transactions.get snapshot.transaction.id = some snapshot.transaction) kept after.db
        (fun db => db.escrows.get snapshot.escrow.id = some snapshot.escrow) := by
  obtain ⟨found, first, read, rest⟩ := outcome_bind.mp outcome
  cases found with
  | none => exact rest.elim
  | some transaction =>
  dsimp only at rest
  obtain ⟨here, later, same, firstIs⟩ := outcome_read.mp read
  have stored : here.db.transactions.get transactionId = some transaction := by
    rw [Point.view, later.writes] at same
    exact same.symm
  have key : transaction.id = transactionId := Table.key_of_get stored
  cases scope : transaction.escrowId with
  | none =>
    rw [scope] at rest
    exact rest.elim
  | some escrowId =>
  rw [scope] at rest
  obtain ⟨escrow, second, readEscrow, rest⟩ := outcome_bind.mp rest
  cases escrow with
  | none => exact rest.elim
  | some escrow =>
  cases hash : present transaction.txHash with
  | none =>
    rw [hash] at rest
    exact rest.elim
  | some txHash =>
  rw [hash] at rest
  dsimp only at rest
  split at rest
  next => exact rest.elim
  next ckb =>
    obtain ⟨snapshotIs, ended⟩ := rest
    have none : first.writes = [] := by rw [firstIs, Point.record, List.append_nil, later.writes]
    obtain ⟨_, holds, storedEscrow, _⟩ := stored_escrows.read (by rw [none]; rfl) readEscrow
    have escrowKey : escrow.id = escrowId := Table.key_of_get storedEscrow
    have firstDb : first.db = here.db := by rw [firstIs, Point.record]
    rw [snapshotIs]
    refine ⟨by rw [scope, escrowKey], not_not.mp ckb, present_some hash, ?_⟩
    have seen : Seen good kept first.db fun db => db.transactions.get transaction.id = some transaction := by
      rw [firstDb, key]
      exact Seen.now keeps later.good stored
    rw [ended, escrowKey]
    exact ⟨second.db, ⟨holds, seen.later keeps (readEscrow.keeps keeps)⟩, keeps.refl _, storedEscrow⟩

end Reconciliation

end PactAgent.Escrow
