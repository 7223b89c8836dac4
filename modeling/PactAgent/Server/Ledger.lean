import PactAgent.Server.Effects

/-! The ledger: what the transaction of each phase, when it commits, has written about
escrows and their transactions, and what it had found on the way. -/

namespace PactAgent.Server
open PactAgent.Common PactAgent.Foundation PactAgent.Lifecycle PactAgent.Store PactAgent.Escrow
open PactAgent.Foundation.ReadCommitted
open PactAgent.Idempotency.Repository PactAgent.Rail.Builder PactAgent.Rail.Node PactAgent.Rail.Script

/-- The phases whose transactions write neither escrows nor their transactions. -/
def Phase.isAside : Phase → Bool
  | .replaying _ _ _ | .reserving _ _ | .running _ _ | .clearing _ _ | .fundingReserving _ _ _ | .loading _
  | .cleaning _ => true
  | _ => false

/-- What a reconciliation has read, and what follows from it for the escrow. -/
structure ReconciliationRead (good : Db → Prop) (kept : Db → Db → Prop) (start db : Db) (snapshot : Snapshot)
    (observation : Observation) (transaction : Transaction) (escrow : Escrow) (reorg : Bool)
    (toStatus : EscrowStatus) : Prop where
  readTransaction : Seen (Since good kept start) kept db
    fun db => db.transactions.get snapshot.transaction.id = some transaction
  sameHash : transaction.txHash.map toLowerCase = some (toLowerCase snapshot.txHash)
  readEscrow : Seen (Since good kept start) kept db fun db => db.escrows.get snapshot.escrow.id = some escrow
  reorgIs : reorg = reorganised transaction.status escrow.status observation.status
  toStatusIs : toStatus = reconciliationEscrowStatus transaction.type escrow.status observation.status reorg

/-- The commit of a phase, with the phase after it, its writes to escrows, and those to
their transactions. -/
inductive Entry (good : Db → Prop) (kept : Db → Db → Prop) (start db : Db) :
    Phase → Phase → List Write → List Write → Prop
  | created {req : RequestContext} {input : CreateEscrowInput} {index : Option Nat}
      (absent : db.escrows.get ⟨req.request, 0⟩ = none) (missing : db.transactions.get ⟨req.request, 1⟩ = none) :
      Entry good kept start db (.creating req input) (.locking req ⟨newEscrow req input, index, ⟨req.request, 1⟩⟩)
        [.escrow (newEscrow req input)]
        [.transaction (newTransaction ⟨req.request, 1⟩ (newEscrow req input) .lock)]
  | locked {req : RequestContext} {reserved : ReservedEscrowCreation} {result : EscrowAdapterResult}
      {first : Option Failure} {reply : Reply} {old : Escrow} {transactions : List Write}
      (valid : canTransitionEscrow .notCreated result.status = true) (fresh : old.status = .notCreated)
      (owner : old.appId = req.appId) (stored : db.escrows.get reserved.created.id = some old)
      (booked : Booked good kept start req.appId reserved.transactionId
        (transactionLockedBy (escrowLockedBy result reserved.created old) result.status) db transactions) :
      Entry good kept start db (.finalizingCreation req reserved result first) (.returned reply)
        [.escrow (escrowLockedBy result reserved.created old)] transactions
  | discarded {req : RequestContext} {reserved : ReservedEscrowCreation} {error : Failure}
      {escrows transactions : List Write}
      (escrow : Deleted good kept start (·.escrowForApp req.appId reserved.created.id)
        (fun row => row.status = .notCreated) .deleteEscrow db escrows)
      (transaction : Deleted good kept start (·.transactionForApp req.appId reserved.transactionId)
        (fun _ => true) .deleteTransaction db transactions) :
      Entry good kept start db (.discarding req reserved error) (.failed error) escrows transactions
  | fundedAlready {req : RequestContext} {before current : Escrow} {result : EscrowAdapterResult} {reply : Reply}
      (seen : Seen (Since good kept start) kept db fun db => db.escrows.get before.id = some current)
      (funded : current.status = .funded) :
      Entry good kept start db (.finalizingFunding req before result) (.returned reply) [] []
  | funded {req : RequestContext} {before current updated : Escrow} {result : EscrowAdapterResult} {reply : Reply}
      {escrows transactions : List Write}
      (seen : Seen (Since good kept start) kept db fun db => db.escrows.get before.id = some current)
      (owner : current.appId = req.appId) (unfunded : current.status ≠ .funded)
      (verified : result.status ∈ [EscrowStatus.fundingDetected, .funded])
      (moved : FundingMove (Since good kept start) kept req.appId before.id current result db updated escrows)
      (booked : FundingBooked good kept start req.appId before.id result updated db transactions) :
      Entry good kept start db (.finalizingFunding req before result) (.returned reply) escrows transactions
  | reserved {req : RequestContext} {operation : SettlementOperation} {escrowId : RowId} {seen old : Escrow}
      (funded : old.status = .funded) (owner : old.appId = req.appId)
      (stored : db.escrows.get escrowId = some old)
      (unique : ∀ other ∈ db.transactions, other.appId = req.appId →
        other.operationId ≠ some ⟨escrowId, settlementType operation⟩)
      (seenFunded : seen.status = .funded) (seenThere : Seen good kept db fun db => db.escrows.get escrowId = some seen)
      (guard : SettlementSeen good kept operation seen db)
      (absent : db.transactions.get ⟨req.request, 0⟩ = none) :
      Entry good kept start db (.settlementReserving req operation escrowId)
        (.settling req operation ⟨seen, { old with status := settlementPendingStatus operation }, ⟨req.request, 0⟩⟩)
        [.escrow { old with status := settlementPendingStatus operation }]
        [.transaction (newTransaction ⟨req.request, 0⟩ { old with status := settlementPendingStatus operation }
          (settlementType operation))]
  | failed {req : RequestContext} {operation : SettlementOperation} {reserved : ReservedEscrowSettlement}
      {error : Failure} {old : Escrow} {transactions : List Write}
      (pending : old.status = settlementPendingStatus operation) (owner : old.appId = req.appId)
      (stored : db.escrows.get reserved.pending.id = some old)
      (booked : Booked good kept start req.appId reserved.transactionId (fun _ row => { row with status := .failed })
        db transactions) :
      Entry good kept start db (.finalizingFailed req operation reserved error) (.failed error)
        [.escrow { old with status := .failed }] transactions
  | settled {req : RequestContext} {operation : SettlementOperation} {reserved : ReservedEscrowSettlement}
      {result : EscrowAdapterResult} {first : Option Failure} {reply : Reply} {old : Escrow}
      {nextStatus : EscrowStatus} {transactions : List Write}
      (nextIs : nextStatus = settlementNextStatus operation old result.status)
      (pending : old.status = settlementPendingStatus operation) (owner : old.appId = req.appId)
      (stored : db.escrows.get reserved.pending.id = some old)
      (booked : Booked good kept start req.appId reserved.transactionId
        (transactionSettledBy old nextStatus result.txHash) db transactions) :
      Entry good kept start db (.finalizingSettlement req operation reserved result first) (.returned reply)
        [.escrow (escrowSettledBy operation nextStatus result.txHash old)] transactions
  | reconciled {snapshot : Snapshot} {observation : Observation} {result : ReconcileResult}
      {transaction : Transaction} {escrow : Escrow} {reorg : Bool} {toStatus : EscrowStatus}
      {escrows transactions : List Write}
      (read : ReconciliationRead good kept start db snapshot observation transaction escrow reorg toStatus)
      (moved : ReconciledMove snapshot.transaction.appId snapshot.escrow.id escrow.status toStatus db escrows)
      (booked : Booked good kept start snapshot.transaction.appId snapshot.transaction.id
        (transactionReconciledBy transaction observation reorg) db transactions) :
      Entry good kept start db (.reconciling snapshot observation) (.reconciled result) escrows transactions
  | aside {phase next : Phase} (aside : phase.isAside = true) : Entry good kept start db phase next [] []

section Commits
variable {settings : Settings} {claims : Assertions Db Query Phase Env} {kept : Db → Db → Prop} {id : Nat}
variable {phase next : Phase} {writes : List Write} {db : Db}

/-- The write is about neither escrows nor their transactions. -/
def Apart (_ : Db) (write : Write) : Prop := write.relation ≠ .escrows ∧ write.relation ≠ .transactions

theorem aside_apart {program : Tx Phase} (aside : phase.isAside = true)
    (runs : body settings phase = some program) : program.Emits Apart := by
  have keys : ∀ db appKey row, Apart db (.idempotencyKey appKey row) := fun _ _ _ => by simp [Apart, Write.relation]
  cases phase with
  | replaying req stage fallback =>
    cases runs
    exact emits_replayBody (fun db => keys db _ none) fallback stage
  | reserving req operation =>
    cases runs
    exact Program.emits_bind (emits_reserveRequest settings fun db row _ _ _ => keys db _ (some row)) fun _ => Program.emits_pure _
  | running req operation =>
    have records := running_records runs
    exact records.mono fun _ _ records => ⟨records.records.others.1, records.records.others.2.1⟩
  | clearing req error =>
    cases runs
    exact Program.emits_bind (emits_deletePendingRequest fun db => keys db _ none) fun _ => Program.emits_pure _
  | fundingReserving req escrowId txHash =>
    cases runs
    exact Program.emits_bind (emits_reserveFunding settings (fun db row _ _ _ => keys db _ (some row))
        (fun db row _ => keys db _ (some row)) escrowId) fun _ => Program.emits_pure _
  | loading transactionId =>
    cases runs
    exact Program.emits_bind (emits_loadSnapshot settings transactionId) fun _ => Program.emits_pure _
  | cleaning appKey =>
    cases runs
    exact Program.emits_bind (emits_deleteIdempotentRequest _ _ fun db => keys db _ none)
      fun _ => Program.emits_pure _
  | _ => cases aside

/-- What a commit has done about escrows and their transactions. -/
theorem commits_entry (keeps : Keeps (claims.rely id phase) kept)
    (steady : ∀ earlier later, kept earlier later → Steady earlier later)
    (commits : Commits (app settings) claims id phase next writes db) :
    ∃ start, Initially claims id phase start ∧ kept start db ∧
      Entry claims.holds kept start db phase next (Write.to .escrows writes) (Write.to .transactions writes) := by
  have whole := commits
  obtain ⟨program, start, last, runs, initially, outcome, later⟩ := commits
  have toLast : kept last.db db := later.keeps keeps
  have since : kept start db := keeps.trans _ _ _ (outcome.keeps keeps) toLast
  have ends : ∀ relation, Write.to relation writes = Write.to relation last.writes :=
    fun relation => congrArg (Write.to relation) later.writes
  refine ⟨start, initially, since, ?_⟩
  by_cases aside : phase.isAside = true
  · obtain ⟨added, written, apart⟩ := outcome.writes (aside_apart aside runs)
    have none : ∀ relation, relation = .escrows ∨ relation = .transactions → Write.to relation writes = [] := by
      intro relation which
      rw [ends, written, List.nil_append]
      apply Write.to_eq_nil
      intro write member
      obtain ⟨_, escrows, transactions⟩ := apart write member
      rcases which with rfl | rfl
      · exact escrows
      · exact transactions
    rw [none .escrows (.inl rfl), none .transactions (.inr rfl)]
    exact .aside aside
  · cases phase with
    | creating req input =>
      cases runs
      obtain ⟨reserved, middle, outcome, rfl, rfl⟩ := outcome_bind.mp outcome
      obtain ⟨created, transaction, wrote, fresh⟩ := reserveEscrowCreation_commits outcome
      obtain ⟨absent, missing⟩ := fresh _ later.follows
      rw [ends, ends, wrote.escrows, wrote.transactions]
      obtain ⟨createdEscrow, index, transactionId⟩ := reserved
      cases created
      cases transaction
      exact .created absent missing
    | finalizingCreation req reserved result first =>
      cases runs
      obtain ⟨reply, middle, outcome, rfl, rfl⟩ := outcome_bind.mp outcome
      obtain ⟨old, _, _, valid, fresh, owner, escrows, committed, _⟩ := finalizeEscrowCreation_commits keeps outcome
      obtain ⟨stored, booked⟩ := committed _ later.follows toLast
      rw [ends, ends, escrows]
      exact .locked valid fresh owner stored booked
    | discarding req reserved error =>
      cases runs
      obtain ⟨_, middle, outcome, rfl, rfl⟩ := outcome_bind.mp outcome
      obtain ⟨escrow, transaction⟩ := discardEscrowCreation_commits keeps outcome later.follows toLast
      rw [ends, ends]
      exact .discarded escrow transaction
    | finalizingFunding req before result =>
      cases runs
      obtain ⟨reply, middle, outcome, rfl, rfl⟩ := outcome_bind.mp outcome
      obtain ⟨current, seen, owner, ⟨funded, escrows, transactions⟩ | ⟨unfunded, verified, updated, committed, _⟩⟩ :=
        finalizeEscrowFunding_commits keeps outcome
      · rw [ends, ends, escrows, transactions]
        exact .fundedAlready (seen.later keeps toLast) funded
      · obtain ⟨moved, booked⟩ := committed _ later.follows toLast
        rw [ends, ends]
        exact .funded (seen.later keeps toLast) owner unfunded verified moved booked
    | settlementReserving req operation escrowId =>
      obtain ⟨seen, old, appKey, keyRow, written, funded, owner, stored, unique, seenFunded, seenThere, guard, absent,
        rfl⟩ :=
        reserving_commits keeps whole
      have escrows : Write.to .escrows writes = [.escrow { old with status := settlementPendingStatus operation }] := by
        rw [written]
        simp [Write.relation]
      have transactions : Write.to .transactions writes = [.transaction (newTransaction ⟨req.request, 0⟩
          { old with status := settlementPendingStatus operation } (settlementType operation))] := by
        rw [written]
        simp [Write.relation]
      rw [escrows, transactions]
      exact .reserved funded owner stored unique seenFunded seenThere guard absent
    | finalizingFailed req operation reserved error =>
      cases runs
      obtain ⟨reply, middle, outcome, rfl, rfl⟩ := outcome_bind.mp outcome
      obtain ⟨old, pending, owner, escrows, committed⟩ := finalizeFailedEscrowSettlement_commits keeps outcome
      obtain ⟨stored, booked⟩ := committed _ later.follows toLast
      rw [ends, ends, escrows]
      exact .failed pending owner stored booked
    | finalizingSettlement req operation reserved result first =>
      cases runs
      obtain ⟨reply, middle, outcome, rfl, rfl⟩ := outcome_bind.mp outcome
      obtain ⟨old, nextStatus, _, _, _, nextIs, pending, owner, escrows, committed, _⟩ :=
        finalizeSuccessfulEscrowSettlement_commits keeps steady outcome
      obtain ⟨stored, booked⟩ := committed _ later.follows toLast
      rw [ends, ends, escrows]
      exact .settled nextIs pending owner stored booked
    | reconciling snapshot observation =>
      cases runs
      obtain ⟨result, middle, outcome, rfl, rfl⟩ := outcome_bind.mp outcome
      obtain ⟨transaction, escrow, updated, reorg, toStatus, seenTransaction, sameHash, seenEscrow, reorgIs, statusIs,
        committed, _⟩ := reconcileTransaction_commits keeps outcome
      obtain ⟨moved, booked⟩ := committed _ later.follows toLast
      rw [ends, ends]
      exact .reconciled ⟨seenTransaction.later keeps toLast, sameHash, seenEscrow.later keeps toLast, reorgIs, statusIs⟩
        moved booked
    | _ => first | exact absurd rfl aside | cases runs

end Commits

end PactAgent.Server
