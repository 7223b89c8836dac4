import PactAgent.Server.Custody
import PactAgent.Server.Samples

/-! What the node has reported to the process that finalizes a funding or reconciles a
transaction, and the statuses of a lock that rest on it. -/

namespace PactAgent.Server
open PactAgent.Common PactAgent.Foundation PactAgent.Lifecycle PactAgent.Store PactAgent.Escrow
open PactAgent.Foundation.Execution PactAgent.Foundation.ReadCommitted
open PactAgent.Idempotency.Repository PactAgent.Rail.Builder PactAgent.Rail.Node PactAgent.Rail.Script
open PactAgent.Rail.Spendable

/-- How a lock on the chain comes to its status. -/
inductive LockWritten : Phase → Transaction → Prop
  | opened {phase : Phase} {new : Transaction}
      (status : new.status ∈ [TransactionStatus.pending, .broadcast, .reconciliationRequired]) : LockWritten phase new
  | funded {req : RequestContext} {before : Escrow} {result : EscrowAdapterResult} {new : Transaction}
      (ckb : before.rail = .ckb) (hash : new.txHash = before.lockTxHash)
      (status : new.status = if result.status = .funded then .confirmed else .committed) :
      LockWritten (.finalizingFunding req before result) new
  | reconciled {snapshot : Snapshot} {observation : Observation} {new : Transaction} {reorg : Bool}
      (lock : snapshot.transaction.type = .lock) (hash : new.txHash = some snapshot.txHash)
      (status : new.status = reconciledTransactionStatus observation.status reorg) :
      LockWritten (.reconciling snapshot observation) new

/-- How an escrow on the chain comes to its status. -/
inductive EscrowWritten (db : Db) : Phase → Escrow → Prop
  | opened {phase : Phase} {new : Escrow}
      (status : new.status ∈ [EscrowStatus.notCreated, .awaitingFunding, .reconciliationRequired, .failed]) :
      EscrowWritten db phase new
  | funded {req : RequestContext} {before new : Escrow} {result : EscrowAdapterResult} (ckb : before.rail = .ckb)
      (hash : new.lockTxHash = before.lockTxHash) (verified : result.status ∈ [EscrowStatus.fundingDetected, .funded])
      (status : new.status = result.status) : EscrowWritten db (.finalizingFunding req before result) new
  | settling {phase : Phase} {operation : SettlementOperation} {old new : Escrow}
      (stored : db.escrows.get new.id = some old) (ckb : old.rail = .ckb) (hash : old.lockTxHash = new.lockTxHash)
      (before : old.status = .funded ∨ old.status = settlementPendingStatus operation)
      (status : new.status ∈ [settlementPendingStatus operation, settlementTerminalStatus operation,
        .reconciliationRequired]) : EscrowWritten db phase new
  | reconciled {snapshot : Snapshot} {observation : Observation} {old new : Escrow} {reorg : Bool}
      (stored : db.escrows.get new.id = some old) (ckb : old.rail = .ckb) (key : new.id = snapshot.escrow.id)
      (hash : old.lockTxHash = new.lockTxHash) (moves : new.status ≠ old.status)
      (status : new.status =
        reconciliationEscrowStatus snapshot.transaction.type old.status observation.status reorg) :
      EscrowWritten db (.reconciling snapshot observation) new

section Written
variable {id : Nat} {phase next : Phase} {writes : List Write} {db start : Db}

theorem written_to {relation : Relation} {write : Write} (written : write ∈ writes)
    (about : write.relation = relation) : write ∈ Write.to relation writes :=
  List.mem_filter.mpr ⟨written, by simpa using about⟩

/-- The type of a transaction that a reconciliation has read is the one of its snapshot. -/
theorem read_terms {snapshot : Snapshot} {observation : Observation} {transaction : Transaction}
    (initially : Initially custody id (.reconciling snapshot observation) start)
    (seen : Seen (Since custody.holds (Keeping id) start) (Keeping id) db
      fun db => db.transactions.get snapshot.transaction.id = some transaction) :
    transaction.terms = snapshot.transaction.terms := by
  obtain ⟨here, since, _, stored⟩ := seen
  obtain ⟨_, _, _, knows⟩ := initially
  obtain ⟨row, there, _, terms, _⟩ := (knows.later since.2.2).snapshot snapshot rfl
  rw [stored] at there
  cases there
  exact terms

theorem entry_lock (own : phase.Owned id) (initially : Initially custody id phase start)
    (holds : custody.holds db) (knows : Knows id phase db)
    (entry : Entry custody.holds (Keeping id) start db phase next (Write.to .escrows writes)
      (Write.to .transactions writes)) {new : Transaction} (written : .transaction new ∈ writes) (type : new.type = .lock)
    (ckb : new.rail = .ckb) : LockWritten phase new := by
  have member : Write.transaction new ∈ Write.to .transactions writes := written_to written rfl
  generalize escrowsIs : Write.to .escrows writes = escrows at entry
  generalize transactionsIs : Write.to .transactions writes = transactions at entry member
  cases entry with
  | created =>
    cases List.mem_singleton.mp member
    exact .opened List.mem_cons_self
  | @locked req reserved result first reply old transactions valid fresh owner stored booked =>
    cases booked with
    | missed => cases member
    | @row row now _ storedRow =>
      cases List.mem_singleton.mp member
      rw [own.creation _ rfl, (knows.creation reserved rfl).transaction] at storedRow
      cases storedRow
      have createdCkb : reserved.created.rail = .ckb := ckb
      have sameEscrow : old = reserved.created := by
        have rows := knows.creation reserved rfl
        rw [rows.key, rows.escrow] at stored
        exact (Option.some.inj stored).symm
      subst sameEscrow
      refine .opened ?_
      simp only [transactionLockedBy, escrowLockedBy, confirmedForRail, createdCkb]
      split <;> simp
  | discarded _ transaction =>
    cases transaction with
    | row => cases List.mem_singleton.mp member
    | missed => cases member
  | fundedAlready => cases member
  | @funded req before current updated result reply _ _ seen owner unfunded verified moved booked =>
    obtain ⟨_, _, same⟩ := fundingMove_escrow initially knows holds.2 seen verified (escrowsIs ▸ moved)
    rcases fundingBooked_row initially knows holds (transactionsIs ▸ booked) with none |
      ⟨now, old, escrow, update, stored, _, held, locks⟩
    · rw [← transactionsIs, none] at member
      cases member
    · rw [← transactionsIs, update] at member
      cases List.mem_singleton.mp member
      have rail : escrow.rail = .ckb := locks.rail.symm.trans ckb
      have beforeRail := (congrArg EscrowTerms.rail held.1).symm.trans rail
      exact .funded beforeRail (same beforeRail) rfl
  | @reserved req operation =>
    cases List.mem_singleton.mp member
    exact absurd type (settlementType_ne_lock operation)
  | failed _ _ _ booked | settled _ _ _ _ booked =>
    cases booked with
    | missed => cases member
    | row _ found =>
      cases List.mem_singleton.mp member
      rw [own.settlement _ rfl, knows.settlement _ _ rfl] at found
      cases found
      exact absurd type (settlementType_ne_lock _)
  | @reconciled snapshot observation result transaction escrow reorg toStatus _ _ read moved booked =>
    cases booked with
    | missed => cases member
    | row _ stored =>
      cases List.mem_singleton.mp member
      obtain ⟨row, found, _, terms, hash⟩ := knows.snapshot snapshot rfl
      rw [stored] at found
      cases found
      exact .reconciled ((congrArg TransactionTerms.type terms).symm.trans type) hash rfl
  | aside => cases member

theorem entry_escrow (initially : Initially custody id phase start) (holds : custody.holds db)
    (knows : Knows id phase db)
    (entry : Entry custody.holds (Keeping id) start db phase next (Write.to .escrows writes)
      (Write.to .transactions writes)) {new : Escrow} (written : .escrow new ∈ writes) (ckb : new.rail = .ckb) :
    EscrowWritten db phase new := by
  have member : Write.escrow new ∈ Write.to .escrows writes := written_to written rfl
  generalize escrowsIs : Write.to .escrows writes = escrows at entry member
  generalize transactionsIs : Write.to .transactions writes = transactions at entry
  cases entry with
  | created =>
    cases List.mem_singleton.mp member
    exact .opened List.mem_cons_self
  | @locked req reserved result first reply old transactions valid =>
    cases List.mem_singleton.mp member
    have status : result.status ∈ [EscrowStatus.awaitingFunding, .reconciliationRequired, .failed] := by
      simpa [canTransitionEscrow] using valid
    exact .opened (List.mem_cons_of_mem _ status)
  | discarded escrow =>
    cases escrow with
    | row => cases List.mem_singleton.mp member
    | missed => cases member
  | fundedAlready => cases member
  | @funded req before current updated result reply _ _ seen owner unfunded verified moved booked =>
    obtain ⟨_, _, same⟩ := fundingMove_escrow initially knows holds.2 seen verified (escrowsIs ▸ moved)
    cases moved with
    | stays => cases member
    | @moves old valid status owner stored =>
      cases List.mem_singleton.mp member
      obtain ⟨now, _, found, held, _⟩ := (knows.subject _ rfl).lock holds.2
      rw [stored] at found
      cases found
      have rail := (congrArg EscrowTerms.rail held.1).symm.trans ckb
      exact .funded rail (same rail) verified rfl
  | @reserved req operation escrowId seen old funded owner stored =>
    cases List.mem_singleton.mp member
    have key : old.id = escrowId := Table.key_of_get stored
    have storedOld : db.escrows.get old.id = some old := key.symm ▸ stored
    exact @EscrowWritten.settling db _ operation old _ storedOld ckb rfl (.inl funded) List.mem_cons_self
  | failed =>
    cases List.mem_singleton.mp member
    exact .opened (by simp)
  | @settled req operation reserved result first reply old nextStatus _ nextIs pending owner stored =>
    cases List.mem_singleton.mp member
    have key : old.id = reserved.pending.id := Table.key_of_get stored
    have storedOld : db.escrows.get (escrowSettledBy operation nextStatus result.txHash old).id = some old := by
      rw [escrowSettledBy_id, key]
      exact stored
    have reached := settlementNextStatus_mem operation old result.status
    rw [← nextIs] at reached
    cases operation <;> exact .settling storedOld ckb rfl (.inr pending) reached
  | @reconciled snapshot observation result transaction escrow reorg toStatus _ _ read moved booked =>
    cases moved with
    | stays => cases member
    | @moves old different valid status owner stored =>
      cases List.mem_singleton.mp member
      have key : old.id = snapshot.escrow.id := Table.key_of_get stored
      have storedOld : db.escrows.get old.id = some old := key.symm ▸ stored
      have type : transaction.type = snapshot.transaction.type :=
        congrArg TransactionTerms.type (read_terms initially read.readTransaction)
      have statusIs := read.toStatusIs
      rw [type, ← status] at statusIs
      exact @EscrowWritten.reconciled db snapshot observation old _ reorg storedOld ckb key rfl
        (status ▸ different) statusIs
  | aside => cases member

end Written

/-- The node has reported this observation of the transaction to the process. -/
def Observed (settings : Settings) (id : Nat) (env : Env) (txHash : String) (answers : ObserveAnswers)
    (observation : Observation) : Prop :=
  .observed id txHash answers ∈ env.reports ∧
    observeTransaction settings.railConfig.confirmations answers = .ok observation

/-- The status of a funding that was verified with this observation. -/
def fundingStatus (observed : ObservationStatus) : EscrowStatus :=
  if observed = .confirmed then .funded else .fundingDetected

/-- The observation behind the second transaction of a funding or of a reconciliation.
What verifies a funding is trusted. -/
def Told (settings : Settings) (trusted : ObserveAnswers → Prop) (id : Nat) (env : Env) : Phase → Prop
  | .finalizingFunding _ before result => before.rail = .ckb → ∃ txHash answers observation,
      before.lockTxHash = some txHash ∧ Observed settings id env txHash answers observation ∧
        result.status = fundingStatus observation.status ∧ trusted answers
  | .reconciling snapshot observation => ∃ answers, Observed settings id env snapshot.txHash answers observation
  | _ => True

/-- The verification of a funding on the chain goes through with an answer that is trusted. -/
def verifiedBy (settings : Settings) (trusted : ObserveAnswers → Prop) (state : State) (action : Action) : Prop :=
  ∀ id answers req before txHash result, action = .outside id (.verify answers) →
    state.processes id = some ⟨.funding req before txHash, none, true⟩ →
    markFundedCkb settings before txHash answers = .ok result → trusted answers.observe

section Told
variable {settings : Settings} {trusted : ObserveAnswers → Prop} {id : Nat} {env after : Env} {phase next : Phase}

theorem Told.later (told : Told settings trusted id env phase) (grows : env.reports ⊆ after.reports) :
    Told settings trusted id after phase := by
  cases phase with
  | finalizingFunding req before result =>
    intro ckb
    obtain ⟨txHash, answers, observation, hash, ⟨member, observed⟩, status, trust⟩ := told ckb
    exact ⟨txHash, answers, observation, hash, ⟨grows member, observed⟩, status, trust⟩
  | reconciling snapshot observation =>
    obtain ⟨answers, member, observed⟩ := told
    exact ⟨answers, grows member, observed⟩
  | _ => trivial

theorem told_idle (idle : phase.Idle) : Told settings trusted id env phase := by
  obtain ⟨_, subject⟩ := idle
  cases phase <;> trivial

theorem told_caught (phase : Phase) (error : Failure) : Told settings trusted id env (caught phase error) := by
  rcases caught_cases phase error with idle | ⟨_, _, _, rfl, same⟩ | ⟨_, _, _, _, rfl, same⟩
  · exact told_idle idle
  · rw [same]
    trivial
  · rw [same]
    trivial

/-- Reports are never taken back. -/
theorem outside_reports {external : External} (taken : outside settings env id phase external = some (after, next)) :
    env.reports <+: after.reports := by
  cases phase <;> cases external <;> try (cases taken; done)
  case locking.localRail | funding.localRail | settling.localRail =>
    simp only [outside] at taken
    split at taken
    next => cases taken
    next => cases taken; exact List.prefix_refl _
  case locking.sign | settling.sign =>
    simp only [outside] at taken
    split at taken
    next => cases taken
    next => split at taken <;> (cases taken; exact List.prefix_refl _)
  case funding.verify =>
    simp only [outside] at taken
    split at taken
    next => cases taken
    next => split at taken <;> (cases taken; exact List.prefix_append _ _)
  case observing.observe =>
    simp only [outside] at taken
    split at taken <;> (cases taken; exact List.prefix_append _ _)
  all_goals
    simp only [outside, Option.some.injEq, Prod.mk.injEq] at taken
    obtain ⟨rfl, _⟩ := taken
    exact List.prefix_refl env.reports

/-- A verified funding carries the observation that it was verified with. -/
theorem checkFundingStatus_ok {escrow : Escrow} {answers : VerifyAnswers} {result : EscrowAdapterResult}
    (checked : checkFundingStatus settings escrow answers = .ok result) : ∃ txHash observation,
      escrow.lockTxHash = some txHash ∧
      observeTransaction settings.railConfig.confirmations answers.observe = .ok observation ∧
      result.status = fundingStatus observation.status ∧ result.txHash = some txHash := by
  obtain ⟨_, _, checked⟩ := Guard.bind_ok_iff.mp checked
  obtain ⟨context, complete, checked⟩ := Guard.bind_ok_iff.mp checked
  obtain ⟨observation, verified, checked⟩ := Guard.bind_ok_iff.mp checked
  cases checked
  obtain ⟨response, _, verified⟩ := Guard.bind_ok_iff.mp verified
  split at verified
  next => cases verified
  next =>
    obtain ⟨_, _, observed⟩ := Guard.bind_ok_iff.mp verified
    exact ⟨_, observation, (requiredContext_ok complete).1, observed, rfl, rfl⟩

theorem observeSnapshot_ok {snapshot : Snapshot} {answers : ObserveAnswers} {verification : VerifyAnswers}
    {observation : Observation} (observed : observeSnapshot settings snapshot answers verification = .ok observation) :
    observeTransaction settings.railConfig.confirmations answers = .ok observation := by
  obtain ⟨found, first, rest⟩ := Guard.bind_ok_iff.mp observed
  have same : found = observation := by
    split at rest
    next =>
      split at rest
      all_goals
        obtain ⟨_, _, returned⟩ := Guard.bind_ok_iff.mp rest
        exact Guard.pure_ok_iff.mp returned
    next => exact Guard.pure_ok_iff.mp rest
  exact same ▸ first

theorem told_outside {external : External} (taken : outside settings env id phase external = some (after, next))
    (trust : ∀ answers req before txHash result, external = .verify answers → phase = .funding req before txHash →
      markFundedCkb settings before txHash answers = .ok result → trusted answers.observe) :
    Told settings trusted id after next := by
  cases phase <;> cases external <;> try (cases taken; done)
  case funding.localRail =>
    simp only [outside] at taken
    split at taken
    next => cases taken
    next other => cases taken; exact fun ckb => absurd ckb other
  case locking.localRail | settling.localRail =>
    simp only [outside] at taken
    split at taken
    next => cases taken
    next => cases taken; trivial
  case locking.sign | settling.sign =>
    simp only [outside] at taken
    split at taken
    next => cases taken
    next => split at taken <;> (cases taken; trivial)
  case funding.verify req before hint answers =>
    simp only [outside] at taken
    split at taken
    next => cases taken
    next =>
      split at taken
      next result marked =>
        cases taken
        intro _
        obtain ⟨txHash, observation, hash, observed, status, _⟩ := checkFundingStatus_ok (markFundedCkb_ok marked)
        refine ⟨txHash, answers.observe, observation, hash, ⟨?_, observed⟩, status,
          trust answers req before hint result rfl rfl marked⟩
        rw [hash]
        simp [Env.report, verifyReports]
      next => cases taken; trivial
  case observing.observe snapshot answers verification =>
    simp only [outside] at taken
    split at taken
    next observation passed =>
      cases taken
      refine ⟨answers, ?_, observeSnapshot_ok passed⟩
      simp [Env.report]
    next => cases taken; trivial
  all_goals
    simp only [outside, Option.some.injEq, Prod.mk.injEq] at taken
    rw [← taken.2]
    trivial

theorem commits_told {claims : Assertions Db Query Phase Env} {writes : List Write} {db : Db}
    (commits : Commits (app settings) claims id phase next writes db) : Told settings trusted id env next := by
  by_cases opening : phase.isOpening = true
  · obtain ⟨program, start, last, runs, _, outcome, later⟩ := commits
    cases phase with
    | creating | settlementReserving | loading =>
      cases runs
      obtain ⟨_, _, _, rfl, _⟩ := outcome_bind.mp outcome
      trivial
    | fundingReserving req escrowId txHash =>
      cases runs
      obtain ⟨before, _, _, rfl, _⟩ := outcome_bind.mp outcome
      split <;> trivial
    | _ => cases opening
  · exact told_idle (commits_idle (by simpa using opening) commits)

/-- What the processes were told, on top of custody. -/
def told (settings : Settings) (trusted : ObserveAnswers → Prop) : Assertions Db Query Phase Env :=
  custody.extend (fun _ => True) (fun id env phase _ => Told settings trusted id env phase) (fun _ _ _ => True)
    (fun _ _ => trivial) (fun _ _ _ _ _ _ => trivial)

theorem told_preserved : Preserved (app settings) (told settings trusted) (verifiedBy settings trusted) := by
  apply custody_preserved.extend
  case implies => intros; trivial
  case arrive => exact fun id request env db => told_idle (idle_arrival request)
  case caught => exact fun id env phase db error _ => told_caught phase error
  case outside =>
    intro state id phase external env next met _ _ here _ _ taken
    refine ⟨told_outside taken ?_, fun _ _ _ known => known.later (outside_reports taken).subset⟩
    rintro answers req before txHash result rfl rfl marked
    exact met id answers req before txHash result rfl here marked
  case commit =>
    intro state id phase next log writes _ _ _ _ _ _ commits _
    exact ⟨trivial, commits_told commits, fun _ _ _ _ _ _ known => ⟨known, trivial⟩⟩

end Told

section Detected
variable {settings : Settings} {id : Nat} {env : Env} {phase next : Phase} {writes : List Write} {db start : Db}

/-- The answer places the transaction in a block. -/
def InBlock (answers : ObserveAnswers) : Prop :=
  ∃ response blockNumber, answers.transaction = .ok (some response) ∧ response.status = .committed ∧
    present response.blockNumber = some blockNumber

theorem observe_inBlock {confirmations : Nat} {answers : ObserveAnswers} {observation : Observation}
    (observed : observeTransaction confirmations answers = .ok observation)
    (status : observation.status = .committed ∨ observation.status = .confirmed) : InBlock answers := by
  obtain ⟨response, given, rest⟩ := Guard.bind_ok_iff.mp observed
  cases response with
  | none =>
    cases rest
    simp at status
  | some response =>
    dsimp only at rest
    split at rest
    next =>
      split at rest
      next =>
        obtain ⟨_, _, rest⟩ := Guard.bind_ok_iff.mp rest
        cases rest
        simp at status
      next =>
        cases rest
        simp at status
    next =>
      split at rest
      next number committed placed => exact ⟨response, number, given, committed, placed⟩
      next =>
        cases rest
        simp at status

/-- The node has reported the transaction in a block to the process. -/
def BlockReported (id : Nat) (env : Env) (txHash : String) : Prop :=
  ∃ answers, .observed id txHash answers ∈ env.reports ∧ InBlock answers

theorem Observed.inBlock {txHash : String} {answers : ObserveAnswers} {observation : Observation}
    (observed : Observed settings id env txHash answers observation)
    (status : observation.status = .committed ∨ observation.status = .confirmed) : BlockReported id env txHash :=
  ⟨answers, observed.1, observe_inBlock observed.2 status⟩

/-- The lock that a reconciliation works on. -/
theorem snapshot_lock {snapshot : Snapshot} {observation : Observation} (holds : custody.holds db)
    (belongs : snapshot.transaction.escrowId = some snapshot.escrow.id) (type : snapshot.transaction.type = .lock)
    (knows : Knows id (.reconciling snapshot observation) db) : ∃ escrow,
      db.escrows.get snapshot.escrow.id = some escrow ∧ escrow.rail = .ckb ∧
        escrow.lockTxHash = some snapshot.txHash := by
  obtain ⟨row, stored, ckb, terms, hash⟩ := knows.snapshot snapshot rfl
  obtain ⟨_, escrow, there, _⟩ := knows.subject snapshot.escrow rfl
  have rowType : row.type = .lock := (congrArg TransactionTerms.type terms).trans type
  obtain ⟨_, owner, key, found, locks⟩ := holds.2.owner holds.1.typed (Table.mem_of_get stored) rowType
  have scope : row.escrowId = some snapshot.escrow.id := (congrArg TransactionTerms.escrowId terms).trans belongs
  have same : owner.id = snapshot.escrow.id := Option.some.inj (locks.belongs.symm.trans scope)
  rw [← key, same, there] at found
  cases found
  have rail : escrow.rail = .ckb := locks.rail.symm.trans ckb
  exact ⟨escrow, there, rail, (locks.sameHash rail).symm.trans hash⟩

/-- Only a lock in a block leads to the detection of a funding. -/
theorem reconciliation_detects {type : TransactionType} {fromStatus : EscrowStatus} {observed : ObservationStatus}
    {reorg : Bool} (moves : reconciliationEscrowStatus type fromStatus observed reorg ≠ fromStatus)
    (detected : reconciliationEscrowStatus type fromStatus observed reorg = .fundingDetected) :
    type = .lock ∧ observed = .committed := by
  unfold reconciliationEscrowStatus at moves detected
  cases type <;> cases observed <;> cases reorg <;> simp at moves detected ⊢ <;> split at detected <;> simp_all

/-- An escrow that a commit moves to the detection of its funding. -/
theorem written_detected (holds : custody.holds db)
    (belongs : ∀ snapshot, phase.cargo = .snapshot snapshot →
      snapshot.transaction.escrowId = some snapshot.escrow.id)
    (knows : Knows id phase db) (told : Told settings InBlock id env phase) {new : Escrow}
    (written : EscrowWritten db phase new) (detected : new.status = .fundingDetected) :
    ∃ txHash, new.lockTxHash = some txHash ∧ BlockReported id env txHash := by
  cases written with
  | opened status => simp [detected] at status
  | funded ckb hash verified status =>
    obtain ⟨txHash, answers, observation, lockHash, observed, _, trust⟩ := told ckb
    exact ⟨txHash, hash.trans lockHash, answers, observed.1, trust⟩
  | @settling _ operation _ _ stored ckb hash before status =>
    rw [detected] at status
    cases operation <;> simp [settlementPendingStatus, settlementTerminalStatus] at status
  | @reconciled snapshot observation old _ reorg stored ckb key hash moves status =>
    obtain ⟨lock, committed⟩ := reconciliation_detects (status ▸ moves) (status.symm.trans detected)
    obtain ⟨there, found, _, lockHash⟩ := snapshot_lock holds (belongs snapshot rfl) lock knows
    rw [← key, stored] at found
    cases found
    obtain ⟨answers, observed⟩ := told
    exact ⟨_, hash.symm.trans lockHash, observed.inBlock (.inl committed)⟩

/-- A lock transaction that a commit puts into a block. -/
theorem written_committed (told : Told settings InBlock id env phase) {new : Transaction}
    (written : LockWritten phase new) (committed : new.status = .committed) :
    ∃ txHash, new.txHash = some txHash ∧ BlockReported id env txHash := by
  cases written with
  | opened status => simp [committed] at status
  | funded ckb hash status =>
    obtain ⟨txHash, answers, observation, lockHash, observed, _, trust⟩ := told ckb
    exact ⟨txHash, hash.trans lockHash, answers, observed.1, trust⟩
  | @reconciled snapshot observation _ reorg lock hash status =>
    have cause : observation.status = .committed := by
      rw [committed] at status
      unfold reconciledTransactionStatus at status
      cases reorg <;> cases observed : observation.status <;> simp [observed] at status ⊢
    obtain ⟨answers, observed⟩ := told
    exact ⟨_, hash, observed.inBlock (.inl cause)⟩

end Detected

section Answers
variable {txHash : String} {id : Nat}

/-- The answers about a transaction, with the processes that got them, in their order. -/
def answersAbout (txHash : String) (reports : List Report) : List (Nat × ObserveAnswers) :=
  reports.filterMap fun report =>
    match report with
    | .observed id hash answers => if hash = txHash then some (id, answers) else none
    | .fetched _ _ _ => none

theorem answersAbout_append (first second : List Report) :
    answersAbout txHash (first ++ second) = answersAbout txHash first ++ answersAbout txHash second :=
  List.filterMap_append ..

theorem mem_answersAbout {reports : List Report} {answers : ObserveAnswers} :
    (id, answers) ∈ answersAbout txHash reports ↔ .observed id txHash answers ∈ reports := by
  unfold answersAbout
  rw [List.mem_filterMap]
  constructor
  · rintro ⟨report, member, found⟩
    cases report with
    | observed other hash given =>
      dsimp only at found
      split at found
      next same =>
        cases found
        exact same ▸ member
      next => cases found
    | fetched => cases found
  · intro member
    exact ⟨_, member, if_pos rfl⟩

end Answers

section Scenario

/-- How far a reconciliation is. -/
inductive Stage where
  | observing (type : TransactionType)
  | reconciling (type : TransactionType) (txHash : String) (status : ObservationStatus)
  | reconciled
  | failed (code : String)
  | elsewhere
  deriving DecidableEq

def stage (state : State) (id : Nat) : Stage :=
  match state.processes id with
  | some ⟨.observing snapshot, none, true⟩ => .observing snapshot.transaction.type
  | some ⟨.reconciling snapshot observation, none, true⟩ =>
      .reconciling snapshot.transaction.type snapshot.txHash observation.status
  | some ⟨.reconciled _, none, true⟩ => .reconciled
  | some ⟨.failed (.app error), none, true⟩ => .failed error.code
  | _ => .elsewhere

/-- The test that `InBlock` states. -/
def inBlock (answers : ObserveAnswers) : Bool :=
  match answers.transaction with
  | .ok (some response) => response.status = .committed && (present response.blockNumber).isSome
  | _ => false

theorem inBlock_iff (answers : ObserveAnswers) : inBlock answers = true ↔ InBlock answers := by
  unfold inBlock InBlock
  constructor
  · intro test
    split at test
    next response given =>
      simp only [Bool.and_eq_true, decide_eq_true_eq, Option.isSome_iff_exists] at test
      obtain ⟨committed, number, placed⟩ := test
      exact ⟨response, number, given, committed, placed⟩
    next => cases test
  · rintro ⟨response, number, given, committed, placed⟩
    simp [given, committed, placed]

def blockReport : Report → Bool
  | .observed _ _ answers => inBlock answers
  | .fetched .. => false

def observedStatus (settings : Settings) (answers : ObserveAnswers) : Option ObservationStatus :=
  (observeTransaction settings.railConfig.confirmations answers).toOption.map (·.status)

/-- What can be seen of the escrow of `opening`, of its lock and of the requests about them. -/
structure LockView where
  escrow : Option (Rail × Option String × EscrowStatus)
  lock : Option (TransactionType × Rail × Option String × TransactionStatus)
  stages : List Stage
  answers : List (Option ObservationStatus)
  inBlock : Bool
  deriving DecidableEq

def lockView (state : State) : LockView where
  escrow := (state.db.escrows.get ⟨4, 0⟩).map fun row => (row.rail, row.lockTxHash, row.status)
  lock := (state.db.transactions.get ⟨4, 1⟩).map fun row => (row.type, row.rail, row.txHash, row.status)
  stages := [6, 7, 8].map (stage state)
  answers := (answersAbout lockHash state.env.reports).map fun answer => observedStatus testnet answer.2
  inBlock := state.env.reports.any blockReport

def seen (escrow : EscrowStatus) (lock : TransactionStatus) (stages : List Stage)
    (answers : List ObservationStatus) (inBlock : Bool) : LockView :=
  ⟨some (.ckb, some lockHash, escrow), some (.lock, .ckb, some lockHash, lock), stages, answers.map some, inBlock⟩

section Seen
variable {state : State} {escrow : EscrowStatus} {lock : TransactionStatus} {stages : List Stage}
variable {answers : List ObservationStatus} {reported : Bool}

theorem seen_escrow (view : lockView state = seen escrow lock stages answers reported) : ∃ row,
    state.db.escrows.get ⟨4, 0⟩ = some row ∧ row.rail = .ckb ∧ row.lockTxHash = some lockHash ∧ row.status = escrow := by
  obtain ⟨row, stored, same⟩ := Option.map_eq_some_iff.mp (congrArg LockView.escrow view)
  simp only [Prod.mk.injEq] at same
  exact ⟨row, stored, same⟩

theorem seen_lock (view : lockView state = seen escrow lock stages answers reported) : ∃ row,
    state.db.transactions.get ⟨4, 1⟩ = some row ∧ row.type = .lock ∧ row.rail = .ckb ∧ row.txHash = some lockHash ∧
      row.status = lock := by
  obtain ⟨row, stored, same⟩ := Option.map_eq_some_iff.mp (congrArg LockView.lock view)
  simp only [Prod.mk.injEq] at same
  exact ⟨row, stored, same⟩

theorem seen_observing {type : TransactionType} {id : Nat} (found : stage state id = .observing type) :
    ∃ snapshot, state.processes id = some ⟨.observing snapshot, none, true⟩ := by
  unfold stage at found
  split at found
  next snapshot here => exact ⟨snapshot, here⟩
  all_goals cases found

theorem seen_reconciling {type : TransactionType} {txHash : String} {status : ObservationStatus} {id : Nat}
    (found : stage state id = .reconciling type txHash status) : ∃ snapshot observation,
    state.processes id = some ⟨.reconciling snapshot observation, none, true⟩ ∧ snapshot.transaction.type = type ∧
      snapshot.txHash = txHash ∧ observation.status = status := by
  unfold stage at found
  split at found
  case h_2 snapshot observation here =>
    simp only [Stage.reconciling.injEq] at found
    exact ⟨snapshot, observation, here, found⟩
  all_goals cases found

theorem seen_reconciled {id : Nat} (found : stage state id = .reconciled) :
    ∃ result, state.processes id = some ⟨.reconciled result, none, true⟩ := by
  unfold stage at found
  split at found
  case h_3 result here => exact ⟨result, here⟩
  all_goals cases found

theorem seen_failed {code : String} {id : Nat} (found : stage state id = .failed code) :
    ∃ error, state.processes id = some ⟨.failed (.app error), none, true⟩ ∧ error.code = code := by
  unfold stage at found
  split at found
  case h_4 error here =>
    simp only [Stage.failed.injEq] at found
    exact ⟨error, here, found⟩
  all_goals cases found

/-- The stages of the processes 6, 7 and 8. -/
theorem seen_stages {sixth seventh eighth : Stage}
    (view : lockView state = seen escrow lock [sixth, seventh, eighth] answers reported) :
    stage state 7 = seventh ∧ stage state 8 = eighth := by
  have stages := congrArg LockView.stages view
  simp only [lockView, seen, List.map_cons, List.map_nil, List.cons.injEq] at stages
  exact ⟨stages.2.1, stages.2.2.1⟩

theorem unreported (view : lockView state = seen escrow lock stages answers false) (id : Nat) (txHash : String) :
    ¬BlockReported id state.env txHash := by
  rintro ⟨given, reported, block⟩
  have none : state.env.reports.any blockReport = false := congrArg LockView.inBlock view
  have test := List.any_eq_false.mp none _ reported
  exact test ((inBlock_iff given).mpr block)

end Seen

/-- Funding while the transaction is in the pool. -/
def poolFunding : List (List Action) := [markFunded 5 pooled ++ pending 5 6, [.finish 5]]

def poolViews : List LockView :=
  [seen .awaitingFunding .broadcast [.elsewhere, .elsewhere, .elsewhere] [.pending] false,
    seen .fundingDetected .committed [.elsewhere, .elsewhere, .elsewhere] [.pending] false]

/-- Funding in a block, and the lock observed again while the escrow is to be refunded. -/
def blockFunding : List (List Action) :=
  [markFunded 5 mined ++ pending 5 12, [.finish 5],
    reserveMock 6 .refund ⟨4, 0⟩ 6 ++ load 7 ++ observe 7 mined, transact 7 2]

def blockViews : List LockView :=
  [seen .awaitingFunding .broadcast [.elsewhere, .elsewhere, .elsewhere] [.confirmed] true,
    seen .funded .confirmed [.elsewhere, .elsewhere, .elsewhere] [.confirmed] true,
    seen .refundPending .confirmed [.elsewhere, .reconciling .lock lockHash .confirmed, .elsewhere]
      [.confirmed, .confirmed, .confirmed] true,
    seen .refundPending .confirmed [.elsewhere, .failed "invalid_state_transition", .elsewhere]
      [.confirmed, .confirmed, .confirmed] true]

/-- The lock out of sight, first without a response, then with one. -/
def lostLock : List (List Action) :=
  [load 7, observe 7 (answering none), transact 7 5, load 8, observe 8 unheard, transact 8 5]

def lostViews : List LockView :=
  [seen .awaitingFunding .broadcast [.elsewhere, .observing .lock, .elsewhere] [] false,
    seen .awaitingFunding .broadcast [.elsewhere, .reconciling .lock lockHash .unknown, .elsewhere] [.unknown] false,
    seen .reconciliationRequired .reconciliationRequired [.elsewhere, .reconciled, .elsewhere] [.unknown] false,
    seen .reconciliationRequired .reconciliationRequired [.elsewhere, .reconciled, .observing .lock] [.unknown] false,
    seen .reconciliationRequired .reconciliationRequired
      [.elsewhere, .reconciled, .reconciling .lock lockHash .pending] [.unknown, .pending] false,
    seen .awaitingFunding .pending [.elsewhere, .reconciled, .reconciled] [.unknown, .pending] false]

/-- A reconciliation that commits after a later one. -/
def overtaking : List (List Action) :=
  [load 7 ++ observe 7 pooled, load 8 ++ observe 8 mined ++ transact 8 11, transact 7 5]

def overtakingViews : List LockView :=
  [seen .awaitingFunding .broadcast [.elsewhere, .reconciling .lock lockHash .pending, .elsewhere] [.pending] false,
    seen .funded .confirmed [.elsewhere, .reconciling .lock lockHash .pending, .reconciled]
      [.pending, .confirmed, .confirmed] true,
    seen .reconciliationRequired .reorged [.elsewhere, .reconciled, .reconciled] [.pending, .confirmed, .confirmed] true]

def firstObservation : List (List Action) := [load 7 ++ observe 7 pooled ++ transact 7 4]

def firstViews : List LockView :=
  [seen .awaitingFunding .pending [.elsewhere, .reconciled, .elsewhere] [.pending] false]

def openingTraces (opened : State) : List (List LockView) :=
  [poolFunding, blockFunding, lostLock, overtaking, firstObservation].map (trace (step testnet) lockView opened)

/-- The runs above, in one evaluation of `opening`. -/
theorem opening_evaluated : (run (step testnet) initial opening).map openingTraces =
    some [poolViews, blockViews, lostViews, overtakingViews, firstViews] := by
  have traces : openingTraces = fun opened =>
      [poolFunding, blockFunding, lostLock, overtaking, firstObservation].map (trace quickStep lockView opened) := by
    unfold openingTraces
    rw [quickStep_eq]
  rw [quickStep_eq, traces]
  decide +kernel

theorem opening_traces : ∃ opened, run (step testnet) initial opening = some opened ∧
    trace (step testnet) lockView opened poolFunding = poolViews ∧
    trace (step testnet) lockView opened blockFunding = blockViews ∧
    trace (step testnet) lockView opened lostLock = lostViews ∧
    trace (step testnet) lockView opened overtaking = overtakingViews ∧
    trace (step testnet) lockView opened firstObservation = firstViews := by
  obtain ⟨opened, reached, traces⟩ := Option.map_eq_some_iff.mp opening_evaluated
  simp only [openingTraces, List.map_cons, List.map_nil, List.cons.injEq, and_true] at traces
  exact ⟨opened, reached, traces⟩

end Scenario

section Runs
variable {settings : Settings}

/-- Where every funding on the chain is verified in a block, its detection and the commitment
of a lock rest on the node having reported the lock in a block. -/
theorem funding_reported {actions : List Action} {action : Action} {state after : State}
    (met : AlongRun (step settings) (verifiedBy settings InBlock) initial actions)
    (reached : run (step settings) initial actions = some state) (taken : step settings state action = some after) :
    (∀ new ∈ after.db.escrows, new.rail = .ckb → new.status = .fundingDetected →
      (∃ old, state.db.escrows.get new.id = some old ∧ old.status = .fundingDetected) ∨
        ∃ txHash, new.lockTxHash = some txHash ∧ BlockReported action.process state.env txHash) ∧
    ∀ new ∈ after.db.transactions, new.type = .lock → new.rail = .ckb → new.status = .committed →
      (∃ old, state.db.transactions.get new.id = some old ∧ old.status = .committed) ∨
        ∃ txHash, new.txHash = some txHash ∧ BlockReported action.process state.env txHash := by
  have sound : Sound (app settings) (told settings InBlock) state :=
    Sound.run told_preserved ⟨custody_empty, trivial⟩ actions met reached
  rw [step_db taken]
  cases sound.committed action with
  | inl none =>
    rw [none]
    exact ⟨fun new member _ status => .inl ⟨new, Table.get_of_mem member, status⟩,
      fun new member _ _ status => .inl ⟨new, Table.get_of_mem member, status⟩⟩
  | inr some =>
    obtain ⟨id, phase, next, log, writes, rfl, _, same, ⟨⟨ground, knows⟩, told⟩, commits⟩ := some
    rw [same]
    have holds := sound.holds.1
    obtain ⟨start, initially, _, entry⟩ := commits_entry keeping_keeps (fun _ _ keeping => keeping.1)
      (Commits.below commits)
    constructor
    · intro new member ckb detected
      rcases mem_view_escrows member with before | written
      · exact .inl ⟨new, Table.get_of_mem before, detected⟩
      · exact .inr (written_detected holds (fun snapshot found => (ground.2 snapshot found).belongs) knows told
          (entry_escrow initially holds knows entry written ckb) detected)
    · intro new member type ckb status
      rcases mem_view_transaction member with before | written
      · exact .inl ⟨new, Table.get_of_mem before, status⟩
      · exact .inr (written_committed told (entry_lock ground.1 initially holds knows entry written type ckb) status)

/-- A mark-funded request that finds the lock in the pool only. -/
theorem pooled_funding_detected : ∃ actions state after, run (step testnet) initial actions = some state ∧
    step testnet state (.finish 5) = some after ∧
    (∃ old new, state.db.escrows.get ⟨4, 0⟩ = some old ∧ after.db.escrows.get ⟨4, 0⟩ = some new ∧ new.rail = .ckb ∧
      old.status = .awaitingFunding ∧ new.status = .fundingDetected) ∧
    (∃ old new, state.db.transactions.get ⟨4, 1⟩ = some old ∧ after.db.transactions.get ⟨4, 1⟩ = some new ∧
      new.type = .lock ∧ new.rail = .ckb ∧ old.status = .broadcast ∧ new.status = .committed) ∧
    ∀ id txHash, ¬BlockReported id after.env txHash := by
  obtain ⟨opened, reached, traces, _⟩ := opening_traces
  obtain ⟨state, verified, before, traces⟩ := trace_cons traces
  obtain ⟨after, finished, behind, _⟩ := trace_cons traces
  obtain ⟨final, taken, ended⟩ := run_cons finished
  cases ended
  obtain ⟨oldEscrow, storedOldEscrow, _, _, oldEscrowStatus⟩ := seen_escrow before
  obtain ⟨newEscrow, storedNewEscrow, rail, _, newEscrowStatus⟩ := seen_escrow behind
  obtain ⟨oldLock, storedOldLock, _, _, _, oldLockStatus⟩ := seen_lock before
  obtain ⟨newLock, storedNewLock, type, lockRail, _, newLockStatus⟩ := seen_lock behind
  exact ⟨_, state, after, (run_append reached).trans verified, taken,
    ⟨oldEscrow, newEscrow, storedOldEscrow, storedNewEscrow, rail, oldEscrowStatus, newEscrowStatus⟩,
    ⟨oldLock, newLock, storedOldLock, storedNewLock, type, lockRail, oldLockStatus, newLockStatus⟩, unreported behind⟩

/-- Every verification in the script has the transaction in a block. -/
def verifiesInBlock : Action → Bool
  | .outside _ (.verify answers) => inBlock answers.observe
  | _ => true

/-- A mark-funded request that finds the lock in a block. -/
theorem mined_funding_reported : ∃ state after,
    run (step testnet) initial (opening ++ (markFunded 5 mined ++ pending 5 12)) = some state ∧
    step testnet state (.finish 5) = some after ∧
    (∀ new ∈ after.db.escrows, new.rail = .ckb → new.status = .fundingDetected →
      (∃ old, state.db.escrows.get new.id = some old ∧ old.status = .fundingDetected) ∨
        ∃ txHash, new.lockTxHash = some txHash ∧ BlockReported 5 state.env txHash) ∧
    ∀ new ∈ after.db.transactions, new.type = .lock → new.rail = .ckb → new.status = .committed →
      (∃ old, state.db.transactions.get new.id = some old ∧ old.status = .committed) ∨
        ∃ txHash, new.txHash = some txHash ∧ BlockReported 5 state.env txHash := by
  obtain ⟨opened, reached, _, traces, _⟩ := opening_traces
  obtain ⟨state, verified, _, traces⟩ := trace_cons traces
  obtain ⟨after, finished, _, _⟩ := trace_cons traces
  obtain ⟨final, taken, ended⟩ := run_cons finished
  cases ended
  have whole := (run_append reached).trans verified
  have tested : (opening ++ (markFunded 5 mined ++ pending 5 12)).all verifiesInBlock = true := by
    decide +kernel
  have met : AlongRun (step testnet) (verifiedBy testnet InBlock) initial
      (opening ++ (markFunded 5 mined ++ pending 5 12)) := by
    refine (alongRun_of_forall _ _ (List.all_eq_true.mp tested)).mono ?_
    rintro _ _ test id answers req before txHash result rfl _ _
    exact (inBlock_iff answers.observe).mp test
  exact ⟨state, after, whole, taken, funding_reported met whole taken⟩

end Runs

end PactAgent.Server
