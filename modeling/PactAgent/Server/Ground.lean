import PactAgent.Server.Effects

/-! The ground that claims about settlements stand on: every release and refund belongs
to an escrow that was locked, every escrow on its way to a settlement has the row of that
settlement, and a reconciliation works on a transaction and an escrow that it has read. -/

namespace PactAgent.Server
open PactAgent.Common PactAgent.Foundation PactAgent.Lifecycle PactAgent.Store PactAgent.Escrow
open PactAgent.Foundation.Execution PactAgent.Foundation.ReadCommitted
open PactAgent.Idempotency.Repository PactAgent.Rail.Builder PactAgent.Rail.Node PactAgent.Rail.Script

/-- What a phase carries from the transactions before it. -/
inductive Cargo where
  | none
  | creation (reserved : ReservedEscrowCreation)
  | settlement (operation : SettlementOperation) (reserved : ReservedEscrowSettlement)
  | snapshot (snapshot : Snapshot)

def Phase.cargo : Phase → Cargo
  | .locking _ reserved | .lockSigned _ reserved _ _ | .lockSent _ reserved _ _
  | .finalizingCreation _ reserved _ _ | .discarding _ reserved _ => .creation reserved
  | .settling _ operation reserved | .settlementSigned _ operation reserved _
  | .settlementSent _ operation reserved _ | .finalizingFailed _ operation reserved _
  | .finalizingSettlement _ operation reserved _ _ => .settlement operation reserved
  | .observing snapshot | .reconciling snapshot _ => .snapshot snapshot
  | _ => .none

/-- The escrow that a phase works on, as it was read. -/
def Phase.subject : Phase → Option Escrow
  | .funding _ before _ | .finalizingFunding _ before _ => some before
  | .settling _ _ reserved | .settlementSigned _ _ reserved _ | .settlementSent _ _ reserved _
  | .finalizingFailed _ _ reserved _ | .finalizingSettlement _ _ reserved _ _ => some reserved.pending
  | .observing snapshot | .reconciling snapshot _ => some snapshot.escrow
  | _ => none

/-- The phase stands at the start or at the end of the work of its request. -/
def Phase.Idle (phase : Phase) : Prop := phase.cargo = .none ∧ phase.subject = none

section Cargo
variable {settings : Settings} {req : RequestContext}

theorem idle_afterRace (error : Failure) : (afterRace req error).Idle := by
  unfold afterRace
  split <;> exact ⟨rfl, rfl⟩

theorem idle_fallback (fallback : Fallback) : (fallback.phase req).Idle := by
  cases fallback with
  | proceed call => cases call <;> exact ⟨rfl, rfl⟩
  | swallow error handler =>
    cases handler with
    | false => exact ⟨rfl, rfl⟩
    | true => exact idle_afterRace error
  | _ => exact ⟨rfl, rfl⟩

theorem idle_thrown (error : Failure) (fallback : Fallback) : (fallback.thrown req error).Idle := by
  cases fallback with
  | swallow first handler => exact idle_fallback _
  | _ => exact ⟨rfl, rfl⟩

theorem idle_replayPhase (fallback : Fallback) (row : Option (IdempotencyRow Reply)) :
    (replayPhase req fallback row).Idle := by
  cases row with
  | none => exact idle_fallback fallback
  | some row =>
    simp only [replayPhase]
    split
    next => exact idle_thrown _ _
    next =>
      split
      next => exact ⟨rfl, rfl⟩
      next => exact idle_thrown _ _

theorem idle_arrival {id : Nat} (request : Request) : (arrival id request).Idle := by
  cases request <;> exact ⟨rfl, rfl⟩

/-- A handler gives a finalization its second attempt, and ends the work of any other phase. -/
theorem caught_cases (phase : Phase) (error : Failure) : (caught phase error).Idle ∨
    (∃ req reserved result, phase = .finalizingCreation req reserved result none ∧
      caught phase error = .finalizingCreation req reserved result (some error)) ∨
    ∃ req operation reserved result, phase = .finalizingSettlement req operation reserved result none ∧
      caught phase error = .finalizingSettlement req operation reserved result (some error) := by
  cases phase with
  | replaying req stage fallback => exact .inl (idle_thrown error fallback)
  | reserving req operation | creating req input | fundingReserving req escrowId txHash
  | settlementReserving req operation escrowId => exact .inl (idle_afterRace error)
  | running req operation =>
    left
    simp only [caught]
    split <;> exact ⟨rfl, rfl⟩
  | finalizingCreation req reserved result first =>
    cases first with
    | none => exact .inr (.inl ⟨req, reserved, result, rfl, rfl⟩)
    | some error => exact .inl ⟨rfl, rfl⟩
  | finalizingSettlement req operation reserved result first =>
    cases first with
    | none => exact .inr (.inr ⟨req, operation, reserved, result, rfl, rfl⟩)
    | some error => exact .inl ⟨rfl, rfl⟩
  | _ => exact .inl ⟨rfl, rfl⟩

theorem cargo_caught (phase : Phase) (error : Failure) :
    (caught phase error).cargo = phase.cargo ∨ (caught phase error).cargo = .none := by
  rcases caught_cases phase error with idle | ⟨_, _, _, rfl, _⟩ | ⟨_, _, _, _, rfl, _⟩
  · exact .inr idle.1
  · exact .inl rfl
  · exact .inl rfl

/-- The rail answers about what a phase works on. -/
theorem outside_cases {phase next : Phase} {env after : Env} {id : Nat} {external : External}
    (taken : outside settings env id phase external = some (after, next)) :
    next.Idle ∨ (next.cargo = phase.cargo ∧ next.subject = phase.subject) := by
  cases phase <;> cases external <;> try (cases taken; done)
  case locking.localRail | funding.localRail | settling.localRail =>
    simp only [outside] at taken
    split at taken
    next => cases taken
    next => cases taken; exact .inr ⟨rfl, rfl⟩
  case locking.sign | settling.sign =>
    simp only [outside] at taken
    split at taken
    next => cases taken
    next => split at taken <;> (cases taken; exact .inr ⟨rfl, rfl⟩)
  case funding.verify =>
    simp only [outside] at taken
    split at taken
    next => cases taken
    next =>
      split at taken
      next => cases taken; exact .inr ⟨rfl, rfl⟩
      next => cases taken; exact .inl ⟨rfl, rfl⟩
  case observing.observe =>
    simp only [outside] at taken
    split at taken
    next => cases taken; exact .inr ⟨rfl, rfl⟩
    next => cases taken; exact .inl ⟨rfl, rfl⟩
  all_goals
    simp only [outside, Option.some.injEq, Prod.mk.injEq] at taken
    rw [← taken.2]
    exact .inr ⟨rfl, rfl⟩

theorem cargo_outside {phase next : Phase} {env after : Env} {id : Nat} {external : External}
    (taken : outside settings env id phase external = some (after, next)) :
    next.cargo = phase.cargo ∨ next.cargo = .none := by
  rcases outside_cases taken with idle | ⟨same, _⟩
  · exact .inr idle.1
  · exact .inl same

/-- The phases whose transaction leaves something to carry. -/
def Phase.isLoading : Phase → Bool
  | .creating _ _ | .settlementReserving _ _ _ | .loading _ => true
  | _ => false

/-- The phases whose transaction reads what the request works on. -/
def Phase.isOpening : Phase → Bool
  | .fundingReserving _ _ _ => true
  | phase => phase.isLoading

theorem idle_body {phase : Phase} {program : Tx Phase} (other : phase.isOpening = false)
    (runs : body settings phase = some program) : program.Returns Phase.Idle := by
  cases phase with
  | replaying req stage fallback =>
    cases runs
    cases stage with
    | find =>
      apply Program.returns_bind
      intro found
      dsimp only
      split
      next =>
        split
        next => exact ⟨rfl, rfl⟩
        next => exact idle_replayPhase _ _
      next => exact idle_replayPhase _ _
    | deleteExpired =>
      apply Program.returns_bind
      intro _
      exact ⟨rfl, rfl⟩
    | findAgain =>
      apply Program.returns_bind
      intro found
      exact idle_replayPhase _ _
  | running req operation =>
    cases runs
    apply Program.returns_bind
    intro data
    apply Program.returns_bind
    intro _
    exact ⟨rfl, rfl⟩
  | creating req input | settlementReserving req operation escrowId | loading transactionId
  | fundingReserving req escrowId txHash => cases other
  | reserving req operation | clearing req error | finalizingCreation req reserved result first
  | discarding req reserved error | finalizingFunding req before result
  | finalizingFailed req operation reserved error | finalizingSettlement req operation reserved result first
  | reconciling snapshot observation | cleaning appKey =>
    cases runs
    apply Program.returns_bind
    intro _
    exact ⟨rfl, rfl⟩
  | _ => cases runs

variable {claims : Assertions Db Query Phase Env} {id : Nat} {phase next : Phase} {writes : List Write} {db : Db}

theorem commits_idle (other : phase.isOpening = false)
    (commits : Commits (app settings) claims id phase next writes db) : next.Idle := by
  obtain ⟨program, start, last, runs, _, outcome, later⟩ := commits
  exact outcome.returns (idle_body other runs)

theorem commits_cargo (other : phase.isLoading = false)
    (commits : Commits (app settings) claims id phase next writes db) : next.cargo = .none := by
  cases phase with
  | fundingReserving req escrowId txHash =>
    obtain ⟨program, start, last, runs, _, outcome, later⟩ := commits
    cases runs
    obtain ⟨before, middle, outcome, rfl, rfl⟩ := outcome_bind.mp outcome
    split <;> rfl
  | _ =>
    refine (commits_idle ?_ commits).1
    exact other

end Cargo

section Reconciliation
variable {settings : Settings} {claims : Assertions Db Query Phase Env} {kept : Db → Db → Prop} {id : Nat}
variable {next : Phase} {writes : List Write} {db : Db} {snapshot : Snapshot}

theorem seen_key {Row : Type} [Keyed Row RowId] {table : Db → Foundation.Table Row} {good : Db → Prop} {key : RowId}
    {row : Row} (seen : Seen good kept db fun db => (table db).get key = some row) : Keyed.key row = key := by
  obtain ⟨_, _, _, stored⟩ := seen
  exact Table.key_of_get stored

/-- A reconciliation that committed: what it had read, and the one escrow and the one
transaction that it wrote, if any. -/
theorem reconciling_commits {observation : Observation}
    (keeps : Keeps (claims.rely id (.reconciling snapshot observation)) kept)
    (commits : Commits (app settings) claims id (.reconciling snapshot observation) next writes db) :
    ∃ (transaction : Transaction) (escrow : Escrow) (reorg : Bool) (toStatus : EscrowStatus),
      Seen claims.holds kept db (fun db => db.transactions.get snapshot.transaction.id = some transaction) ∧
      transaction.txHash.map toLowerCase = some (toLowerCase snapshot.txHash) ∧
      Seen claims.holds kept db (fun db => db.escrows.get snapshot.escrow.id = some escrow) ∧
      reorg = reorganised transaction.status escrow.status observation.status ∧
      toStatus = reconciliationEscrowStatus transaction.type escrow.status observation.status reorg ∧
      ((toStatus = escrow.status ∧ Write.to .escrows writes = []) ∨
        (toStatus ≠ escrow.status ∧ canTransitionEscrow escrow.status toStatus = true ∧ ∃ old : Escrow,
          old.status = escrow.status ∧ Write.to .escrows writes = [.escrow { old with status := toStatus }] ∧
          db.escrows.get snapshot.escrow.id = some old)) ∧
      (Write.to .transactions writes = [] ∨ ∃ old now, db.transactions.get snapshot.transaction.id = some old ∧
        Write.to .transactions writes = [.transaction (transactionReconciledBy transaction observation reorg now old)]) := by
  obtain ⟨program, start, last, runs, _, outcome, later⟩ := commits
  cases runs
  obtain ⟨result, middle, outcome, _, rfl⟩ := outcome_bind.mp outcome
  obtain ⟨transaction, escrow, updated, reorg, toStatus, seenTransaction, sameHash, seenEscrow, reorgIs, statusIs,
    written, _⟩ := reconcileTransaction_commits keeps outcome
  have ends : ∀ relation, Write.to relation writes = Write.to relation last.writes := by
    intro relation
    exact congrArg (Write.to relation) later.writes
  obtain ⟨moved, booked⟩ := written _ later.follows (later.keeps keeps)
  rw [← ends] at moved booked
  refine ⟨transaction, escrow, reorg, toStatus, seenTransaction.weaken.later keeps (later.keeps keeps), sameHash,
    seenEscrow.weaken.later keeps (later.keeps keeps), reorgIs, statusIs, ?_, ?_⟩
  · generalize Write.to .escrows writes = escrows at moved ⊢
    cases moved with
    | stays same => exact .inl ⟨same, rfl⟩
    | moves different valid status owner stored => exact .inr ⟨different, valid, _, status, rfl, stored⟩
  · generalize Write.to .transactions writes = transactions at booked ⊢
    cases booked with
    | row owner stored => exact .inr ⟨_, _, stored, rfl⟩
    | missed missing => exact .inl rfl

theorem loading_commits {transactionId : RowId} (keeps : Keeps (claims.rely id (.loading transactionId)) kept)
    (commits : Commits (app settings) claims id (.loading transactionId) next writes db) :
    ∃ snapshot, next = .observing snapshot ∧ snapshot.transaction.escrowId = some snapshot.escrow.id ∧
      snapshot.transaction.rail = .ckb ∧ snapshot.transaction.txHash = some snapshot.txHash ∧
      Seen (fun here => claims.holds here ∧ Seen claims.holds kept here
          fun db => db.transactions.get snapshot.transaction.id = some snapshot.transaction) kept db
        (fun db => db.escrows.get snapshot.escrow.id = some snapshot.escrow) := by
  obtain ⟨program, start, last, runs, _, outcome, later⟩ := commits
  cases runs
  obtain ⟨snapshot, middle, outcome, nextIs, rfl⟩ := outcome_bind.mp outcome
  obtain ⟨belongs, rail, hash, seen⟩ := loadSnapshot_commits keeps outcome
  exact ⟨snapshot, nextIs, belongs, rail, hash, seen.later keeps (later.keeps keeps)⟩

end Reconciliation

/-- The row of a settlement belongs to an escrow that was locked. -/
structure Backs (db : Db) (row : Transaction) (escrow : Escrow) : Prop where
  belongs : row.escrowId = some escrow.id
  stored : db.escrows.get escrow.id = some escrow
  created : escrow.status ≠ .notCreated
  app : row.appId = escrow.appId
  rail : row.rail = escrow.rail
  operation : row.operationId = some ⟨escrow.id, row.type⟩

structure Ground (db : Db) : Prop where
  typed : Typed db
  backed : ∀ row ∈ db.transactions, row.type ≠ .lock → ∃ escrow, Backs db row escrow
  reserved : ∀ escrow ∈ db.escrows, ∀ operation,
    escrow.status = settlementPendingStatus operation ∨ escrow.status = settlementTerminalStatus operation →
      ∃ row ∈ db.transactions, row.type = settlementType operation ∧ row.escrowId = some escrow.id

/-- What a reconciliation has read before it asked the node. -/
structure SnapshotSeen (good : Db → Prop) (kept : Db → Db → Prop) (snapshot : Snapshot) (db : Db) : Prop where
  belongs : snapshot.transaction.escrowId = some snapshot.escrow.id
  rail : snapshot.transaction.rail = .ckb
  txHash : snapshot.transaction.txHash = some snapshot.txHash
  transaction : Seen good kept db fun db => db.transactions.get snapshot.transaction.id = some snapshot.transaction
  escrow : Seen good kept db fun db => db.escrows.get snapshot.escrow.id = some snapshot.escrow

def ground : Assertions Db Query Phase Env where
  holds := Ground
  knows id _ phase db := phase.Owned id ∧
    ∀ snapshot, phase.cargo = .snapshot snapshot → SnapshotSeen Ground Steady snapshot db
  rely _ _ _ := Steady
  rely_refl _ _ _ := .refl
  rely_trans _ _ _ _ _ _ := .trans

section Ground
variable {settings : Settings} {id : Nat} {phase next : Phase} {writes : List Write} {db : Db}

theorem steady_keeps : Keeps (ground.rely id phase) Steady :=
  ⟨.refl, fun _ _ _ => .trans, fun _ _ _ steady => steady⟩

/-- A stored settlement stays with its escrow. -/
theorem Backs.later {row old : Transaction} {escrow : Escrow} {after : Db} (backs : Backs db old escrow)
    (steady : Steady db after) (terms : row.terms = old.terms) :
    ∃ new, Backs after row new ∧ new.terms = escrow.terms := by
  obtain ⟨new, found, sameTerms, stays⟩ := steady.escrows escrow.id escrow backs.stored backs.created
  have key : new.id = escrow.id := Table.key_of_get found
  have app : new.appId = escrow.appId := congrArg (fun terms => terms.scope.appId) sameTerms
  have rail : new.rail = escrow.rail := congrArg EscrowTerms.rail sameTerms
  have type : row.type = old.type := congrArg TransactionTerms.type terms
  refine ⟨new, ⟨?_, by rw [key]; exact found, stays.resolve_left backs.created, ?_, ?_, ?_⟩, sameTerms⟩
  · rw [key, ← backs.belongs]
    exact congrArg TransactionTerms.escrowId terms
  · rw [app, ← backs.app]
    exact congrArg TransactionTerms.appId terms
  · rw [rail, ← backs.rail]
    exact congrArg TransactionTerms.rail terms
  · rw [key, type, ← backs.operation]
    exact congrArg TransactionTerms.operationId terms

variable {claims : Assertions Db Query Phase Env}

/-- A settlement after a commit was there before, or the commit reserved it. -/
theorem commits_settlement (own : phase.Owned id)
    (commits : Commits (app settings) claims id phase next writes db) {row : Transaction}
    (member : row ∈ (Storage.view writes db).transactions) (settles : row.type ≠ .lock) :
    (∃ old ∈ db.transactions, old.id = row.id ∧ row.terms = old.terms) ∨
      ∃ (req : RequestContext) (operation : SettlementOperation) (old : Escrow),
        phase = .settlementReserving req operation old.id ∧ db.escrows.get old.id = some old ∧
        old.status = .funded ∧
        (Storage.view writes db).escrows.get old.id =
          some { old with status := settlementPendingStatus operation } ∧
        row = newTransaction ⟨req.request, 0⟩ { old with status := settlementPendingStatus operation }
          (settlementType operation) := by
  rcases commits_transactions own commits member with old | inserted
  · exact .inl old
  · cases phase with
    | settlementReserving req operation escrowId =>
      have keeps : Keeps (claims.rely id (.settlementReserving req operation escrowId)) fun _ _ => True :=
        ⟨fun _ => trivial, fun _ _ _ _ _ => trivial, fun _ _ _ _ => trivial⟩
      obtain ⟨_, old, appKey, keyRow, written, funded, _, stored, _⟩ := reserving_commits keeps commits
      have key : old.id = escrowId := Table.key_of_get stored
      have toTransactions : Write.to .transactions writes = [.transaction (newTransaction ⟨req.request, 0⟩
          { old with status := settlementPendingStatus operation } (settlementType operation))] := by
        rw [written]
        simp [Write.relation]
      have toEscrows : Write.to .escrows writes =
          [{ old with status := settlementPendingStatus operation }].map .escrow := by
        rw [written]
        simp [Write.relation]
      rcases (stored_transactions.mem_put toTransactions).mp member with same | ⟨before, _⟩
      · exact .inr ⟨req, operation, old, by rw [key], key ▸ stored, funded,
          stored_escrows.get_last toEscrows rfl db, same⟩
      · exact .inl ⟨row, before, rfl, rfl⟩
    | creating req input =>
      exact absurd (List.mem_singleton.mp inserted) settles
    | _ =>
      revert inserted
      simp [Phase.effect, creationEffect, fundingEffect, failureEffect, settlementEffect, reconciliationEffect,
        Effect.none]

/-- The row of a settlement stays under its terms. -/
theorem Ground.lasts {after : Db} (holds : Ground db) (steady : Steady db after) {row : Transaction}
    (member : row ∈ db.transactions) (settles : row.type ≠ .lock) :
    ∃ new ∈ after.transactions, new.id = row.id ∧ new.terms = row.terms := by
  have lasting : row.Lasting := fun index => settles ((holds.typed row member).mpr index)
  obtain ⟨new, found, key, terms⟩ := steady.transactions row.id row (Table.get_of_mem member) lasting
  exact ⟨new, Table.mem_of_get found, key, terms⟩

theorem settlementType_ne_lock (operation : SettlementOperation) : settlementType operation ≠ .lock := by
  cases operation <;> simp [settlementType]

/-- The escrow is on its way to this settlement, or has reached it. -/
def Underway (operation : SettlementOperation) (status : EscrowStatus) : Prop :=
  status = settlementPendingStatus operation ∨ status = settlementTerminalStatus operation

theorem Underway.unique {first second : SettlementOperation} {status : EscrowStatus}
    (one : Underway first status) (other : Underway second status) : first = second := by
  cases first <;> cases second <;> first | rfl | skip
  all_goals rcases one with rfl | rfl <;> simp [Underway, settlementPendingStatus, settlementTerminalStatus] at other

/-- A reconciliation puts an escrow on its way to a settlement only by the row of it. -/
theorem reconciliation_underway {type : TransactionType} {fromStatus toStatus : EscrowStatus}
    {observed : ObservationStatus} {reorg : Bool} {operation : SettlementOperation}
    (is : toStatus = reconciliationEscrowStatus type fromStatus observed reorg) (moves : toStatus ≠ fromStatus)
    (underway : Underway operation toStatus) : type = settlementType operation := by
  subst is
  unfold reconciliationEscrowStatus at moves underway
  cases operation <;> cases type <;> simp only [settlementType] <;> cases observed <;> cases reorg <;>
    simp [Underway, settlementPendingStatus, settlementTerminalStatus] at moves underway <;>
    split at underway <;> simp_all

/-- The transaction that a reconciliation has read belongs to the escrow of its snapshot. -/
theorem snapshot_row (holds : Ground db) {snapshot : Snapshot} (known : SnapshotSeen Ground Steady snapshot db)
    {transaction : Transaction} (seen : Seen Ground Steady db
      fun db => db.transactions.get snapshot.transaction.id = some transaction) (settles : transaction.type ≠ .lock) :
    ∃ row ∈ db.transactions, row.id = snapshot.transaction.id ∧ row.terms = transaction.terms ∧
      row.escrowId = some snapshot.escrow.id := by
  obtain ⟨earlier, good, steady, stored⟩ := seen
  have key : transaction.id = snapshot.transaction.id := Table.key_of_get stored
  obtain ⟨row, member, rowKey, terms⟩ := good.lasts steady (Table.mem_of_get stored) settles
  have index : snapshot.transaction.id.index ≠ 1 := by
    intro index
    exact settles ((good.typed transaction (Table.mem_of_get stored)).mpr (key ▸ index))
  obtain ⟨before, _, steadyBefore, storedBefore⟩ := known.transaction
  obtain ⟨same, found, _, sameTerms⟩ :=
    steadyBefore.transactions snapshot.transaction.id snapshot.transaction storedBefore index
  have equal : same = row := by
    have there : db.transactions.get snapshot.transaction.id = some row := by
      rw [← key, ← rowKey]
      exact Table.get_of_mem member
    rw [found] at there
    exact Option.some.inj there
  refine ⟨row, member, rowKey.trans key, terms, ?_⟩
  rw [← known.belongs, ← equal]
  exact congrArg TransactionTerms.escrowId sameTerms

theorem escrow_unchanged {row : Escrow} (written : Write.to .escrows writes = [])
    (member : row ∈ (Storage.view writes db).escrows) : row ∈ db.escrows := by
  rwa [stored_escrows.untouched written] at member

/-- Every phase but a reservation and a reconciliation finds the escrows it leaves on
their way to a settlement on that way already. -/
theorem commits_underway (own : phase.Owned id)
    (commits : Commits (app settings) claims id phase next writes db) {operation : SettlementOperation}
    (closed : ∀ old new, phase.effect.moves old new → Underway operation new → Underway operation old)
    {escrow : Escrow} (member : escrow ∈ (Storage.view writes db).escrows) (underway : Underway operation escrow.status) :
    ∃ old ∈ db.escrows, old.id = escrow.id ∧ Underway operation old.status := by
  have fresh : ¬Underway operation .notCreated := by
    cases operation <;> simp [Underway, settlementPendingStatus, settlementTerminalStatus]
  obtain ⟨old, stored, inside, _⟩ := escrow_inherits fresh closed
    ((commits_acts own commits).mono fun _ _ acts => ⟨acts.lawful, acts.moves⟩) (Table.get_of_mem member) underway
  exact ⟨old, Table.mem_of_get stored, Table.key_of_get stored, inside⟩

theorem commits_reserved (own : phase.Owned id) (holds : Ground db)
    (known : ∀ snapshot, phase.cargo = .snapshot snapshot → SnapshotSeen Ground Steady snapshot db)
    (commits : Commits (app settings) ground id phase next writes db) :
    ∀ escrow ∈ (Storage.view writes db).escrows, ∀ operation, Underway operation escrow.status →
      ∃ row ∈ (Storage.view writes db).transactions, row.type = settlementType operation ∧
        row.escrowId = some escrow.id := by
  have steady := commits_steady own commits
  intro escrow member operation underway
  -- rows of escrows that were on their way before the commit
  have earlier : ∀ old ∈ db.escrows, old.id = escrow.id → Underway operation old.status →
      ∃ row ∈ (Storage.view writes db).transactions, row.type = settlementType operation ∧
        row.escrowId = some escrow.id := by
    intro old oldIn key inside
    obtain ⟨row, rowIn, type, belongs⟩ := holds.reserved old oldIn operation inside
    obtain ⟨new, newIn, _, terms⟩ := holds.lasts steady rowIn (type ▸ settlementType_ne_lock operation)
    refine ⟨new, newIn, (congrArg TransactionTerms.type terms).trans type, ?_⟩
    rw [← key, ← belongs]
    exact congrArg TransactionTerms.escrowId terms
  have others : (∀ old new, phase.effect.moves old new → Underway operation new → Underway operation old) →
      ∃ row ∈ (Storage.view writes db).transactions, row.type = settlementType operation ∧
        row.escrowId = some escrow.id := by
    intro closed
    obtain ⟨old, oldIn, key, inside⟩ := commits_underway own commits closed member underway
    exact earlier old oldIn key inside
  cases phase with
  | settlementReserving req reserving escrowId =>
    obtain ⟨_, old, appKey, keyRow, written, _, _, stored, _⟩ := reserving_commits steady_keeps commits
    have toTransactions : Write.to .transactions writes = [.transaction (newTransaction ⟨req.request, 0⟩
        { old with status := settlementPendingStatus reserving } (settlementType reserving))] := by
      rw [written]
      simp [Write.relation]
    have toEscrows : Write.to .escrows writes = [.escrow { old with status := settlementPendingStatus reserving }] := by
      rw [written]
      simp [Write.relation]
    rcases (stored_escrows.mem_put toEscrows).mp member with same | ⟨before, _⟩
    · rw [same] at underway
      obtain rfl := underway.unique (.inl rfl)
      refine ⟨_, (stored_transactions.mem_put toTransactions).mpr (.inl rfl), rfl, ?_⟩
      rw [same]
      rfl
    · exact earlier escrow before rfl underway
  | reconciling snapshot observation =>
    obtain ⟨transaction, seen, reorg, toStatus, seenTransaction, _, _, _, statusIs, moved, _⟩ :=
      reconciling_commits steady_keeps commits
    rcases moved with ⟨_, unwritten⟩ | ⟨different, _, old, status, written, stored⟩
    · exact earlier escrow (escrow_unchanged unwritten member) rfl underway
    · rcases (stored_escrows.mem_put written).mp member with same | ⟨before, _⟩
      · rw [same] at underway
        have type := reconciliation_underway statusIs different underway
        obtain ⟨row, rowIn, _, terms, belongs⟩ := snapshot_row holds (known snapshot rfl) seenTransaction
          (type ▸ settlementType_ne_lock operation)
        have rowType : row.type = settlementType operation :=
          (congrArg TransactionTerms.type terms).trans type
        obtain ⟨new, newIn, _, newTerms⟩ := holds.lasts steady rowIn (rowType ▸ settlementType_ne_lock operation)
        refine ⟨new, newIn, (congrArg TransactionTerms.type newTerms).trans rowType, ?_⟩
        have key : old.id = snapshot.escrow.id := Table.key_of_get stored
        rw [same, show ({ old with status := toStatus } : Escrow).id = snapshot.escrow.id from key, ← belongs]
        exact congrArg TransactionTerms.escrowId newTerms
      · exact earlier escrow before rfl underway
  | finalizingSettlement req settling reserved result first =>
    apply others
    rintro old new ⟨rfl, reached⟩ inside
    have same : settling = operation := by
      simp only [List.mem_cons, List.not_mem_nil, or_false] at reached
      rcases reached with rfl | rfl | rfl
      · exact Underway.unique (.inl rfl) inside
      · exact Underway.unique (.inr rfl) inside
      · cases operation <;> simp [Underway, settlementPendingStatus, settlementTerminalStatus] at inside
    exact .inl (by rw [same])
  | finalizingFunding req before result =>
    apply others
    rintro old new ⟨reached, _⟩ inside
    cases operation <;> rcases inside with rfl | rfl <;>
      simp [settlementPendingStatus, settlementTerminalStatus] at reached
  | finalizingFailed req failing reserved error =>
    apply others
    rintro old new ⟨_, rfl⟩ inside
    cases operation <;> simp [Underway, settlementPendingStatus, settlementTerminalStatus] at inside
  | finalizingCreation req reserved result first =>
    apply others
    rintro old new ⟨rfl, valid⟩ inside
    cases operation <;> rcases inside with rfl | rfl <;>
      simp [settlementPendingStatus, settlementTerminalStatus, canTransitionEscrow] at valid
  | _ => exact others fun _ _ moves => moves.elim

theorem commits_backed (own : phase.Owned id) (holds : Ground db)
    (commits : Commits (app settings) claims id phase next writes db) :
    ∀ row ∈ (Storage.view writes db).transactions, row.type ≠ .lock →
      ∃ escrow, Backs (Storage.view writes db) row escrow := by
  intro row member settles
  rcases commits_settlement own commits member settles with ⟨old, oldIn, _, terms⟩ |
    ⟨req, operation, old, _, _, _, moved, rfl⟩
  · have type : row.type = old.type := congrArg TransactionTerms.type terms
    obtain ⟨escrow, backs⟩ := holds.backed old oldIn (type ▸ settles)
    obtain ⟨new, backs, _⟩ := backs.later (commits_steady own commits) terms
    exact ⟨new, backs⟩
  · refine ⟨{ old with status := settlementPendingStatus operation }, rfl, moved, ?_, rfl, rfl, rfl⟩
    cases operation <;> simp [settlementPendingStatus]

theorem commits_ground (own : phase.Owned id) (holds : Ground db)
    (known : ∀ snapshot, phase.cargo = .snapshot snapshot → SnapshotSeen Ground Steady snapshot db)
    (commits : Commits (app settings) ground id phase next writes db) : Ground (Storage.view writes db) :=
  ⟨typed_view (commits_chain own commits) holds.typed, commits_backed own holds commits,
    commits_reserved own holds known commits⟩

theorem SnapshotSeen.later {good : Db → Prop} {kept : Db → Db → Prop} {snapshot : Snapshot} {after : Db}
    (trans : ∀ first second third, kept first second → kept second third → kept first third)
    (known : SnapshotSeen good kept snapshot db) (onwards : kept db after) : SnapshotSeen good kept snapshot after := by
  obtain ⟨belongs, rail, txHash, ⟨first, good, kept, stored⟩, ⟨second, good', kept', stored'⟩⟩ := known
  exact ⟨belongs, rail, txHash, ⟨first, good, trans _ _ _ kept onwards, stored⟩,
    ⟨second, good', trans _ _ _ kept' onwards, stored'⟩⟩

/-- A phase that carries what another carries, or nothing, knows no more. -/
theorem snapshot_carried {phase next : Phase} {known : Snapshot → Prop}
    (carries : next.cargo = phase.cargo ∨ next.cargo = .none)
    (knows : ∀ snapshot, phase.cargo = .snapshot snapshot → known snapshot) :
    ∀ snapshot, next.cargo = .snapshot snapshot → known snapshot := by
  intro snapshot found
  cases carries with
  | inl same => exact knows snapshot (same ▸ found)
  | inr none => rw [none] at found; cases found

theorem commits_snapshot (commits : Commits (app settings) ground id phase next writes db)
    (steady : Steady db (Storage.view writes db)) :
    ∀ snapshot, next.cargo = .snapshot snapshot → SnapshotSeen Ground Steady snapshot (Storage.view writes db) := by
  by_cases loading : phase.isLoading = true
  · cases phase with
    | creating req input =>
      obtain ⟨program, start, last, runs, _, outcome, later⟩ := commits
      cases runs
      obtain ⟨reserved, middle, outcome, rfl, rfl⟩ := outcome_bind.mp outcome
      intro snapshot found
      cases found
    | settlementReserving req operation escrowId =>
      obtain ⟨_, _, _, _, _, _, _, _, _, _, _, _, _, rfl⟩ := reserving_commits steady_keeps commits
      intro snapshot found
      cases found
    | loading transactionId =>
      obtain ⟨loaded, rfl, belongs, rail, txHash, seen⟩ := loading_commits steady_keeps commits
      have transaction : Seen Ground Steady db
          fun db => db.transactions.get loaded.transaction.id = some loaded.transaction := by
        obtain ⟨_, ⟨_, first, holds, before, stored⟩, onwards, _⟩ := seen
        exact ⟨first, holds, before.trans onwards, stored⟩
      intro snapshot found
      cases found
      exact SnapshotSeen.later (fun _ _ _ => .trans) ⟨belongs, rail, txHash, transaction, seen.mono fun _ => And.left⟩ steady
    | _ => cases loading
  · intro snapshot found
    rw [commits_cargo (by simpa using loading) commits] at found
    cases found

theorem ground_preserved : Preserved (app settings) ground (fun _ _ => True) where
  arrive id request env db := ⟨owned_arrival request, fun snapshot found => by
    rw [show ((app settings).arrival id request).cargo = .none from (idle_arrival request).1] at found
    cases found⟩
  caught id env phase db error known :=
    ⟨owned_caught known.1 error, snapshot_carried (cargo_caught phase error) known.2⟩
  outside state id phase external env next _ _ _ known taken :=
    ⟨⟨owned_outside known.1 taken, snapshot_carried (cargo_outside taken) known.2⟩, fun _ _ _ other => other⟩
  commit state id phase next log writes _ holds _ known commits := by
    have steady := commits_steady known.1 commits
    refine ⟨commits_ground known.1 holds known.2 commits, ⟨commits_owned known.1 commits,
      commits_snapshot commits steady⟩, ?_⟩
    intro other process _ _ _ knows
    refine ⟨⟨knows.1, ?_⟩, fun _ _ => steady⟩
    intro snapshot found
    exact (knows.2 snapshot found).later (fun _ _ _ => .trans) steady

theorem ground_empty : Ground Db.empty :=
  ⟨fun _ member => absurd member (Table.not_mem_empty _), fun _ member => absurd member (Table.not_mem_empty _),
    fun _ member => absurd member (Table.not_mem_empty _)⟩

end Ground

end PactAgent.Server
