import PactAgent.Server.Observations

/-! When a lock counts as taken out of a block: never, while the answers of the node about
it only progress and no reconciliation commits behind one that was answered later. -/

namespace PactAgent.Server
open PactAgent.Common PactAgent.Foundation PactAgent.Lifecycle PactAgent.Store PactAgent.Escrow
open PactAgent.Foundation.Execution PactAgent.Foundation.ReadCommitted
open PactAgent.Idempotency.Repository PactAgent.Rail.Builder PactAgent.Rail.Node PactAgent.Rail.Script

/-- The escrow has been funded, and is not under reconciliation. -/
def beyondFunding (status : EscrowStatus) : Bool :=
  status ∈ [EscrowStatus.funded, .releasePending, .released, .refundPending, .refunded]

/-- What stands in the database about a lock rests on its confirmation. -/
structure RestsOn (txHash : String) (confirmed : Prop) (db : Db) : Prop where
  locks : ∀ row ∈ db.transactions, row.type = .lock → row.rail = .ckb → row.txHash = some txHash →
    row.status ≠ .reorged ∧ (row.status = .confirmed → confirmed)
  escrows : ∀ escrow ∈ db.escrows, escrow.rail = .ckb → escrow.lockTxHash = some txHash →
    beyondFunding escrow.status = true → confirmed
  settlements : ∀ row ∈ db.transactions, row.type ≠ .lock → ∀ escrow ∈ db.escrows,
    row.escrowId = some escrow.id → escrow.rail = .ckb → escrow.lockTxHash = some txHash → confirmed

/-- A commit that rests on the confirmation of the lock, and does not reorganise it. -/
structure Sure (txHash : String) (confirmed : Prop) (phase : Phase) (writes : List Write) : Prop where
  funding : ∀ req before result, phase = .finalizingFunding req before result → before.rail = .ckb →
    before.lockTxHash = some txHash → result.status = .funded → confirmed
  reconciliation : ∀ snapshot observation, phase = .reconciling snapshot observation →
    snapshot.transaction.type = .lock → snapshot.txHash = txHash → observation.status = .confirmed → confirmed
  writes : ∀ row, .transaction row ∈ writes → row.type = .lock → row.rail = .ckb → row.txHash = some txHash →
    row.status ≠ .reorged

def surely (txHash : String) (confirmed : Prop) (state : State) (action : Action) : Prop :=
  ∀ id phase next log writes, action = .finish id →
    state.processes id = some ⟨phase, some ⟨.done next, log, writes⟩, true⟩ → Sure txHash confirmed phase writes

def settled (settings : Settings) (txHash : String) (confirmed : Prop) : Assertions Db Query Phase Env :=
  (told settings fun _ => True).extend (RestsOn txHash confirmed) (fun _ _ _ _ => True) (fun _ _ _ => True)
    (fun _ _ => trivial) (fun _ _ _ _ _ _ => trivial)

section Settled
variable {settings : Settings} {txHash : String} {confirmed : Prop} {id : Nat} {phase next : Phase}
variable {writes : List Write} {db start : Db}

theorem lockStatus_fresh {status : EscrowStatus} (valid : canTransitionEscrow .notCreated status = true) :
    beyondFunding status = false := by
  cases status <;> first | rfl | cases valid

theorem fundingStatus_beyond {status : EscrowStatus} (verified : status ∈ [EscrowStatus.fundingDetected, .funded])
    (beyond : beyondFunding status = true) : status = .funded := by
  cases status <;> simp at verified ⊢ <;> cases beyond

/-- A lock leads beyond the funding where it is confirmed, and any settlement is behind it. -/
theorem reconciliation_beyond {type : TransactionType} {fromStatus : EscrowStatus} {observed : ObservationStatus}
    {reorg : Bool} (moves : reconciliationEscrowStatus type fromStatus observed reorg ≠ fromStatus)
    (beyond : beyondFunding (reconciliationEscrowStatus type fromStatus observed reorg) = true) (lock : type = .lock) :
    observed = .confirmed := by
  subst lock
  unfold reconciliationEscrowStatus at moves beyond
  cases observed <;> cases reorg <;> simp [beyondFunding] at moves beyond ⊢ <;> split at beyond <;> simp_all

/-- A transaction that the node knows does not put its escrow under reconciliation. -/
theorem reconciliation_known {type : TransactionType} {fromStatus : EscrowStatus} {observed : ObservationStatus}
    (moves : reconciliationEscrowStatus type fromStatus observed false ≠ fromStatus)
    (known : observed ∈ [ObservationStatus.pending, .committed, .confirmed]) :
    reconciliationEscrowStatus type fromStatus observed false ≠ .reconciliationRequired := by
  unfold reconciliationEscrowStatus at moves ⊢
  cases type <;> cases observed <;> simp at moves known ⊢ <;> split <;> simp_all

/-- A lock transaction that a commit writes as confirmed. -/
theorem written_confirmed (sure : Sure txHash confirmed phase writes) {new : Transaction}
    (written : LockWritten phase new) (hash : new.txHash = some txHash) (isConfirmed : new.status = .confirmed) :
    confirmed := by
  cases written with
  | opened status => simp [isConfirmed] at status
  | @funded req before result _ ckb lockHash status =>
    refine sure.funding req before result rfl ckb (lockHash.symm.trans hash) ?_
    by_contra other
    rw [if_neg other, isConfirmed] at status
    cases status
  | @reconciled snapshot observation _ reorg lock rowHash status =>
    refine sure.reconciliation snapshot observation rfl lock (Option.some.inj (rowHash.symm.trans hash)) ?_
    rw [isConfirmed] at status
    unfold reconciledTransactionStatus at status
    cases reorg <;> cases observed : observation.status <;> simp [observed] at status ⊢

/-- An escrow that a commit leaves beyond its funding. -/
theorem written_beyond (holds : custody.holds db)
    (belongs : ∀ snapshot, phase.cargo = .snapshot snapshot →
      snapshot.transaction.escrowId = some snapshot.escrow.id)
    (knows : Knows id phase db) (rests : RestsOn txHash confirmed db) (sure : Sure txHash confirmed phase writes)
    {new : Escrow}
    (written : EscrowWritten db phase new) (hash : new.lockTxHash = some txHash)
    (beyond : beyondFunding new.status = true) : confirmed := by
  cases written with
  | opened status =>
    simp only [List.mem_cons, List.not_mem_nil, or_false] at status
    rcases status with is | is | is | is <;> (rw [is] at beyond; cases beyond)
  | funded ckb lockHash verified status =>
    rw [status] at beyond
    exact sure.funding _ _ _ rfl ckb (lockHash.symm.trans hash) (fundingStatus_beyond verified beyond)
  | @settling _ operation old _ stored ckb lockHash before status =>
    refine rests.escrows old (Table.mem_of_get stored) ckb (lockHash.trans hash) ?_
    rcases before with funded | pending
    · rw [funded]
      rfl
    · rw [pending]
      cases operation <;> rfl
  | @reconciled snapshot observation old _ reorg stored ckb key lockHash moves status =>
    by_cases type : snapshot.transaction.type = .lock
    · have cause := reconciliation_beyond (status ▸ moves) (status ▸ beyond) type
      obtain ⟨there, found, _, thereHash⟩ := snapshot_lock holds (belongs snapshot rfl) type knows
      rw [← key, stored] at found
      cases found
      exact sure.reconciliation snapshot observation rfl type
        (Option.some.inj (thereHash.symm.trans (lockHash.trans hash))) cause
    · obtain ⟨row, found, _, rowTerms, _⟩ := knows.snapshot snapshot rfl
      have rowType : row.type ≠ .lock := by
        rw [show row.type = snapshot.transaction.type from congrArg TransactionTerms.type rowTerms]
        exact type
      have oldKey : old.id = snapshot.escrow.id := (Table.key_of_get stored).trans key
      have scope : row.escrowId = some old.id := by
        rw [oldKey, ← belongs snapshot rfl]
        exact congrArg TransactionTerms.escrowId rowTerms
      exact rests.settlements row (Table.mem_of_get found) rowType old (Table.mem_of_get stored) scope
        ckb (lockHash.trans hash)

theorem settled_commit (own : phase.Owned id) (holds : custody.holds db)
    (belongs : ∀ snapshot, phase.cargo = .snapshot snapshot →
      snapshot.transaction.escrowId = some snapshot.escrow.id)
    (knows : Knows id phase db) (rests : RestsOn txHash confirmed db) (sure : Sure txHash confirmed phase writes)
    (commits : Commits (app settings) custody id phase next writes db) :
    RestsOn txHash confirmed (Storage.view writes db) := by
  obtain ⟨start, initially, _, entry⟩ := commits_entry keeping_keeps (fun _ _ keeping => keeping.1) commits
  have change := entry_change own initially holds knows entry
  constructor
  · intro row member type ckb hash
    rcases mem_view_transaction member with before | written
    · exact rests.locks row before type ckb hash
    · exact ⟨sure.writes row written type ckb hash,
        written_confirmed sure (entry_lock own initially holds knows entry written type ckb) hash⟩
  · intro escrow member ckb hash beyond
    rcases mem_view_escrows member with before | written
    · exact rests.escrows escrow before ckb hash beyond
    · exact written_beyond holds belongs knows rests sure (entry_escrow initially holds knows entry written ckb) hash
        beyond
  · intro row member settles escrow escrowIn scope ckb hash
    have storedEscrow : (Storage.view writes db).escrows.get escrow.id = some escrow := Table.get_of_mem escrowIn
    rcases commits_settlement own commits member settles with ⟨old, oldIn, _, terms⟩ |
      ⟨req, operation, old, _, stored, funded, moved, rfl⟩
    · have type : row.type = old.type := congrArg TransactionTerms.type terms
      obtain ⟨backing, backs⟩ := holds.1.backed old oldIn (type ▸ settles)
      have key : backing.id = escrow.id := by
        have oldScope : old.escrowId = some escrow.id := (congrArg TransactionTerms.escrowId terms).symm.trans scope
        exact Option.some.inj (backs.belongs.symm.trans oldScope)
      obtain ⟨now, there, held⟩ := change.escrows backing.id backing backs.stored backs.created
      rw [key, storedEscrow] at there
      cases there
      have rail : backing.rail = .ckb := (congrArg EscrowTerms.rail held.1).symm.trans ckb
      have lockHash : backing.lockTxHash = some txHash :=
        (congrArg Commitment.lockTxHash (held.2.2 rail)).symm.trans hash
      exact rests.settlements old oldIn (type ▸ settles) backing (Table.mem_of_get backs.stored) backs.belongs rail
        lockHash
    · have key : old.id = escrow.id := Option.some.inj scope
      rw [← key] at storedEscrow
      have same : escrow = { old with status := settlementPendingStatus operation } :=
        Option.some.inj (storedEscrow.symm.trans moved)
      have rail : old.rail = .ckb := (congrArg Escrow.rail same).symm.trans ckb
      have lockHash : old.lockTxHash = some txHash := (congrArg Escrow.lockTxHash same).symm.trans hash
      exact rests.escrows old (Table.mem_of_get stored) rail lockHash (by rw [funded]; rfl)

theorem settled_preserved : Preserved (app settings) (settled settings txHash confirmed) (surely txHash confirmed) := by
  apply told_preserved.extend
  case implies =>
    intros
    intro _ _ _ _ _ _ _ _ _
    trivial
  case arrive => exact fun _ _ _ _ => trivial
  case caught => exact fun _ _ _ _ _ _ => trivial
  case outside => exact fun _ _ _ _ _ _ _ _ _ _ _ _ _ => ⟨trivial, fun _ _ _ _ => trivial⟩
  case commit =>
    intro state id phase next log writes met base rests here known _ commits _
    refine ⟨?_, trivial, fun _ _ _ _ _ _ _ => ⟨trivial, trivial⟩⟩
    exact settled_commit known.1.1.1 base.1 (fun snapshot found => (known.1.1.2 snapshot found).belongs) known.1.2
      rests (met id phase next log writes rfl here) (Commits.below (Commits.below commits))

theorem settled_empty : (settled settings txHash confirmed).holds Db.empty :=
  ⟨⟨custody_empty, trivial⟩, fun _ member => absurd member (Table.not_mem_empty _),
    fun _ member => absurd member (Table.not_mem_empty _), fun _ member => absurd member (Table.not_mem_empty _)⟩

end Settled

section Order
variable {settings : Settings} {txHash : String} {id : Nat} {env : Env} {state after : State} {action : Action}

def progress : ObservationStatus → Nat
  | .confirmed => 2
  | .committed => 1
  | _ => 0

/-- The answers about the transaction go from pending over committed to confirmed only. -/
structure Progresses (settings : Settings) (txHash : String) (env : Env) : Prop where
  known : ∀ answer ∈ answersAbout txHash env.reports, ∀ observation,
    observeTransaction settings.railConfig.confirmations answer.2 = .ok observation →
      observation.status ∈ [ObservationStatus.pending, .committed, .confirmed]
  forward : (answersAbout txHash env.reports).Pairwise fun first second => ∀ earlier later,
    observeTransaction settings.railConfig.confirmations first.2 = .ok earlier →
    observeTransaction settings.railConfig.confirmations second.2 = .ok later →
      progress earlier.status ≤ progress later.status

/-- The last transaction of the process has committed. -/
def Finished (state : State) (id : Nat) : Prop :=
  ∃ process, state.processes id = some process ∧
    ((∃ reply, process.phase = .returned reply) ∨ ∃ result, process.phase = .reconciled result)

def inBlocks (observed : ObservationStatus) : Prop := observed = .committed ∨ observed = .confirmed

/-- The process that ends was not overtaken: no other one that was answered later has
finished on the confirmation of the transaction. -/
def NotOvertaken (settings : Settings) (txHash : String) (state : State) (id : Nat) : Prop :=
  ∀ before answers behind other later observation,
    answersAbout txHash state.env.reports = before ++ (id, answers) :: behind → (other, later) ∈ behind → other ≠ id →
    observeTransaction settings.railConfig.confirmations later = .ok observation → observation.status = .confirmed →
      ¬Finished state other

/-- A reconciliation that saw the lock outside the blocks does not commit once overtaken. -/
def inOrder (settings : Settings) (txHash : String) (state : State) (action : Action) : Prop :=
  ∀ id snapshot observation session, action = .finish id →
    state.processes id = some ⟨.reconciling snapshot observation, session, true⟩ →
    snapshot.transaction.type = .lock → snapshot.txHash = txHash → ¬inBlocks observation.status →
      NotOvertaken settings txHash state id

/-- A process that has finished was told that the transaction is confirmed. -/
def Confirmed (settings : Settings) (txHash : String) (state : State) : Prop :=
  ∃ id answers observation, Finished state id ∧ Observed settings id state.env txHash answers observation ∧
    observation.status = .confirmed

theorem Progresses.earlier {later : Env} (progresses : Progresses settings txHash later)
    (grows : env.reports <+: later.reports) : Progresses settings txHash env := by
  obtain ⟨more, same⟩ := grows
  have split : answersAbout txHash later.reports = answersAbout txHash env.reports ++ answersAbout txHash more := by
    rw [← same, answersAbout_append]
  constructor
  · intro answer member
    exact progresses.known answer (split ▸ List.mem_append_left _ member)
  · have forward := progresses.forward
    rw [split] at forward
    exact (List.pairwise_append.mp forward).1

/-- Where a finished process was told of the confirmation, one that it has not overtaken
was told of it too. -/
theorem confirmed_in_order (progresses : Progresses settings txHash state.env)
    (confirmed : Confirmed settings txHash state) {answers : ObserveAnswers} {observation : Observation}
    (observed : Observed settings id state.env txHash answers observation) (unfinished : ¬Finished state id)
    (ordered : NotOvertaken settings txHash state id) : observation.status = .confirmed := by
  obtain ⟨other, theirs, told, finished, ⟨reported, theirsOk⟩, isConfirmed⟩ := confirmed
  obtain ⟨before, behind, split⟩ := List.append_of_mem (mem_answersAbout.mpr observed.1)
  have different : other ≠ id := by
    rintro rfl
    exact unfinished finished
  have member := mem_answersAbout.mpr reported
  rw [split] at member
  have forward := progresses.forward
  rw [split] at forward
  rcases List.mem_append.mp member with earlier | later
  · have step := (List.pairwise_append.mp forward).2.2 _ earlier _ List.mem_cons_self told observation theirsOk
      observed.2
    rw [isConfirmed] at step
    cases status : observation.status <;> simp [status, progress] at step ⊢
  · rcases List.mem_cons.mp later with same | later
    · exact absurd (congrArg Prod.fst same) different
    · exact absurd finished (ordered before answers behind other theirs told split later different theirsOk isConfirmed)

/-- Reports are only added. -/
theorem step_reports (taken : step settings state action = some after) :
    state.env.reports <+: after.env.reports := by
  rcases step_env taken with same | ⟨id, phase, external, next, _, _, answered⟩
  · rw [same]
  · exact outside_reports answered

/-- No phase goes on from the end of a request. -/
theorem finished_step (sound : Sound (app settings) ownership state) (finished : Finished state id)
    (taken : step settings state action = some after) : Finished after id := by
  obtain ⟨process, here, ended⟩ := finished
  have idle : ∀ {phase : Phase}, ((∃ reply, phase = .returned reply) ∨ ∃ result, phase = .reconciled result) →
      body settings phase = none := by
    rintro phase (⟨_, rfl⟩ | ⟨_, rfl⟩) <;> rfl
  obtain ⟨new, processes, turn⟩ := step_turn taken
  by_cases own : action.process = id
  · subst own
    refine ⟨new, by rw [processes]; exact Function.update_self _ _ _, ?_⟩
    cases turn with
    | arrive absent => cases here.symm.trans absent
    | work before alive same =>
      cases Option.some.inj (here.symm.trans before)
      rwa [same]
    | caught before =>
      cases Option.some.inj (here.symm.trans before)
      obtain ⟨program, _, runs, _⟩ := sound.continues _ _ _ here rfl rfl
      rw [show (app settings).body _ _ = none from idle ended] at runs
      cases runs
    | outside before answered =>
      cases Option.some.inj (here.symm.trans before)
      rcases ended with ⟨_, rfl⟩ | ⟨_, rfl⟩ <;> cases answered
    | commit before =>
      cases Option.some.inj (here.symm.trans before)
      obtain ⟨program, _, runs, _⟩ := sound.continues _ _ _ here rfl rfl
      rw [show (app settings).body _ _ = none from idle ended] at runs
      cases runs
  · exact ⟨process, by rw [processes, Function.update_of_ne (Ne.symm own)]; exact here, ended⟩

theorem Confirmed.step (sound : Sound (app settings) ownership state) (confirmed : Confirmed settings txHash state)
    (taken : step settings state action = some after) : Confirmed settings txHash after := by
  obtain ⟨id, answers, observation, finished, observed, status⟩ := confirmed
  exact ⟨id, answers, observation, finished_step sound finished taken,
    ⟨(step_reports taken).subset observed.1, observed.2⟩, status⟩

end Order

section Runs
variable {settings : Settings} {txHash : String} {confirmed : Prop} {id : Nat} {state after : State} {action : Action}
variable {actions : List Action} {snapshot : Snapshot} {observation : Observation} {next : Phase}
variable {log : List Query} {writes : List Write}

theorem settled_keeps {phase : Phase} : Keeps ((settled settings txHash confirmed).rely id phase) (Keeping id) :=
  ⟨fun db => ⟨.refl db, .refl id db⟩, fun _ _ _ earlier later => earlier.trans later,
    fun _ _ _ relied => relied.1.1⟩

/-- A reconciliation that has read a confirmed or ended lock rests on its confirmation. -/
theorem read_settled {db start : Db} {transaction : Transaction} {escrow : Escrow} {reorg : Bool}
    {toStatus : EscrowStatus} (belongs : snapshot.transaction.escrowId = some snapshot.escrow.id)
    (initially : Initially (settled settings snapshot.txHash confirmed) id (.reconciling snapshot observation) start)
    (lock : snapshot.transaction.type = .lock)
    (read : ReconciliationRead (settled settings snapshot.txHash confirmed).holds (Keeping id) start db snapshot
      observation transaction escrow reorg toStatus) (reorganised : reorg = true) :
    confirmed ∧ ¬inBlocks observation.status := by
  obtain ⟨_, _, ⟨⟨_, knows⟩, _⟩, _⟩ := initially
  obtain ⟨first, ⟨firstHolds, firstSince⟩, _, storedTransaction⟩ := read.readTransaction
  obtain ⟨second, ⟨secondHolds, secondSince⟩, _, storedEscrow⟩ := read.readEscrow
  obtain ⟨row, found, ckb, terms, hash⟩ := (knows.later firstSince.2).snapshot snapshot rfl
  rw [storedTransaction] at found
  cases found
  obtain ⟨there, found, rail, lockHash⟩ :=
    snapshot_lock secondHolds.1.1 belongs lock (knows.later secondSince.2)
  rw [storedEscrow] at found
  cases found
  have type : transaction.type = .lock := (congrArg TransactionTerms.type terms).trans lock
  obtain ⟨present, rests⟩ := firstHolds.2.locks transaction (Table.mem_of_get storedTransaction) type ckb hash
  have reorgIs := read.reorgIs
  rw [reorganised] at reorgIs
  simp only [Escrow.reorganised, eq_comm (a := true), Bool.and_eq_true, Bool.or_eq_true, decide_eq_true_eq,
    Bool.not_eq_true', Bool.or_eq_false_iff, decide_eq_false_iff_not] at reorgIs
  obtain ⟨seen, unconfirmed, uncommitted⟩ := reorgIs
  refine ⟨?_, not_or.mpr ⟨uncommitted, unconfirmed⟩⟩
  rcases seen with (isConfirmed | terminal) | isReorged
  · exact rests isConfirmed
  · refine secondHolds.2.escrows escrow (Table.mem_of_get storedEscrow) rail lockHash ?_
    cases status : escrow.status <;> simp [status, EscrowStatus.terminal, beyondFunding] at terminal ⊢
  · exact absurd isReorged present

/-- A reconciliation of the lock in its order neither reorganises the lock nor puts its
escrow under reconciliation. -/
theorem reconciling_in_order (sound : Sound (app settings) (settled settings txHash (Confirmed settings txHash state)) state)
    (progresses : Progresses settings txHash state.env) (ordered : inOrder settings txHash state (.finish id))
    (here : state.processes id = some ⟨.reconciling snapshot observation, some ⟨.done next, log, writes⟩, true⟩)
    (lock : snapshot.transaction.type = .lock) (hash : snapshot.txHash = txHash) :
    (∀ row, .transaction row ∈ writes → row.status ≠ .reorged) ∧
      ∀ escrow, .escrow escrow ∈ writes → escrow.status ≠ .reconciliationRequired := by
  subst hash
  obtain ⟨⟨⟨ground, knows⟩, told⟩, _⟩ := sound.knows id _ here rfl
  have belongs := (ground.2 snapshot rfl).belongs
  obtain ⟨answers, observed⟩ := told
  have commits := (sound.continues id _ _ here rfl rfl).commits sound.holds
  obtain ⟨start, initially, _, entry⟩ := commits_entry settled_keeps (fun _ _ keeping => keeping.1) commits
  have unfinished : ¬Finished state id := by
    rintro ⟨process, there, ended⟩
    rw [here] at there
    cases there
    rcases ended with ⟨_, impossible⟩ | ⟨_, impossible⟩ <;> cases impossible
  have inBounds := progresses.known _ (mem_answersAbout.mpr observed.1) observation observed.2
  generalize escrowsIs : Write.to .escrows writes = escrows at entry
  generalize transactionsIs : Write.to .transactions writes = transactions at entry
  cases entry with
  | aside aside => cases aside
  | @reconciled _ _ result transaction escrow reorg toStatus _ _ read moved booked =>
    have stays : reorg = false := by
      by_contra reorganised
      rw [Bool.not_eq_false] at reorganised
      obtain ⟨confirmed, outside⟩ := read_settled belongs initially lock read reorganised
      exact outside (.inr (confirmed_in_order progresses confirmed observed unfinished
        (ordered id snapshot observation _ rfl here lock rfl outside)))
    constructor
    · intro row written
      have member : Write.transaction row ∈ Write.to .transactions writes := written_to written rfl
      rw [transactionsIs] at member
      cases booked with
      | missed => cases member
      | row =>
        cases List.mem_singleton.mp member
        change reconciledTransactionStatus observation.status reorg ≠ .reorged
        rw [stays]
        cases status : observation.status <;> simp [reconciledTransactionStatus]
    · intro escrow written
      have member : Write.escrow escrow ∈ Write.to .escrows writes := written_to written rfl
      rw [escrowsIs] at member
      cases moved with
      | stays => cases member
      | moves different =>
        cases List.mem_singleton.mp member
        change toStatus ≠ .reconciliationRequired
        have toIs := read.toStatusIs
        rw [stays] at toIs
        subst toIs
        exact reconciliation_known different inBounds

/-- The commits of a process that ends are the last that it makes. -/
theorem finished_after {phase : Phase} (taken : step settings state (.finish id) = some after)
    (here : state.processes id = some ⟨phase, some ⟨.done next, log, writes⟩, true⟩)
    (ends : (∃ reply, next = .returned reply) ∨ ∃ result, next = .reconciled result) : Finished after id := by
  simp only [ReadCommitted.step, here, finishStep, Option.some.injEq] at taken
  subst taken
  exact ⟨_, Function.update_self id _ _, ends⟩

/-- The phases behind the commits of a funding and of a reconciliation. -/
theorem commits_finished {claims : Assertions Db Query Phase Env} {phase : Phase} {db : Db}
    (commits : Commits (app settings) claims id phase next writes db)
    (last : (∃ req before result, phase = .finalizingFunding req before result) ∨
      ∃ snapshot observation, phase = .reconciling snapshot observation) :
    (∃ reply, next = .returned reply) ∨ ∃ result, next = .reconciled result := by
  obtain ⟨program, start, ended, runs, _, outcome, _⟩ := commits
  rcases last with ⟨req, before, result, rfl⟩ | ⟨snapshot, observation, rfl⟩
  · cases runs
    obtain ⟨reply, _, _, rfl, _⟩ := outcome_bind.mp outcome
    exact .inl ⟨reply, rfl⟩
  · cases runs
    obtain ⟨result, _, _, rfl, _⟩ := outcome_bind.mp outcome
    exact .inr ⟨result, rfl⟩

/-- In an ordered run every commit so far rests on the confirmation as it is known now. -/
theorem surely_along (met : AlongRun (step settings) (inOrder settings txHash) initial actions)
    (reached : run (step settings) initial actions = some state) (progresses : Progresses settings txHash state.env) :
    AlongRun (step settings) (surely txHash (Confirmed settings txHash state)) initial actions := by
  induction actions using List.reverseRecOn generalizing state with
  | nil => trivial
  | append_singleton actions action ih =>
    obtain ⟨middle, before, taken⟩ := run_snoc reached
    obtain ⟨met, ordered⟩ := alongRun_snoc.mp met
    have grows := step_reports taken
    have earlier := ih met before (progresses.earlier grows)
    have owned : Sound (app settings) ownership middle := Sound.always ownership_preserved trivial actions before
    have sound : Sound (app settings) (settled settings txHash (Confirmed settings txHash middle)) middle :=
      Sound.run settled_preserved settled_empty actions earlier before
    refine alongRun_snoc.mpr ⟨earlier.mono ?_, ?_⟩
    · intro now done sure id phase next log writes finishes here
      obtain ⟨funding, reconciliation, writes⟩ := sure id phase next log writes finishes here
      exact ⟨fun req before result is ckb hash funded => (funding req before result is ckb hash funded).step owned taken,
        fun snapshot observation is lock hash status =>
          (reconciliation snapshot observation is lock hash status).step owned taken, writes⟩
    · rintro there again id phase next log writes rfl here
      cases before.symm.trans again
      have commits := (sound.continues id _ _ here rfl rfl).commits sound.holds
      obtain ⟨⟨⟨ground, knows⟩, told⟩, _⟩ := sound.knows id _ here rfl
      constructor
      · rintro req escrow result rfl ckb hash funded
        obtain ⟨lockHash, answers, observation, lockIs, observed, status, _⟩ := told ckb
        cases lockIs.symm.trans hash
        have ended := finished_after taken here (commits_finished commits (.inl ⟨req, escrow, result, rfl⟩))
        refine ⟨id, answers, observation, ended, ⟨grows.subset observed.1, observed.2⟩, ?_⟩
        rw [status] at funded
        unfold fundingStatus at funded
        split at funded
        next isConfirmed => exact isConfirmed
        next => cases funded
      · rintro snapshot observation rfl lock rfl status
        obtain ⟨answers, observed⟩ := told
        have ended := finished_after taken here (commits_finished commits (.inr ⟨snapshot, observation, rfl⟩))
        exact ⟨id, answers, observation, ended, ⟨grows.subset observed.1, observed.2⟩, status⟩
      · intro row written type ckb hash
        have custodial := Commits.below (Commits.below commits)
        obtain ⟨start, initially, _, entry⟩ :=
          commits_entry keeping_keeps (fun _ _ keeping => keeping.1) custodial
        cases entry_lock ground.1 initially sound.holds.1.1 knows entry written type ckb with
        | opened status => rintro is; simp [is] at status
        | funded _ _ status => rw [status]; split <;> simp
        | reconciled lock rowHash _ =>
          have same := Option.some.inj (rowHash.symm.trans hash)
          exact (reconciling_in_order sound (progresses.earlier grows) (ordered middle before) here lock same).1 row written

/-- While the answers about a lock only progress, and no reconciliation of it commits once
overtaken, neither the lock counts as reorganised nor does a reconciliation
of it put its escrow under reconciliation. -/
theorem no_false_reorg (met : AlongRun (step settings) (inOrder settings txHash) initial actions)
    (reached : run (step settings) initial actions = some state) (progresses : Progresses settings txHash state.env) :
    (∀ row ∈ state.db.transactions, row.type = .lock → row.rail = .ckb → row.txHash = some txHash →
      row.status ≠ .reorged) ∧
    ∀ id snapshot observation next log writes,
      state.processes id = some ⟨.reconciling snapshot observation, some ⟨.done next, log, writes⟩, true⟩ →
      snapshot.transaction.type = .lock → snapshot.txHash = txHash → inOrder settings txHash state (.finish id) →
      (∀ row, .transaction row ∈ writes → row.status ≠ .reorged) ∧
        ∀ escrow, .escrow escrow ∈ writes → escrow.status ≠ .reconciliationRequired := by
  have sound : Sound (app settings) (settled settings txHash (Confirmed settings txHash state)) state :=
    Sound.run settled_preserved settled_empty actions (surely_along met reached progresses) reached
  constructor
  · intro row member type ckb hash
    exact (sound.holds.2.locks row member type ckb hash).1
  · intro id snapshot observation next log writes here lock hash ordered
    exact reconciling_in_order sound progresses ordered here lock hash

theorem observedStatus_ok {answers : ObserveAnswers} {observation : Observation}
    (observed : observeTransaction settings.railConfig.confirmations answers = .ok observation) :
    observedStatus settings answers = some observation.status := by
  unfold observedStatus
  rw [observed]
  rfl

theorem seen_progresses {escrow : EscrowStatus} {lock : TransactionStatus} {stages : List Stage}
    {answers : List ObservationStatus} {reported : Bool}
    (view : lockView state = seen escrow lock stages answers reported)
    (known : ∀ status ∈ answers, status ∈ [ObservationStatus.pending, .committed, .confirmed])
    (forward : answers.Pairwise fun first second => progress first ≤ progress second) :
    Progresses testnet lockHash state.env := by
  have same : (answersAbout lockHash state.env.reports).map (fun answer => observedStatus testnet answer.2) =
      answers.map some := congrArg LockView.answers view
  constructor
  · intro answer member observation observed
    have listed : observedStatus testnet answer.2 ∈ answers.map some := by
      rw [← same]
      exact List.mem_map_of_mem member
    rw [observedStatus_ok observed] at listed
    obtain ⟨status, listed, is⟩ := List.mem_map.mp listed
    exact Option.some.inj is ▸ known status listed
  · have ordered : (answers.map some).Pairwise fun first second => ∀ earlier later, first = some earlier →
        second = some later → progress earlier ≤ progress later := by
      refine List.pairwise_map.mpr (forward.imp ?_)
      rintro first second steps _ _ ⟨⟩ ⟨⟩
      exact steps
    rw [← same] at ordered
    refine (List.pairwise_map.mp ordered).imp ?_
    intro first second steps earlier later early late
    exact steps _ _ (observedStatus_ok early) (observedStatus_ok late)

/-- With one answer there is nobody to be overtaken by. -/
theorem inOrder_of_single (single : (answersAbout txHash state.env.reports).length ≤ 1) :
    inOrder settings txHash state action := by
  intro id snapshot observation session _ _ _ _ _ before answers behind other later _ split member
  rw [split] at single
  have positive := List.length_pos_of_mem member
  simp only [List.length_append, List.length_cons] at single
  omega

/-- The first reconciliation of a lock in the pool, on its own. -/
theorem first_observation_in_order : ∃ state,
    run (step testnet) initial (opening ++ (load 7 ++ observe 7 pooled ++ transact 7 4)) = some state ∧
    (∀ row ∈ state.db.transactions, row.type = .lock → row.rail = .ckb → row.txHash = some lockHash →
      row.status ≠ .reorged) ∧
    ∀ id snapshot observation next log writes,
      state.processes id = some ⟨.reconciling snapshot observation, some ⟨.done next, log, writes⟩, true⟩ →
      snapshot.transaction.type = .lock → snapshot.txHash = lockHash → inOrder testnet lockHash state (.finish id) →
      (∀ row, .transaction row ∈ writes → row.status ≠ .reorged) ∧
        ∀ escrow, .escrow escrow ∈ writes → escrow.status ≠ .reconciliationRequired := by
  obtain ⟨opened, reached, _, _, _, _, traces⟩ := opening_traces
  obtain ⟨state, reconciled, view, _⟩ := trace_cons traces
  have whole := (run_append reached).trans reconciled
  have single : (answersAbout lockHash state.env.reports).length ≤ 1 := by
    have same := congrArg List.length (congrArg LockView.answers view)
    simp only [lockView, seen, List.length_map, List.length_singleton] at same
    omega
  have met : AlongRun (step testnet) (inOrder testnet lockHash) initial
      (opening ++ (load 7 ++ observe 7 pooled ++ transact 7 4)) := by
    refine alongRun_of_end ?_ (fun _ _ => inOrder_of_single) whole single
    intro before action after taken single
    exact ((step_reports taken).filterMap _).length_le.trans single
  have progresses : Progresses testnet lockHash state.env := seen_progresses view (by simp) (by simp)
  exact ⟨state, whole, no_false_reorg met whole progresses⟩

/-- The answers progress from pending to confirmed, and the run that was answered first
commits last. -/
theorem overtaken_lock_reorged : ∃ actions state after snapshot observation,
    run (step testnet) initial actions = some state ∧ run (step testnet) state (transact 7 5) = some after ∧
    Progresses testnet lockHash after.env ∧
    state.processes 7 = some ⟨.reconciling snapshot observation, none, true⟩ ∧ snapshot.transaction.type = .lock ∧
    snapshot.txHash = lockHash ∧
    (∃ escrow row, state.db.escrows.get ⟨4, 0⟩ = some escrow ∧ state.db.transactions.get ⟨4, 1⟩ = some row ∧
      escrow.status = .funded ∧ row.status = .confirmed) ∧
    ∃ escrow row, after.db.escrows.get ⟨4, 0⟩ = some escrow ∧ after.db.transactions.get ⟨4, 1⟩ = some row ∧
      escrow.lockTxHash = some lockHash ∧ escrow.status = .reconciliationRequired ∧ row.status = .reorged := by
  obtain ⟨opened, reached, _, _, _, traces, _⟩ := opening_traces
  obtain ⟨first, observed, _, traces⟩ := trace_cons traces
  obtain ⟨state, confirmed, before, traces⟩ := trace_cons traces
  obtain ⟨after, transacted, behind, _⟩ := trace_cons traces
  obtain ⟨snapshot, observation, here, lock, hash, _⟩ := seen_reconciling (seen_stages before).1
  obtain ⟨escrow, storedEscrow, _, _, escrowStatus⟩ := seen_escrow before
  obtain ⟨row, storedRow, _, _, _, rowStatus⟩ := seen_lock before
  obtain ⟨newEscrow, storedNewEscrow, _, newHash, newEscrowStatus⟩ := seen_escrow behind
  obtain ⟨newRow, storedNewRow, _, _, _, newRowStatus⟩ := seen_lock behind
  have whole := (run_append reached).trans ((run_append observed).trans confirmed)
  have progresses : Progresses testnet lockHash after.env := seen_progresses behind (by simp) (by simp [progress])
  exact ⟨_, state, after, snapshot, observation, whole, transacted, progresses, here, lock, hash,
    ⟨escrow, row, storedEscrow, storedRow, escrowStatus, rowStatus⟩,
    ⟨newEscrow, newRow, storedNewEscrow, storedNewRow, newHash, newEscrowStatus, newRowStatus⟩⟩

end Runs

end PactAgent.Server
