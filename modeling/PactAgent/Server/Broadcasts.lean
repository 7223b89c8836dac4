import PactAgent.Server.Outbox
import PactAgent.Server.Reports

/-! What is handed to the node is not forgotten: the row of the transaction stays and is never
booked as failed, and it gets its hash and a job, unless the process dies or fails twice to
record it. -/

namespace PactAgent.Server
open PactAgent.Common PactAgent.Foundation PactAgent.Lifecycle PactAgent.Store PactAgent.Escrow
open PactAgent.Foundation.Execution PactAgent.Foundation.ReadCommitted
open PactAgent.Idempotency.Repository PactAgent.Rail.Builder PactAgent.Rail.Node PactAgent.Rail.Script

section Unsent
variable {settings : Settings} {id : Nat} {phase next : Phase} {writes : List Write} {db start : Db}

/-- A failed transaction was never sent. -/
def Unsent (db : Db) : Prop := ∀ row ∈ db.transactions, row.status = .failed → row.txHash = none

/-- The transactions that a commit books as failed. -/
theorem entry_unsent (own : phase.Owned id) (knows : Knows id phase db)
    (entry : Entry custody.holds (Keeping id) start db phase next (Write.to .escrows writes)
      (Write.to .transactions writes)) {new : Transaction} (written : .transaction new ∈ writes)
    (failed : new.status = .failed) : new.txHash = none := by
  have member : Write.transaction new ∈ Write.to .transactions writes := written_to written rfl
  generalize Write.to .escrows writes = escrows at entry
  generalize Write.to .transactions writes = transactions at entry member
  cases entry with
  | created =>
    cases List.mem_singleton.mp member
    rfl
  | reserved =>
    cases List.mem_singleton.mp member
    rfl
  | @locked req reserved result first reply old _ valid fresh owner stored booked =>
    cases booked with
    | missed => cases member
    | row =>
      cases List.mem_singleton.mp member
      simp only [transactionLockedBy] at failed
      split at failed
      · cases failed
      · split at failed <;> cases failed
  | discarded _ transaction =>
    cases transaction with
    | row => cases List.mem_singleton.mp member
    | missed => cases member
  | fundedAlready => cases member
  | funded seen owner unfunded verified moved booked =>
    cases booked with
    | none => cases member
    | lock belongs type seen booked =>
      cases booked with
      | missed => cases member
      | row =>
        cases List.mem_singleton.mp member
        simp only [transactionFundedBy] at failed
        split at failed <;> cases failed
  | @failed req operation reserved error old _ pending owner stored booked =>
    cases booked with
    | missed => cases member
    | row _ found =>
      cases List.mem_singleton.mp member
      rw [own.settlement _ rfl, knows.settlement _ _ rfl] at found
      cases found
      rfl
  | settled _ _ _ _ booked =>
    cases booked with
    | missed => cases member
    | row =>
      cases List.mem_singleton.mp member
      simp only [transactionSettledBy] at failed
      split at failed
      · cases failed
      · split at failed <;> cases failed
  | @reconciled snapshot observation result transaction escrow reorg toStatus _ _ read moved booked =>
    cases booked with
    | missed => cases member
    | row =>
      cases List.mem_singleton.mp member
      simp only [transactionReconciledBy, reconciledTransactionStatus] at failed
      split at failed
      · cases failed
      · split at failed <;> cases failed
  | aside => cases member

/-- An escrow has one transaction at most for each settlement. -/
def SettledOnce (db : Db) : Prop :=
  ∀ first ∈ db.transactions, ∀ second ∈ db.transactions, first.type ≠ .lock → first.escrowId = second.escrowId →
    first.type = second.type → first.id = second.id

/-- A reservation finds no transaction of its escrow and operation. -/
theorem entry_settledOnce {claims : Assertions Db Query Phase Env} (own : phase.Owned id)
    (commits : Commits (app settings) claims id phase next writes db)
    (entry : Entry custody.holds (Keeping id) start db phase next (Write.to .escrows writes)
      (Write.to .transactions writes)) (ground : Ground db) (once : SettledOnce db) :
    SettledOnce (Storage.view writes db) := by
  have apart : ∀ {old : Transaction} {req : RequestContext} {operation : SettlementOperation} {escrow : Escrow},
      old ∈ db.transactions → phase = .settlementReserving req operation escrow.id →
      db.escrows.get escrow.id = some escrow → old.escrowId = some escrow.id → old.type ≠ settlementType operation := by
    intro old req operation escrow member here stored belongs type
    subst here
    generalize Write.to .escrows writes = escrows at entry
    generalize Write.to .transactions writes = transactions at entry
    cases entry with
    | aside aside => cases aside
    | reserved funded owner there unique =>
      rw [stored] at there
      cases there
      obtain ⟨subject, backs⟩ := ground.backed old member (type ▸ settlementType_ne_lock operation)
      have same : subject.id = escrow.id := Option.some.inj (backs.belongs.symm.trans belongs)
      have found := backs.stored
      rw [same, stored] at found
      cases found
      exact unique old member (backs.app.trans owner) (type ▸ backs.operation)
  intro first firstIn second secondIn settles sameEscrow sameType
  rcases commits_settlement own commits firstIn settles with ⟨one, oneIn, oneKey, oneTerms⟩ |
    ⟨req, operation, escrow, here, stored, _, _, rfl⟩
  · rcases commits_settlement own commits secondIn (sameType ▸ settles) with ⟨two, twoIn, twoKey, twoTerms⟩ |
      ⟨req, operation, escrow, here, stored, _, _, rfl⟩
    · have escrows : first.escrowId = one.escrowId := congrArg TransactionTerms.escrowId oneTerms
      have types : first.type = one.type := congrArg TransactionTerms.type oneTerms
      have escrows' : second.escrowId = two.escrowId := congrArg TransactionTerms.escrowId twoTerms
      have types' : second.type = two.type := congrArg TransactionTerms.type twoTerms
      rw [← oneKey, ← twoKey]
      exact once one oneIn two twoIn (types ▸ settles) (escrows.symm.trans (sameEscrow.trans escrows'))
        (types.symm.trans (sameType.trans types'))
    · have belongs := (congrArg TransactionTerms.escrowId oneTerms).symm.trans sameEscrow
      have type := (congrArg TransactionTerms.type oneTerms).symm.trans sameType
      exact absurd type (apart oneIn here stored belongs)
  · rcases commits_settlement own commits secondIn (sameType ▸ settles) with ⟨two, twoIn, twoKey, twoTerms⟩ |
      ⟨req', operation', escrow', here', _, _, _, rfl⟩
    · have belongs := (congrArg TransactionTerms.escrowId twoTerms).symm.trans sameEscrow.symm
      have type := (congrArg TransactionTerms.type twoTerms).symm.trans sameType.symm
      exact absurd type (apart twoIn here stored belongs)
    · obtain ⟨rfl, _, _⟩ := Phase.settlementReserving.inj (here.symm.trans here')
      rfl

/-- Only what is on the chain is signed. -/
def OnChain : Phase → Prop
  | .lockSigned _ reserved _ _ => reserved.created.rail = .ckb
  | .settlementSigned _ _ reserved _ => reserved.pending.rail = .ckb
  | _ => True

theorem onChain_idle (idle : phase.Idle) : OnChain phase := by
  obtain ⟨cargo, _⟩ := idle
  cases phase <;> trivial

theorem onChain_caught (phase : Phase) (error : Failure) : OnChain (caught phase error) := by
  rcases caught_cases phase error with idle | ⟨_, _, _, rfl, same⟩ | ⟨_, _, _, _, rfl, same⟩
  · exact onChain_idle idle
  · rw [same]
    trivial
  · rw [same]
    trivial

theorem onChain_outside {env after : Env} {external : External}
    (taken : outside settings env id phase external = some (after, next)) : OnChain next := by
  cases phase <;> cases external <;> try (cases taken; done)
  case locking.localRail | funding.localRail | settling.localRail =>
    simp only [outside] at taken
    split at taken
    next => cases taken
    next => cases taken; trivial
  case locking.sign | settling.sign =>
    simp only [outside] at taken
    split at taken
    next => cases taken
    next ckb =>
      rw [not_not] at ckb
      split at taken
      next => cases taken; exact ckb
      all_goals
        cases taken
        trivial
  case funding.verify =>
    simp only [outside] at taken
    split at taken
    next => cases taken
    next => split at taken <;> (cases taken; trivial)
  case observing.observe =>
    simp only [outside] at taken
    split at taken <;> (cases taken; trivial)
  all_goals
    simp only [outside, Option.some.injEq, Prod.mk.injEq] at taken
    rw [← taken.2]
    trivial

theorem commits_onChain {claims : Assertions Db Query Phase Env}
    (commits : Commits (app settings) claims id phase next writes db) : OnChain next := by
  by_cases opening : phase.isOpening = true
  · obtain ⟨program, start, last, runs, _, outcome, later⟩ := commits
    cases phase with
    | creating | settlementReserving | loading =>
      cases runs
      obtain ⟨_, _, _, rfl, _⟩ := outcome_bind.mp outcome
      trivial
    | fundingReserving req escrowId txHash =>
      cases runs
      obtain ⟨before, _, _, rfl, _⟩ := outcome_bind.mp outcome
      split <;> trivial
    | _ => cases opening
  · exact onChain_idle (commits_idle (by simpa using opening) commits)

/-- The outbox, with what is known of failed, of repeated and of signed transactions. -/
def broadcasts : Assertions Db Query Phase Env :=
  outbox.extend (fun db => Unsent db ∧ SettledOnce db) (fun _ _ phase _ => OnChain phase) (fun _ _ _ => True) (fun _ _ => trivial)
    (fun _ _ _ _ _ _ => trivial)

theorem broadcasts_preserved : Preserved (app settings) broadcasts (fun _ _ => True) := by
  apply outbox_preserved.extend
  case implies => intros; trivial
  case arrive => exact fun id request env db => onChain_idle (idle_arrival request)
  case caught => exact fun id env phase db error _ => onChain_caught phase error
  case outside =>
    intro state id phase external env next _ _ _ _ _ _ taken
    exact ⟨onChain_outside taken, fun _ _ _ known => known⟩
  case commit =>
    intro state id phase next log writes _ base holds _ known _ commits _
    obtain ⟨start, _, _, entry⟩ := commits_entry keeping_keeps (fun _ _ keeping => keeping.1)
      (Commits.below (Commits.below commits))
    have once := entry_settledOnce known.1.1.1 commits entry base.1.1 holds.2
    refine ⟨⟨?_, once⟩, commits_onChain commits, fun _ _ _ _ _ _ known => ⟨known, trivial⟩⟩
    intro row member failed
    rcases mem_view_transaction member with before | written
    · exact holds.1 row before failed
    · exact entry_unsent known.1.1.1 known.1.2 entry written failed

end Unsent

section Spent
variable {settings : Settings} {req : RequestContext}

/-- The lookups after an attempt that has failed for good. -/
def Fallback.spent : Fallback → Bool
  | .throw _ | .swallow _ _ => true
  | .proceed _ | .clear _ => false

/-- The phases of a request that has given up, up to its answer. -/
def Phase.spent : Phase → Bool
  | .replaying _ _ fallback => fallback.spent
  | .returned _ | .failed _ => true
  | _ => false

theorem spent_fallback {fallback : Fallback} (spent : fallback.spent = true) : (fallback.phase req).spent = true := by
  cases fallback with
  | proceed | clear => cases spent
  | throw error => rfl
  | swallow error handler =>
    cases handler with
    | false => rfl
    | true =>
      simp only [Fallback.phase]
      split <;> rfl

theorem spent_thrown (error : Failure) {fallback : Fallback} (spent : fallback.spent = true) :
    (fallback.thrown req error).spent = true := by
  cases fallback with
  | swallow first handler => exact spent_fallback rfl
  | _ => rfl

theorem spent_replayPhase {fallback : Fallback} (spent : fallback.spent = true) (row : Option (IdempotencyRow Reply)) :
    (replayPhase req fallback row).spent = true := by
  cases row with
  | none => exact spent_fallback spent
  | some row =>
    simp only [replayPhase]
    split
    next => exact spent_thrown _ spent
    next =>
      split
      next => rfl
      next => exact spent_thrown _ spent

theorem spent_caught {phase : Phase} (error : Failure) (spent : phase.spent = true) :
    (caught phase error).spent = true := by
  cases phase with
  | replaying req stage fallback => exact spent_thrown error spent
  | returned | failed => rfl
  | _ => cases spent

theorem spent_body {phase : Phase} {program : Tx Phase} (spent : phase.spent = true)
    (runs : body settings phase = some program) : program.Returns fun next => next.spent = true := by
  cases phase with
  | replaying req stage fallback =>
    cases runs
    cases stage with
    | find =>
      apply Program.returns_bind
      intro found
      dsimp only
      split
      next =>
        split
        next => exact spent
        next => exact spent_replayPhase spent _
      next => exact spent_replayPhase spent _
    | deleteExpired =>
      apply Program.returns_bind
      intro _
      exact spent
    | findAgain =>
      apply Program.returns_bind
      intro found
      exact spent_replayPhase spent _
  | returned | failed => cases runs
  | _ => cases spent

theorem spent_outside {env after : Env} {id : Nat} {phase next : Phase} {external : External}
    (spent : phase.spent = true) : outside settings env id phase external ≠ some (after, next) := by
  intro taken
  cases phase with
  | replaying | returned | failed => cases taken
  | _ => cases spent

end Spent

section Tracking
variable {settings : Settings} {actions : List Action} {action : Action} {handed : Handed}

/-- The second attempt to record the transaction. -/
def LastAttempt (transactionId : RowId) : Phase → Prop
  | .finalizingCreation _ reserved _ (some _) => reserved.transactionId = transactionId
  | .finalizingSettlement _ _ reserved _ (some _) => reserved.transactionId = transactionId
  | _ => False

/-- The hash is the one that was signed, or the one that the node has answered with. -/
def Named (actions : List Action) (handed : Handed) (txHash : String) : Prop :=
  txHash = handed.txHash ∨ .outside handed.transactionId.request (.answer (.ok txHash)) ∈ actions

/-- The phases between the broadcast and its record. -/
def Delivers (actions : List Action) (handed : Handed) : Phase → Prop
  | .lockSent _ reserved _ signedHash => reserved.transactionId = handed.transactionId ∧ signedHash = handed.txHash
  | .settlementSent _ _ reserved signedHash =>
      reserved.transactionId = handed.transactionId ∧ signedHash = handed.txHash
  | .finalizingCreation _ reserved result _ => reserved.transactionId = handed.transactionId ∧
      ∃ txHash, result.txHash = some txHash ∧ Named actions handed txHash
  | .finalizingSettlement _ _ reserved result _ => reserved.transactionId = handed.transactionId ∧
      ∃ txHash, result.txHash = some txHash ∧ Named actions handed txHash
  | _ => False

/-- The process has failed to record the broadcast, in its second attempt as well. -/
def GaveUp (settings : Settings) (actions : List Action) (handed : Handed) : Prop :=
  ∃ earlier action later state phase error, actions = earlier ++ action :: later ∧
    run (step settings) initial earlier = some state ∧ action.process = handed.transactionId.request ∧
    raised state action = some (phase, error) ∧ LastAttempt handed.transactionId phase

/-- Where the process is that has not recorded a broadcast: it works on, is dead or has given up. -/
inductive Unrecorded (settings : Settings) (actions : List Action) (handed : Handed) (phase : Phase) (alive : Bool) : Prop
  | works (delivers : Delivers actions handed phase)
  | died (dead : alive = false)
  | gaveUp (spent : phase.spent = true) (twice : GaveUp settings actions handed)

theorem Named.later {txHash : String} (named : Named actions handed txHash) :
    Named (actions ++ [action]) handed txHash :=
  named.imp_right fun member => List.mem_append_left _ member

theorem Delivers.later {phase : Phase} (delivers : Delivers actions handed phase) :
    Delivers (actions ++ [action]) handed phase := by
  cases phase with
  | lockSent | settlementSent => exact delivers
  | finalizingCreation | finalizingSettlement =>
    obtain ⟨same, txHash, hash, named⟩ := delivers
    exact ⟨same, txHash, hash, named.later⟩
  | _ => exact delivers.elim

theorem GaveUp.later (twice : GaveUp settings actions handed) : GaveUp settings (actions ++ [action]) handed := by
  obtain ⟨earlier, failing, later, state, phase, error, same, rest⟩ := twice
  refine ⟨earlier, failing, later ++ [action], state, phase, error, ?_, rest⟩
  rw [same, List.append_assoc, List.cons_append]

theorem Unrecorded.later {phase : Phase} {alive : Bool} (unrecorded : Unrecorded settings actions handed phase alive) :
    Unrecorded settings (actions ++ [action]) handed phase alive := by
  cases unrecorded with
  | works delivers => exact .works delivers.later
  | died dead => exact .died dead
  | gaveUp spent twice => exact .gaveUp spent twice.later

/-- An error leads from an attempt to the next one, or to the end. -/
theorem delivers_caught {state : State} {phase : Phase} {error : Failure}
    (reached : run (step settings) initial actions = some state) (own : action.process = handed.transactionId.request)
    (ended : raised state action = some (phase, error)) {program : Tx Phase} (runs : body settings phase = some program)
    (delivers : Delivers actions handed phase) :
    Unrecorded settings (actions ++ [action]) handed (caught phase error) true := by
  cases phase with
  | lockSent | settlementSent => cases runs
  | finalizingCreation req reserved result first =>
    cases first with
    | none =>
      have again : Delivers actions handed (.finalizingCreation req reserved result (some error)) := delivers
      exact .works again.later
    | some first =>
      exact .gaveUp rfl ⟨actions, action, [], state, _, error, rfl, reached, own, ended, delivers.1⟩
  | finalizingSettlement req operation reserved result first =>
    cases first with
    | none =>
      have again : Delivers actions handed (.finalizingSettlement req operation reserved result (some error)) := delivers
      exact .works again.later
    | some first =>
      exact .gaveUp rfl ⟨actions, action, [], state, _, error, rfl, reached, own, ended, delivers.1⟩
  | _ => exact delivers.elim

theorem delivers_outside {env after : Env} {phase next : Phase} {external : External}
    (taken : outside settings env handed.transactionId.request phase external = some (after, next))
    (delivers : Delivers actions handed phase) :
    Delivers (actions ++ [.outside handed.transactionId.request external]) handed next := by
  have named : ∀ txHash, external = .answer (.ok txHash) →
      Named (actions ++ [.outside handed.transactionId.request external]) handed txHash := by
    rintro txHash rfl
    exact .inr (List.mem_append_right _ (List.mem_singleton_self _))
  cases phase with
  | lockSent req reserved commitment signedHash =>
    obtain ⟨same, rfl⟩ := delivers
    cases external with
    | answer hash =>
      cases taken
      refine ⟨same, ?_⟩
      cases hash with
      | ok txHash => exact ⟨txHash, rfl, named txHash rfl⟩
      | error error => exact ⟨_, rfl, .inl rfl⟩
    | _ => cases taken
  | settlementSent req operation reserved signedHash =>
    obtain ⟨same, rfl⟩ := delivers
    cases external with
    | answer hash =>
      cases taken
      refine ⟨same, ?_⟩
      cases hash with
      | ok txHash => exact ⟨txHash, rfl, named txHash rfl⟩
      | error error => exact ⟨_, rfl, .inl rfl⟩
    | _ => cases taken
  | finalizingCreation | finalizingSettlement => cases taken
  | _ => exact delivers.elim

end Tracking

section Steps
variable {settings : Settings} {actions : List Action} {action : Action} {handed : Handed} {state after : State}

/-- Every step keeps the transactions under a hash, and what the other processes wait to record. -/
theorem step_held (sound : Sound (app settings) broadcasts state) (taken : step settings state action = some after) :
    Table.Kept (fun row => row.txHash ≠ none) TransactionHeld state.db.transactions after.db.transactions ∧
      ∀ other, other ≠ action.process → Held other state.db after.db := by
  rw [step_db taken]
  cases sound.committed action with
  | inl none =>
    rw [none]
    exact ⟨(Held.refl 0 state.db).transactions, fun other _ => .refl other state.db⟩
  | inr some =>
    obtain ⟨id, phase, next, log, writes, rfl, _, same, ⟨⟨⟨ground, knows⟩, _⟩, _⟩, commits⟩ := some
    rw [same]
    obtain ⟨start, initially, _, entry⟩ := commits_entry keeping_keeps (fun _ _ keeping => keeping.1)
      (Commits.below (Commits.below commits))
    have change := entry_change ground.1 initially sound.holds.1.1 knows entry
    exact ⟨change.transactions, fun other different => change.held different⟩

/-- A commit of the process itself gives the row its hash. -/
theorem delivers_commit {id : Nat} {phase next : Phase} {writes : List Write} {db start : Db} (own : phase.Owned id)
    (initially : Initially custody id phase start) (knows : Knows id phase db)
    (entry : Entry custody.holds (Keeping id) start db phase next (Write.to .escrows writes)
      (Write.to .transactions writes)) (delivers : Delivers actions handed phase) {row : Transaction}
    (stored : db.transactions.get handed.transactionId = some row) : ∃ new txHash,
      (Storage.view writes db).transactions.get handed.transactionId = some new ∧ new.terms = row.terms ∧
        new.txHash = some txHash ∧ Named actions handed txHash := by
  generalize escrowsIs : Write.to .escrows writes = escrows at entry
  generalize transactionsIs : Write.to .transactions writes = transactions at entry
  have put : ∀ {new : Transaction}, transactions = [.transaction new] → new.id = handed.transactionId →
      (Storage.view writes db).transactions.get handed.transactionId = some new := by
    intro new written key
    have rows : Write.to .transactions writes = [new].map Write.transaction := transactionsIs.trans written
    rw [← key]
    exact stored_transactions.get_last rows rfl db
  cases phase with
  | lockSent | settlementSent =>
    cases entry with
    | aside aside => cases aside
  | finalizingCreation req reserved result first =>
    obtain ⟨same, txHash, hash, named⟩ := delivers
    cases entry with
    | aside aside => cases aside
    | @locked _ _ _ _ reply old _ valid fresh owner there booked =>
      cases booked with
      | missed missing =>
        obtain ⟨here, since, _, missing⟩ := missing
        have found := ((reserved_since initially rfl since).found knows.proper.1).2
        rw [own.creation _ rfl, found] at missing
        cases missing
      | @row found now _ here =>
        rw [same, stored] at here
        cases here
        exact ⟨_, txHash, put rfl (Table.key_of_get stored), rfl, hash, named⟩
  | finalizingSettlement req operation reserved result first =>
    obtain ⟨same, txHash, hash, named⟩ := delivers
    cases entry with
    | aside aside => cases aside
    | @settled _ _ _ _ _ reply old nextStatus _ nextIs pending owner there booked =>
      cases booked with
      | missed missing =>
        obtain ⟨here, since, _, missing⟩ := missing
        obtain ⟨_, _, _, known⟩ := initially
        have found := (known.later since.2.2).settlement operation reserved rfl
        rw [own.settlement _ rfl, transactionForApp_some.mpr ⟨found, knows.proper⟩] at missing
        cases missing
      | @row found now _ here =>
        rw [same, stored] at here
        cases here
        exact ⟨_, txHash, put rfl (Table.key_of_get stored), rfl, hash, named⟩
  | _ => exact delivers.elim

/-- What has become of a transaction that was handed to the node: its row carries the hash, or
waits for it. -/
def Tracked (settings : Settings) (actions : List Action) (state : State) (handed : Handed) : Prop :=
  ∃ row, state.db.transactions.get handed.transactionId = some row ∧ row.escrowId = some handed.escrowId ∧
    row.type = handed.type ∧ row.rail = .ckb ∧
    ((∃ txHash, row.txHash = some txHash ∧ Named actions handed txHash) ∨
      row.txHash = none ∧ row.status = .pending ∧ ∃ process,
        state.processes handed.transactionId.request = some process ∧
          Unrecorded settings actions handed process.phase process.alive)

/-- A step of the process that has not recorded its broadcast. -/
theorem tracked_own (sound : Sound (app settings) broadcasts state)
    (reached : run (step settings) initial actions = some state) (taken : step settings state action = some after)
    (own : action.process = handed.transactionId.request) {row : Transaction}
    (stored : state.db.transactions.get handed.transactionId = some row) (belongs : row.escrowId = some handed.escrowId)
    (type : row.type = handed.type) (ckb : row.rail = .ckb) (none : row.txHash = none) (pending : row.status = .pending)
    {process : Process Db Write Query Failure Phase}
    (here : state.processes handed.transactionId.request = some process)
    (unrecorded : Unrecorded settings actions handed process.phase process.alive) :
    Tracked settings (actions ++ [action]) after handed := by
  obtain ⟨new, processes, move⟩ := step_move taken
  have there : after.processes handed.transactionId.request = some new := by
    rw [processes, ← own, Function.update_self]
  have waits : after.db.transactions.get handed.transactionId = some row →
      Unrecorded settings (actions ++ [action]) handed new.phase new.alive →
      Tracked settings (actions ++ [action]) after handed :=
    fun kept unrecorded => ⟨row, kept, belongs, type, ckb, .inr ⟨none, pending, new, there, unrecorded⟩⟩
  have idle : ReadCommitted.committed state action = [] → after.db.transactions.get handed.transactionId = some row := by
    intro nothing
    rw [step_db taken, nothing]
    exact stored
  rw [← own] at here
  cases move with
  | arrive absent =>
    cases here.symm.trans absent
  | start found runs =>
    cases Option.some.inj (here.symm.trans found)
    exact waits (idle rfl) unrecorded.later
  | statement found executed =>
    cases Option.some.inj (here.symm.trans found)
    exact waits (idle rfl) unrecorded.later
  | caught found ended nothing =>
    cases Option.some.inj (here.symm.trans found)
    apply waits (idle nothing)
    obtain ⟨program, _, runs, _⟩ := sound.continues _ _ _ found rfl rfl
    cases unrecorded with
    | works delivers => exact delivers_caught reached own ended runs delivers
    | died dead => cases dead
    | gaveUp spent twice => exact .gaveUp (spent_caught _ spent) twice.later
  | @outside id external phase next env found result =>
    cases Option.some.inj (here.symm.trans found)
    apply waits (idle rfl)
    cases unrecorded with
    | works delivers =>
      obtain rfl : id = handed.transactionId.request := own
      exact .works (delivers_outside result delivers)
    | died dead => cases dead
    | gaveUp spent twice => exact absurd result (spent_outside spent)
  | @commit id phase next log writes found published =>
    cases Option.some.inj (here.symm.trans found)
    obtain rfl : id = handed.transactionId.request := own
    have known := sound.knows _ _ found rfl
    have commits := (sound.continues _ _ _ found rfl rfl).commits sound.holds
    obtain ⟨start, initially, _, entry⟩ := commits_entry keeping_keeps (fun _ _ keeping => keeping.1)
      (Commits.below (Commits.below commits))
    have db : after.db = Storage.view writes state.db := by rw [step_db taken, published]
    cases unrecorded with
    | works delivers =>
      obtain ⟨new, txHash, found, terms, hash, named⟩ :=
        delivers_commit known.1.1.1.1 initially known.1.1.2 entry delivers stored
      have same := congrArg TransactionTerms.escrowId terms
      have sameType := congrArg TransactionTerms.type terms
      have sameRail := congrArg TransactionTerms.rail terms
      exact ⟨new, db ▸ found, same.trans belongs, sameType.trans type, sameRail.trans ckb,
        .inl ⟨txHash, hash, named.later⟩⟩
    | died dead => cases dead
    | gaveUp spent twice =>
      have untouched : Write.to .transactions writes = [] := by
        generalize Write.to .escrows writes = escrows at entry
        generalize Write.to .transactions writes = transactions at entry
        cases entry with
        | aside => rfl
        | fundedAlready => rfl
        | _ => cases spent
      apply waits
      · rw [db, stored_transactions.untouched untouched]
        exact stored
      · obtain ⟨program, _, last, runs, _, outcome, _⟩ := commits
        exact .gaveUp (outcome.returns (spent_body spent runs)) twice.later
  | crash found => exact waits (idle rfl) (.died rfl)

/-- Nothing is handed to the node but what was signed before. -/
inductive Hands : Phase → Phase → Handed → Prop
  | lock {req : RequestContext} {reserved : ReservedEscrowCreation} {commitment : CkbEscrowCommitment} {signedHash : String} :
      Hands (.lockSigned req reserved commitment signedHash) (.lockSent req reserved commitment signedHash)
        ⟨reserved.transactionId, reserved.created.id, .lock, signedHash⟩
  | settlement {req : RequestContext} {operation : SettlementOperation} {reserved : ReservedEscrowSettlement}
      {signedHash : String} :
      Hands (.settlementSigned req operation reserved signedHash) (.settlementSent req operation reserved signedHash)
        ⟨reserved.transactionId, reserved.pending.id, settlementType operation, signedHash⟩

theorem outside_hands {env env' : Env} {id : Nat} {phase next : Phase} {external : External}
    (taken : outside settings env id phase external = some (env', next)) :
    env'.handed = env.handed ∨ ∃ handed, Hands phase next handed ∧ env'.handed = env.handed ++ [handed] := by
  cases phase <;> cases external <;> try (cases taken; done)
  case locking.localRail | funding.localRail | settling.localRail =>
    simp only [outside] at taken
    split at taken
    next => cases taken
    next => cases taken; exact .inl rfl
  case locking.sign | settling.sign | funding.verify =>
    simp only [outside] at taken
    split at taken
    next => cases taken
    next => split at taken <;> (cases taken; exact .inl rfl)
  case observing.observe =>
    simp only [outside] at taken
    split at taken <;> (cases taken; exact .inl rfl)
  case lockSigned.send =>
    cases taken
    exact .inr ⟨_, .lock, rfl⟩
  case settlementSigned.send =>
    cases taken
    exact .inr ⟨_, .settlement, rfl⟩
  all_goals
    simp only [outside, Option.some.injEq, Prod.mk.injEq] at taken
    rw [← taken.1]
    exact .inl rfl

theorem handed_cases (taken : step settings state action = some after) :
    after.env.handed = state.env.handed ∨ ∃ phase next handed,
      state.processes action.process = some ⟨phase, none, true⟩ ∧
      after.processes action.process = some ⟨next, none, true⟩ ∧ after.db = state.db ∧ Hands phase next handed ∧
      after.env.handed = state.env.handed ++ [handed] := by
  rcases step_env taken with same | ⟨id, phase, external, next, rfl, here, result⟩
  · exact .inl (congrArg Env.handed same)
  · rcases outside_hands result with same | ⟨handed, hands, added⟩
    · exact .inl same
    · refine .inr ⟨phase, next, handed, here, ?_, step_db taken, hands, added⟩
      simp only [ReadCommitted.step, here, result, Option.map_some, Option.some.injEq] at taken
      rw [← taken]
      exact Function.update_self ..

/-- What was handed over before the step. -/
theorem tracked_old (sound : Sound (app settings) broadcasts state)
    (reached : run (step settings) initial actions = some state) (taken : step settings state action = some after)
    (tracked : Tracked settings actions state handed) : Tracked settings (actions ++ [action]) after handed := by
  obtain ⟨row, stored, belongs, type, ckb, recorded⟩ := tracked
  obtain ⟨keeps, others⟩ := step_held sound taken
  rcases recorded with ⟨txHash, hash, named⟩ | ⟨none, pending, process, here, unrecorded⟩
  · obtain ⟨now, found, _, terms, _, same⟩ := keeps _ row stored (by simp [hash])
    exact ⟨now, found, (congrArg TransactionTerms.escrowId terms).trans belongs,
      (congrArg TransactionTerms.type terms).trans type, (congrArg TransactionTerms.rail terms).trans ckb,
      .inl ⟨txHash, (same ckb).trans hash, named.later⟩⟩
  · by_cases own : action.process = handed.transactionId.request
    · exact tracked_own sound reached taken own stored belongs type ckb none pending here unrecorded
    · have key : row.id = handed.transactionId := Table.key_of_get stored
      obtain ⟨_, found, rfl⟩ := (others _ (Ne.symm own)).ownTransactions _ row stored ⟨by rw [key], none⟩
      obtain ⟨new, processes, _⟩ := step_move taken
      refine ⟨row, found, belongs, type, ckb, .inr ⟨none, pending, process, ?_, unrecorded.later⟩⟩
      rw [processes, Function.update_of_ne (Ne.symm own)]
      exact here

/-- What is handed over in a step has its row, and its process has handed nothing over before. -/
theorem tracked_new (sound : Sound (app settings) broadcasts state) {phase next : Phase}
    (here : state.processes action.process = some ⟨phase, none, true⟩)
    (there : after.processes action.process = some ⟨next, none, true⟩) (db : after.db = state.db)
    (hands : Hands phase next handed) : Tracked settings (actions ++ [action]) after handed ∧
      ∀ other, Tracked settings actions state other → other.transactionId ≠ handed.transactionId := by
  have known := sound.knows _ _ here rfl
  -- the row waits for its hash, and the phase is before the broadcast
  have fresh : handed.transactionId.request = action.process → ∀ row : Transaction,
      state.db.transactions.get handed.transactionId = some row → row.txHash = none →
      ∀ other, Tracked settings actions state other → other.transactionId ≠ handed.transactionId := by
    intro mine row stored none other tracked same
    obtain ⟨found, foundIn, _, _, _, ⟨txHash, hash, _⟩ | ⟨_, _, process, running, unrecorded⟩⟩ := tracked
    · rw [same, stored] at foundIn
      cases foundIn
      rw [none] at hash
      cases hash
    · rw [same, mine, here] at running
      cases running
      cases unrecorded with
      | works delivers => cases hands <;> exact delivers.elim
      | died dead => cases dead
      | gaveUp spent => cases hands <;> cases spent
  cases hands with
  | @lock req reserved commitment signedHash =>
    have stored := (known.1.1.2.creation reserved rfl).transaction
    have id : reserved.transactionId = ⟨action.process, 1⟩ := known.1.1.1.1.creation reserved rfl
    have ckb : reserved.created.rail = .ckb := known.2
    rw [← id] at stored
    refine ⟨⟨_, db ▸ stored, rfl, rfl, ckb, .inr ⟨rfl, rfl, ⟨.lockSent req reserved commitment signedHash, none, true⟩,
      ?_, .works ⟨rfl, rfl⟩⟩⟩, fresh (by rw [id]) _ stored rfl⟩
    rw [id]
    exact there
  | @settlement req operation reserved signedHash =>
    have stored := known.1.1.2.settlement operation reserved rfl
    have id : reserved.transactionId = ⟨action.process, 0⟩ := known.1.1.1.1.settlement reserved rfl
    have ckb : reserved.pending.rail = .ckb := known.2
    rw [← id] at stored
    refine ⟨⟨_, db ▸ stored, rfl, rfl, ckb, .inr ⟨rfl, rfl, ⟨.settlementSent req operation reserved signedHash, none, true⟩,
      ?_, .works ⟨rfl, rfl⟩⟩⟩, fresh (by rw [id]) _ stored rfl⟩
    rw [id]
    exact there

end Steps

section Runs
variable {settings : Settings}

theorem broadcasts_empty : broadcasts.holds Db.empty :=
  ⟨outbox_empty, fun _ member => absurd member (Table.not_mem_empty _),
    fun _ member => absurd member (Table.not_mem_empty _)⟩

theorem broadcasts_sound {actions : List Action} {state : State}
    (reached : run (step settings) initial actions = some state) : Sound (app settings) broadcasts state :=
  Sound.always broadcasts_preserved broadcasts_empty actions reached

theorem handed_tracked (actions : List Action) {state : State}
    (reached : run (step settings) initial actions = some state) :
    (∀ handed ∈ state.env.handed, Tracked settings actions state handed) ∧
      (state.env.handed.map (·.transactionId)).Nodup := by
  induction actions using List.reverseRecOn generalizing state with
  | nil =>
    cases reached
    exact ⟨fun handed member => absurd member List.not_mem_nil, List.nodup_nil⟩
  | append_singleton actions action ih =>
    obtain ⟨middle, earlier, taken⟩ := run_snoc reached
    have sound := broadcasts_sound earlier
    obtain ⟨tracked, once⟩ := ih earlier
    have old : ∀ handed ∈ middle.env.handed, Tracked settings (actions ++ [action]) state handed :=
      fun handed member => tracked_old sound earlier taken (tracked handed member)
    rcases handed_cases taken with same | ⟨phase, next, new, here, there, db, hands, added⟩
    · rw [same]
      exact ⟨old, once⟩
    · obtain ⟨mine, apart⟩ := tracked_new sound here there db hands
      rw [added]
      constructor
      · intro handed member
        rcases List.mem_append.mp member with before | last
        · exact old handed before
        · cases List.mem_singleton.mp last
          exact mine
      · rw [List.map_append, List.map_singleton, List.nodup_append]
        refine ⟨once, List.nodup_singleton _, ?_⟩
        intro one member two last
        obtain ⟨other, before, rfl⟩ := List.mem_map.mp member
        cases List.mem_singleton.mp last
        exact apart other (tracked other before)

/-- What was handed to the node, and the transactions by their hashes. -/
def handedView (state : State) : List Handed × List (RowId × Option String) :=
  (state.env.handed, state.db.transactions.rows.map fun row => (row.id, row.txHash))

def openedLock : Handed := ⟨⟨4, 1⟩, ⟨4, 0⟩, .lock, lockHash⟩

theorem opening_hands : (run (step testnet) initial opening).map handedView =
    some ([openedLock], [(⟨4, 1⟩, some lockHash)]) := by
  rw [quickStep_eq]
  decide +kernel

/-- The node gets one transaction at most for each escrow and type. -/
theorem handed_once {actions : List Action} {state : State} (reached : run (step settings) initial actions = some state) :
    (state.env.handed.map fun handed => (handed.escrowId, handed.type)).Nodup := by
  obtain ⟨⟨⟨ground, custody⟩, _⟩, _, once⟩ := (broadcasts_sound reached).holds
  obtain ⟨tracked, apart⟩ := handed_tracked actions reached
  apply List.Nodup.map_on _ (List.Nodup.of_map _ apart)
  intro first firstIn second secondIn same
  obtain ⟨sameEscrow, sameType⟩ := Prod.mk.inj same
  apply List.inj_on_of_nodup_map apart firstIn secondIn
  obtain ⟨one, oneStored, oneEscrow, oneType, _⟩ := tracked first firstIn
  obtain ⟨two, twoStored, twoEscrow, twoType, _⟩ := tracked second secondIn
  have oneIn := Table.mem_of_get oneStored
  have twoIn := Table.mem_of_get twoStored
  have escrows : one.escrowId = two.escrowId := by rw [oneEscrow, twoEscrow, sameEscrow]
  have types : one.type = two.type := by rw [oneType, twoType, sameType]
  have keys : one.id = two.id := by
    by_cases lock : one.type = .lock
    · -- a lock is known by the request that created its escrow
      obtain ⟨oneKey, escrow, escrowKey, _, locks⟩ := custody.owner ground.typed oneIn lock
      obtain ⟨twoKey, escrow', escrowKey', _, locks'⟩ := custody.owner ground.typed twoIn (types ▸ lock)
      have owners : escrow.id = escrow'.id := by
        apply Option.some.inj
        rw [← locks.belongs, ← locks'.belongs, escrows]
      rw [escrowKey, escrowKey'] at owners
      rw [oneKey, twoKey, congrArg RowId.request owners]
    · exact once one oneIn two twoIn lock escrows types
  calc first.transactionId
    _ = one.id := (Table.key_of_get oneStored).symm
    _ = two.id := keys
    _ = second.transactionId := Table.key_of_get twoStored

theorem opening_handed_once : ∃ final, run (step testnet) initial opening = some final ∧
    openedLock ∈ final.env.handed ∧ (final.env.handed.map fun handed => (handed.escrowId, handed.type)).Nodup := by
  obtain ⟨final, reached, view⟩ := Option.map_eq_some_iff.mp opening_hands
  have member : openedLock ∈ final.env.handed := by
    rw [(Prod.mk.inj view).1]
    exact List.mem_singleton_self _
  exact ⟨final, reached, member, handed_once reached⟩

end Runs

end PactAgent.Server
