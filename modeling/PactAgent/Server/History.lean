import PactAgent.Server.Effects

/-! The history of a row: the statuses that the commits of a run write into it, those
inside one transaction included. Every history is a path of the lifecycle table of its
row, whatever the interleaving, and a request that works in one transaction leaves no
trace when it fails. -/

namespace PactAgent.Server
open PactAgent.Common PactAgent.Foundation PactAgent.Lifecycle PactAgent.Store PactAgent.Escrow
open PactAgent.Foundation.Execution PactAgent.Foundation.ReadCommitted
open PactAgent.Idempotency.Repository PactAgent.Rail.Builder

variable {settings : Settings}

/-- The writes that the commits of a run publish, in order. -/
def published (settings : Settings) : State → List Action → List Write
  | _, [] => []
  | state, action :: actions =>
      match step settings state action with
      | some next => committed state action ++ published settings next actions
      | none => []

section Lanes

/-- A row is inserted in its first status and then moves. -/
inductive Edge {Status : Type} (first : Status) (moves : Status → Status → Prop) :
    Option Status → Option Status → Prop
  | inserted : Edge first moves none (some first)
  | moved {old new : Status} (move : moves old new) : Edge first moves (some old) (some new)

/-- The status of one row: how to read it, what a write makes of it, and the edges
that lawful writes follow. -/
structure Lane (Status : Type) where
  read : Db → Option Status
  observe : Write → Option (Option Status)
  edge : Option Status → Option Status → Prop
  apply : ∀ write db, read (applyWrite write db) = (observe write).getD (read db)
  lawful : ∀ request write db status, Lawful request db write → observe write = some status →
    edge (read db) status

/-- The statuses that a run writes into the row. -/
def Lane.history {Status : Type} (lane : Lane Status) (settings : Settings) (state : State)
    (actions : List Action) : List (Option Status) :=
  (published settings state actions).filterMap lane.observe

variable {Status : Type} {lane : Lane Status}

theorem chain_path {request : Nat} {writes : List Write} {db : Db}
    (chain : Storage.Chain (Lawful request) writes db) :
    Path lane.edge (lane.read db) (writes.filterMap lane.observe) (lane.read (Storage.view writes db)) := by
  induction writes generalizing db with
  | nil => rfl
  | cons write writes ih =>
    have rest := ih chain.2
    change Path lane.edge (lane.read (applyWrite write db)) _ _ at rest
    rw [lane.apply] at rest
    cases observed : lane.observe write with
    | none =>
      rw [observed] at rest
      rw [List.filterMap_cons_none observed]
      exact rest
    | some status =>
      rw [observed] at rest
      rw [List.filterMap_cons_some observed]
      exact ⟨lane.lawful request write db status chain.1 observed, rest⟩

/-- The history of a row from any sound state on. -/
theorem history_path_from (actions : List Action) (state final : State)
    (sound : Sound (app settings) ownership state) (reached : run (step settings) state actions = some final) :
    Path lane.edge (lane.read state.db) (lane.history settings state actions) (lane.read final.db) := by
  induction actions generalizing state with
  | nil =>
    cases reached
    rfl
  | cons action actions ih =>
    obtain ⟨next, taken, reached⟩ := run_cons reached
    obtain ⟨request, chain⟩ := committed_chain sound action
    have first := @chain_path _ lane _ _ _ chain
    have rest := ih next (ownership_sound sound taken) reached
    rw [← step_db taken] at first
    have split : lane.history settings state (action :: actions) =
        (committed state action).filterMap lane.observe ++ lane.history settings next actions := by
      simp only [Lane.history, published, taken, List.filterMap_append]
    rw [split]
    exact first.append rest

theorem history_path (lane : Lane Status) {actions : List Action} {final : State}
    (reached : run (step settings) initial actions = some final) :
    Path lane.edge (lane.read Db.empty) (lane.history settings initial actions) (lane.read final.db) :=
  history_path_from actions initial final (Sound.initial trivial) reached

end Lanes

section Tables
variable {Row : Type} [Keyed Row RowId] {Status : Type} (status : Row → Status) (id : RowId)

theorem read_put (row : Row) (table : Foundation.Table Row) :
    ((table.put row).get id).map status =
      (if Keyed.key row = id then some (some (status row)) else none).getD ((table.get id).map status) := by
  by_cases same : Keyed.key row = id
  · rw [if_pos same, ← same, Table.get_put_self]
    rfl
  · rw [if_neg same, Table.get_put_of_ne (Ne.symm same)]
    rfl

theorem read_remove (key : RowId) (table : Foundation.Table Row) :
    ((table.remove key).get id).map status =
      (if key = id then some none else none).getD ((table.get id).map status) := by
  by_cases same : key = id
  · rw [if_pos same, ← same, Table.get_remove_self]
    rfl
  · rw [if_neg same, Table.get_remove_of_ne (Ne.symm same)]
    rfl

/-- A row rule gives an edge from the stored status. -/
theorem edge_of_rule {request : Nat} {first : Status} {moves : Status → Status → Prop} {stored : Option Row}
    {row : Row} {next : Row → Prop} (rule : RowRule request (Keyed.key row) (status row = first) next stored)
    (each : ∀ old, next old → moves (status old) (status row)) :
    Edge first moves (stored.map status) (some (status row)) := by
  cases stored with
  | none =>
    rw [rule.2]
    exact .inserted
  | some old => exact .moved (each old rule)

end Tables

section Rows
variable (id : RowId)

def agreementLane : Lane AgreementStatus where
  read db := (db.agreements.get id).map (·.status)
  observe
    | .agreement row => if row.id = id then some (some row.status) else none
    | _ => none
  edge := Edge .draft fun old new => canTransitionAgreement old new = true
  apply write db := by
    cases write with
    | agreement row => exact read_put Agreement.status id row db.agreements
    | _ => rfl
  lawful request write db status lawful observed := by
    cases write with
    | agreement row =>
      dsimp only at observed
      split at observed
      next same =>
        cases observed
        rw [← same]
        apply edge_of_rule Agreement.status lawful
        intro old move
        obtain ⟨next, now, valid, rfl⟩ := move
        rw [transition_status]
        exact valid
      next => cases observed
    | _ => cases observed

def milestoneLane : Lane MilestoneStatus where
  read db := (db.milestones.get id).map (·.status)
  observe
    | .milestone row => if row.id = id then some (some row.status) else none
    | _ => none
  edge := Edge .pending fun old new => canTransitionMilestone old new = true
  apply write db := by
    cases write with
    | milestone row => exact read_put Milestone.status id row db.milestones
    | _ => rfl
  lawful request write db status lawful observed := by
    cases write with
    | milestone row =>
      dsimp only at observed
      split at observed
      next same =>
        cases observed
        rw [← same]
        apply edge_of_rule Milestone.status lawful
        intro old move
        obtain ⟨next, valid, rfl⟩ := move
        exact valid
      next => cases observed
    | _ => cases observed

def proofLane : Lane ProofStatus where
  read db := (db.proofs.get id).map (·.status)
  observe
    | .proof row => if row.id = id then some (some row.status) else none
    | _ => none
  edge := Edge .submitted fun old new => proofMoves old new = true
  apply write db := by
    cases write with
    | proof row => exact read_put Proof.status id row db.proofs
    | _ => rfl
  lawful request write db status lawful observed := by
    cases write with
    | proof row =>
      dsimp only at observed
      split at observed
      next same =>
        cases observed
        rw [← same]
        apply edge_of_rule Proof.status lawful
        intro old move
        obtain ⟨next, valid, rfl⟩ := move
        exact valid
      next => cases observed
    | _ => cases observed

def disputeLane : Lane DisputeStatus where
  read db := (db.disputes.get id).map (·.status)
  observe
    | .dispute row => if row.id = id then some (some row.status) else none
    | _ => none
  edge := Edge .opened fun old new => old.unresolved = true ∧ new.unresolved = false
  apply write db := by
    cases write with
    | dispute row => exact read_put Dispute.status id row db.disputes
    | _ => rfl
  lawful request write db status lawful observed := by
    cases write with
    | dispute row =>
      dsimp only at observed
      split at observed
      next same =>
        cases observed
        rw [← same]
        apply edge_of_rule Dispute.status lawful
        intro old move
        obtain ⟨input, now, unresolved, rfl⟩ := move
        refine ⟨unresolved, ?_⟩
        unfold Dispute.resolvedBy
        cases input.resolutionType <;> rfl
      next => cases observed
    | _ => cases observed

/-- An escrow may also be discarded before its lock is created. -/
def escrowEdge (old new : Option EscrowStatus) : Prop :=
  Edge .notCreated (fun old new => old = new ∨ canTransitionEscrow old new = true) old new ∨
    (old = some .notCreated ∧ new = none)

def escrowLane : Lane EscrowStatus where
  read db := (db.escrows.get id).map (·.status)
  observe
    | .escrow row => if row.id = id then some (some row.status) else none
    | .deleteEscrow row => if row.id = id then some none else none
    | _ => none
  edge := escrowEdge
  apply write db := by
    cases write with
    | escrow row => exact read_put Escrow.status id row db.escrows
    | deleteEscrow row => exact read_remove Escrow.status id row.id db.escrows
    | _ => rfl
  lawful request write db status lawful observed := by
    cases write with
    | escrow row =>
      dsimp only at observed
      split at observed
      next same =>
        cases observed
        rw [← same]
        apply Or.inl
        apply edge_of_rule Escrow.status lawful
        intro old move
        exact move.1
      next => cases observed
    | deleteEscrow row =>
      dsimp only at observed
      split at observed
      next same =>
        cases observed
        obtain ⟨stored, status⟩ := lawful
        refine .inr ⟨?_, rfl⟩
        rw [← same, stored, Option.map_some, status]
      next => cases observed
    | _ => cases observed

/-- From an unresolved dispute on there is at most one change. -/
theorem dispute_path_length {start finish : Option DisputeStatus} {history : List (Option DisputeStatus)}
    (path : Path (disputeLane id).edge start history finish) :
    history.length ≤ (match start with | none => 2 | some status => if status.unresolved then 1 else 0) := by
  induction history generalizing start with
  | nil => exact Nat.zero_le _
  | cons next rest ih =>
    have shorter := ih path.2
    cases path.1 with
    | inserted =>
      simp only [DisputeStatus.unresolved] at shorter
      simpa using shorter
    | moved move =>
      simp only [move.2] at shorter
      simp only [move.1, List.length_cons]
      simpa using shorter

end Rows

/-! Requests that fail. Escrow creation and settlement commit a reservation before
they call the rail; every other request changes rows in one transaction only, the
one that answers it. -/

section Failure

def Call.inOneTransaction : Call → Bool
  | .operation _ | .markFunded _ _ => true
  | .createEscrow _ | .settle _ _ => false

def Request.inOneTransaction : Request → Bool
  | .api _ _ _ call => call.inOneTransaction
  | .reconcile _ | .cleanup _ => true

def Fallback.inOneTransaction : Fallback → Bool
  | .proceed call => call.inOneTransaction
  | .throw _ | .clear _ | .swallow _ _ => true

/-- The phases of requests that change rows in one transaction. -/
def Phase.inOneTransaction : Phase → Bool
  | .replaying _ _ fallback => fallback.inOneTransaction
  | .creating _ _ | .locking _ _ | .lockSigned _ _ _ _ | .lockSent _ _ _ _ | .finalizingCreation _ _ _ _
  | .discarding _ _ _ | .settlementReserving _ _ _ | .settling _ _ _ | .settlementSigned _ _ _ _
  | .settlementSent _ _ _ _ | .finalizingFailed _ _ _ _ | .finalizingSettlement _ _ _ _ _ => false
  | _ => true

def Phase.succeeded : Phase → Bool
  | .returned _ | .reconciled _ => true
  | _ => false

/-- A write to the idempotency keys only. -/
def KeyWrite (write : Write) : Prop := write.relation = .idempotencyKeys

/-- The writes that the commits of one process publish in a run. -/
def publishedBy (settings : Settings) (process : Nat) : State → List Action → List Write
  | _, [] => []
  | state, action :: actions =>
      match step settings state action with
      | some next =>
          (if action.process = process then committed state action else []) ++
            publishedBy settings process next actions
      | none => []

theorem Phase.succeeded.inOneTransaction {phase : Phase} (succeeded : phase.succeeded = true) :
    phase.inOneTransaction = true := by
  cases phase <;> first | rfl | cases succeeded

theorem inOneTransaction_afterRace (req : RequestContext) (error : Failure) :
    (afterRace req error).inOneTransaction = true := by
  unfold afterRace
  split <;> rfl

theorem inOneTransaction_firstPhase {req : RequestContext} {call : Call}
    (one : call.inOneTransaction = true) : (firstPhase req call).inOneTransaction = true := by
  cases call <;> first | rfl | cases one

theorem inOneTransaction_fallback {req : RequestContext} {fallback : Fallback}
    (one : fallback.inOneTransaction = true) : (fallback.phase req).inOneTransaction = true := by
  cases fallback with
  | proceed call => exact inOneTransaction_firstPhase one
  | throw error => rfl
  | clear error => rfl
  | swallow error handler =>
    cases handler with
    | false => rfl
    | true => exact inOneTransaction_afterRace req error

theorem inOneTransaction_thrown {req : RequestContext} {error : Failure} {fallback : Fallback}
    (one : fallback.inOneTransaction = true) : (fallback.thrown req error).inOneTransaction = true := by
  cases fallback with
  | swallow first handler => exact inOneTransaction_fallback one
  | _ => rfl

theorem inOneTransaction_replayPhase {req : RequestContext} {fallback : Fallback}
    (row : Option (IdempotencyRow Reply)) (one : fallback.inOneTransaction = true) :
    (replayPhase req fallback row).inOneTransaction = true := by
  cases row with
  | none => exact inOneTransaction_fallback one
  | some row =>
    simp only [replayPhase]
    split
    next => exact inOneTransaction_thrown one
    next =>
      split
      next => rfl
      next => exact inOneTransaction_thrown one

theorem inOneTransaction_caught {phase : Phase} (error : Failure) (one : phase.inOneTransaction = true) :
    (caught phase error).inOneTransaction = true := by
  cases phase with
  | replaying req stage fallback => exact inOneTransaction_thrown one
  | reserving req operation => exact inOneTransaction_afterRace req error
  | fundingReserving req escrowId txHash => exact inOneTransaction_afterRace req error
  | running req operation =>
    simp only [caught]
    split <;> rfl
  | _ => first | rfl | cases one

theorem inOneTransaction_outside {id : Nat} {phase next : Phase} {env after : Env} {external : External}
    (one : phase.inOneTransaction = true)
    (taken : outside settings env id phase external = some (after, next)) :
    next.inOneTransaction = true := by
  cases phase <;> cases external <;> try (cases taken; done)
  case funding.localRail =>
    simp only [outside] at taken
    split at taken
    next => cases taken
    next => cases taken; rfl
  case funding.verify =>
    simp only [outside] at taken
    split at taken
    next => cases taken
    next => split at taken <;> (cases taken; rfl)
  case observing.observe =>
    simp only [outside] at taken
    split at taken <;> (cases taken; rfl)
  all_goals cases one

/-- Such a request changes rows only in the transaction that answers it. -/
theorem inOneTransaction_body {phase : Phase} {program : Tx Phase} (one : phase.inOneTransaction = true)
    (runs : body settings phase = some program) :
    program.Returns (fun next => next.inOneTransaction = true) ∧
      (program.Returns (fun next => next.succeeded = true) ∨ program.Emits fun _ => KeyWrite) := by
  have keys : ∀ (db : Db) appKey row, KeyWrite (.idempotencyKey appKey row) := fun _ _ _ => rfl
  cases phase with
  | replaying req stage fallback =>
    cases runs
    refine ⟨?_, .inr (emits_replayBody (fun db => keys db _ none) fallback stage)⟩
    cases stage with
    | find =>
      apply Program.returns_bind
      intro found
      dsimp only
      split
      next =>
        split
        next => exact one
        next => exact inOneTransaction_replayPhase _ one
      next => exact inOneTransaction_replayPhase _ one
    | deleteExpired =>
      apply Program.returns_bind
      intro _
      exact one
    | findAgain =>
      apply Program.returns_bind
      intro found
      exact inOneTransaction_replayPhase _ one
  | reserving req operation =>
    cases runs
    refine ⟨Program.returns_bind fun _ => rfl, .inr ?_⟩
    apply Program.emits_bind (emits_reserveRequest settings fun db row _ _ _ => keys db _ (some row))
    intro _
    exact Program.emits_pure _
  | running req operation =>
    cases runs
    refine ⟨?_, .inl ?_⟩
    · exact Program.returns_bind fun _ => Program.returns_bind fun _ => rfl
    · exact Program.returns_bind fun _ => Program.returns_bind fun _ => rfl
  | clearing req error =>
    cases runs
    refine ⟨Program.returns_bind fun _ => rfl, .inr ?_⟩
    apply Program.emits_bind (emits_deletePendingRequest fun db => keys db _ none)
    intro _
    exact Program.emits_pure _
  | fundingReserving req escrowId txHash =>
    cases runs
    refine ⟨?_, .inr ?_⟩
    · apply Program.returns_bind
      intro before
      change Phase.inOneTransaction (if _ then _ else _) = true
      split <;> rfl
    · apply Program.emits_bind (emits_reserveFunding settings (fun db row _ _ _ => keys db _ (some row))
        (fun db row _ => keys db _ (some row)) escrowId)
      intro _
      exact Program.emits_pure _
  | finalizingFunding req before result =>
    cases runs
    exact ⟨Program.returns_bind fun _ => rfl, .inl (Program.returns_bind fun _ => rfl)⟩
  | loading transactionId =>
    cases runs
    refine ⟨Program.returns_bind fun _ => rfl, .inr ?_⟩
    apply Program.emits_bind (emits_loadSnapshot settings transactionId)
    intro _
    exact Program.emits_pure _
  | reconciling snapshot observation =>
    cases runs
    exact ⟨Program.returns_bind fun _ => rfl, .inl (Program.returns_bind fun _ => rfl)⟩
  | cleaning appKey =>
    cases runs
    refine ⟨Program.returns_bind fun _ => rfl, .inr ?_⟩
    apply Program.emits_bind (emits_deleteIdempotentRequest _ _ fun db => keys db _ none)
    intro _
    exact Program.emits_pure _
  | _ => first | (cases one; done) | (cases runs; done)

variable {process : Nat} {state next final : State}

/-- The process works in one transaction, or has not arrived. -/
def WorksInOne (process : Nat) (state : State) : Prop :=
  ∀ found, state.processes process = some found → found.phase.inOneTransaction = true

/-- The process has answered its request. -/
def Answered (process : Nat) (state : State) : Prop :=
  ∃ found, state.processes process = some found ∧ found.phase.succeeded = true ∧ found.session = none

theorem body_succeeded {phase : Phase} (succeeded : phase.succeeded = true) : body settings phase = none := by
  cases phase <;> first | rfl | cases succeeded

theorem outside_succeeded {id : Nat} {phase : Phase} {env : Env} {external : External}
    (succeeded : phase.succeeded = true) : outside settings env id phase external = none := by
  cases phase <;> cases external <;> first | rfl | cases succeeded

/-- A process that has answered does nothing more. -/
theorem answered_step {action : Action} (answered : Answered process state)
    (taken : step settings state action = some next) :
    Answered process next ∧ (action.process = process → committed state action = []) := by
  obtain ⟨found, here, succeeded, closed⟩ := answered
  obtain ⟨new, processes, turn⟩ := step_turn taken
  by_cases mine : action.process = process
  · rw [mine] at processes
    have stored : next.processes process = some new := by rw [processes, Function.update_self]
    have only : state.processes action.process = some found := by rw [mine, here]
    cases turn with
    | arrive absent => cases absent.symm.trans only
    | work there alive same opened nothing =>
      cases there.symm.trans only
      refine ⟨⟨new, stored, same ▸ succeeded, ?_⟩, fun _ => nothing⟩
      cases session : new.session with
      | none => rfl
      | some other =>
        have some := opened (by rw [session]; rfl)
        rw [closed, show (app settings).body _ found.phase = none from body_succeeded succeeded] at some
        simp at some
    | caught there nothing =>
      cases there.symm.trans only
      cases closed
    | outside there result =>
      cases there.symm.trans only
      cases (outside_succeeded succeeded).symm.trans result
    | commit there published =>
      cases there.symm.trans only
      cases closed
  · refine ⟨⟨found, ?_, succeeded, closed⟩, fun same => absurd same mine⟩
    rw [processes, Function.update_of_ne (Ne.symm mine)]
    exact here

theorem answered_run (actions : List Action) (answered : Answered process state)
    (reached : run (step settings) state actions = some final) : Answered process final := by
  induction actions generalizing state with
  | nil =>
    cases reached
    exact answered
  | cons action actions ih =>
    obtain ⟨next, taken, reached⟩ := run_cons reached
    exact ih (answered_step answered taken).1 reached

/-- One step: key writes only, or the request is answered. -/
theorem worksInOne_step {action : Action} (sound : Sound (app settings) ownership state)
    (works : WorksInOne process state)
    (requested : ∀ request, action = .arrive process request → request.inOneTransaction = true)
    (taken : step settings state action = some next) :
    WorksInOne process next ∧
      ((action.process = process → ∀ write ∈ committed state action, KeyWrite write) ∨
        Answered process next) := by
  obtain ⟨new, processes, turn⟩ := step_turn taken
  by_cases mine : action.process = process
  · rw [mine] at processes
    have stored : next.processes process = some new := by rw [processes, Function.update_self]
    have become : new.phase.inOneTransaction = true → WorksInOne process next := by
      intro one found there
      rw [stored] at there
      cases there
      exact one
    have silent : committed state action = [] →
        (action.process = process → ∀ write ∈ committed state action, KeyWrite write) ∨
          Answered process next := by
      intro nothing
      left
      intro _ write member
      rw [nothing] at member
      cases member
    cases turn with
    | arrive absent =>
      rename_i id request
      change id = process at mine
      subst mine
      have one := requested request rfl
      exact ⟨become (by cases request <;> exact one), silent rfl⟩
    | work there alive same opened nothing =>
      rw [mine] at there
      exact ⟨become (same ▸ works _ there), silent nothing⟩
    | caught there nothing =>
      rw [mine] at there
      exact ⟨become (inOneTransaction_caught _ (works _ there)), silent nothing⟩
    | outside there result =>
      change _ = process at mine
      subst mine
      exact ⟨become (inOneTransaction_outside (works _ there) result), silent rfl⟩
    | commit there published =>
      rename_i id phase after log writes
      change id = process at mine
      subst mine
      have continues := sound.continues id _ _ there rfl rfl
      obtain ⟨program, start, last, runs, _, outcome, later⟩ := continues.commits sound.holds
      obtain ⟨returns, answers | emits⟩ := inOneTransaction_body (works _ there) runs
      · have succeeded := outcome.returns answers
        exact ⟨become (outcome.returns returns), .inr ⟨_, stored, succeeded, rfl⟩⟩
      · refine ⟨become (outcome.returns returns), .inl ?_⟩
        intro _ write member
        obtain ⟨added, same, each⟩ := outcome.writes emits
        have all : writes = added := by simpa using later.writes.trans same
        rw [published, all] at member
        obtain ⟨_, key⟩ := each write member
        exact key
  · refine ⟨?_, .inl fun same => absurd same mine⟩
    intro found there
    rw [processes, Function.update_of_ne (Ne.symm mine)] at there
    exact works found there

/-- A request that works in one transaction and does not succeed has changed no row. -/
theorem unanswered_publishes_keys (actions : List Action) (sound : Sound (app settings) ownership state)
    (works : WorksInOne process state)
    (requested : ∀ request, .arrive process request ∈ actions → request.inOneTransaction = true)
    (reached : run (step settings) state actions = some final) (unanswered : ¬Answered process final) :
    ∀ write ∈ publishedBy settings process state actions, KeyWrite write := by
  induction actions generalizing state with
  | nil =>
    intro write member
    cases member
  | cons action actions ih =>
    obtain ⟨next, taken, reached⟩ := run_cons reached
    obtain ⟨worksNext, keys | answered⟩ := worksInOne_step sound works
      (fun request same => requested request (same ▸ List.mem_cons_self)) taken
    · have rest := ih (ownership_sound sound taken) worksNext
        (fun request member => requested request (List.mem_cons_of_mem _ member)) reached
      intro write member
      simp only [publishedBy, taken, List.mem_append] at member
      cases member with
      | inl here =>
        split at here
        next mine => exact keys mine write here
        next => cases here
      | inr later => exact rest write later
    · exact absurd (answered_run actions answered reached) unanswered

end Failure

section Scenario

/-- An agreement with a funded escrow on the mock rail. -/
def fundedRun : List Action :=
  [operate 0 (.createAgreement ⟨none, "5", "CKB"⟩) 2, openMock 1 ⟨0, 0⟩ none "5", fundMock 2 ⟨1, 0⟩ 7].flatten

/-- A refund whose two finalizations are both aborted. -/
def abortedRefund : List Action :=
  [reserveMock 3 .refund ⟨1, 0⟩ 6,
    [.outside 3 .localRail, .start 3, .abort 3 (.other ""), .start 3, .abort 3 (.other "")],
    transact 3 1].flatten

def escrowStatus (id : RowId) (state : State) : Option EscrowStatus := (state.db.escrows.get id).map (·.status)

def hasFailed (process : Nat) (state : State) : Bool :=
  match state.processes process with
  | some ⟨.failed _, _, _⟩ => true
  | _ => false

end Scenario

end PactAgent.Server
