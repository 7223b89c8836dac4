import PactAgent.Escrow.Commits
import PactAgent.Lifecycle.Effects
import PactAgent.Server.App

/-! Every transaction of the server commits a chain of lawful writes, and inserts rows
only under the number of its own process. -/

namespace PactAgent.Server
open PactAgent.Common PactAgent.Foundation PactAgent.Lifecycle PactAgent.Store PactAgent.Escrow
open PactAgent.Foundation.ReadCommitted
open PactAgent.Idempotency.Repository PactAgent.Rail.Builder

/-- The request that a phase works for. -/
def Phase.owner : Phase → Option Nat
  | .replaying req _ _ | .reserving req _ | .running req _ | .clearing req _ | .creating req _
  | .locking req _ | .lockSigned req _ _ _ | .lockSent req _ _ _ | .finalizingCreation req _ _ _
  | .discarding req _ _ | .fundingReserving req _ _ | .funding req _ _ | .finalizingFunding req _ _
  | .settlementReserving req _ _ | .settling req _ _ | .settlementSigned req _ _ _
  | .settlementSent req _ _ _ | .finalizingFailed req _ _ _ | .finalizingSettlement req _ _ _ _ =>
      some req.request
  | .loading _ | .observing _ | .reconciling _ _ | .cleaning _ | .returned _ | .reconciled _ | .failed _
  | .cleaned => none

/-- The rows that a creation, or a settlement, has reserved and works on. -/
def Phase.creation : Phase → Option ReservedEscrowCreation
  | .locking _ reserved | .lockSigned _ reserved _ _ | .lockSent _ reserved _ _
  | .finalizingCreation _ reserved _ _ | .discarding _ reserved _ => some reserved
  | _ => none

def Phase.settlement : Phase → Option ReservedEscrowSettlement
  | .settling _ _ reserved | .settlementSigned _ _ reserved _ | .settlementSent _ _ reserved _
  | .finalizingFailed _ _ reserved _ | .finalizingSettlement _ _ reserved _ _ => some reserved
  | _ => none

/-- The phase works for the request of its own process, on the rows of that request. -/
structure Phase.Owned (id : Nat) (phase : Phase) : Prop where
  request : ∀ request, phase.owner = some request → request = id
  creation : ∀ reserved, phase.creation = some reserved → reserved.transactionId = ⟨id, 1⟩
  settlement : ∀ reserved, phase.settlement = some reserved → reserved.transactionId = ⟨id, 0⟩

section Owned
variable {settings : Settings} {id : Nat} {req : RequestContext}

/-- A phase without reserved rows. -/
theorem Phase.Owned.plain {phase : Phase} (owner : ∀ request, phase.owner = some request → request = id)
    (creation : phase.creation = none) (settlement : phase.settlement = none) : phase.Owned id :=
  ⟨owner, fun _ found => (by rw [creation] at found; cases found),
    fun _ found => (by rw [settlement] at found; cases found)⟩

theorem Phase.Owned.of_some {phase : Phase} (owner : phase.owner = some req.request)
    (creation : phase.creation = none) (settlement : phase.settlement = none) (own : req.request = id) :
    phase.Owned id := by
  refine .plain ?_ creation settlement
  intro request same
  rw [owner] at same
  exact (Option.some.inj same).symm.trans own

theorem Phase.Owned.of_none {phase : Phase} (owner : phase.owner = none) (creation : phase.creation = none)
    (settlement : phase.settlement = none) : phase.Owned id :=
  .plain (fun _ same => (by rw [owner] at same; cases same)) creation settlement

theorem owned_firstPhase (own : req.request = id) (call : Call) : (firstPhase req call).Owned id := by
  cases call <;> exact .of_some rfl rfl rfl own

theorem owned_afterRace (own : req.request = id) (error : Failure) : (afterRace req error).Owned id := by
  unfold afterRace
  split
  next => exact .of_some rfl rfl rfl own
  next => exact .of_none rfl rfl rfl

theorem owned_fallback (own : req.request = id) (fallback : Fallback) : (fallback.phase req).Owned id := by
  cases fallback with
  | proceed call => exact owned_firstPhase own call
  | throw error => exact .of_none rfl rfl rfl
  | clear error => exact .of_some rfl rfl rfl own
  | swallow error handler =>
    cases handler with
    | false => exact .of_none rfl rfl rfl
    | true => exact owned_afterRace own error

theorem owned_thrown (own : req.request = id) (error : Failure) (fallback : Fallback) :
    (fallback.thrown req error).Owned id := by
  cases fallback with
  | swallow first handler => exact owned_fallback own _
  | _ => exact .of_none rfl rfl rfl

theorem owned_replayPhase (own : req.request = id) (fallback : Fallback)
    (row : Option (IdempotencyRow Reply)) : (replayPhase req fallback row).Owned id := by
  cases row with
  | none => exact owned_fallback own fallback
  | some row =>
    simp only [replayPhase]
    split
    next => exact owned_thrown own _ _
    next =>
      split
      next => exact .of_none rfl rfl rfl
      next => exact owned_thrown own _ _

theorem owned_arrival (request : Request) : (arrival id request).Owned id := by
  cases request with
  | api appId context requestId call => exact .of_some rfl rfl rfl rfl
  | reconcile transactionId => exact .of_none rfl rfl rfl
  | cleanup appKey => exact .of_none rfl rfl rfl

theorem owned_caught {phase : Phase} (own : phase.Owned id) (error : Failure) :
    (caught phase error).Owned id := by
  cases phase with
  | replaying req stage fallback => exact owned_thrown (own.request _ rfl) error fallback
  | reserving req operation | creating req input | fundingReserving req escrowId txHash
  | settlementReserving req operation escrowId => exact owned_afterRace (own.request _ rfl) error
  | running req operation =>
    simp only [caught]
    split
    next => exact .of_some rfl rfl rfl (own.request _ rfl)
    next => exact .of_some rfl rfl rfl (own.request _ rfl)
  | finalizingCreation req reserved result first | finalizingSettlement req operation reserved result first =>
    cases first with
    | none => exact ⟨own.request, own.creation, own.settlement⟩
    | some error => exact .of_some rfl rfl rfl (own.request _ rfl)
  | _ => exact .of_none rfl rfl rfl

/-- Outside the database a request stays with its process and its rows, or ends. -/
theorem owned_outside {phase next : Phase} {env after : Env} {external : External} (own : phase.Owned id)
    (taken : outside settings env id phase external = some (after, next)) : next.Owned id := by
  cases phase <;> cases external <;> try (cases taken; done)
  case locking.localRail | funding.localRail | settling.localRail =>
    simp only [outside] at taken
    split at taken
    next => cases taken
    next => cases taken; exact ⟨own.request, own.creation, own.settlement⟩
  case locking.sign | settling.sign | funding.verify =>
    simp only [outside] at taken
    split at taken
    next => cases taken
    next => split at taken <;> (cases taken; exact ⟨own.request, own.creation, own.settlement⟩)
  case observing.observe =>
    simp only [outside] at taken
    split at taken <;> (cases taken; exact .of_none rfl rfl rfl)
  all_goals
    simp only [outside, Option.some.injEq, Prod.mk.injEq] at taken
    rw [← taken.2]
    exact ⟨own.request, own.creation, own.settlement⟩

/-- The phases whose transaction reserves rows. -/
def Phase.isReserving : Phase → Bool
  | .creating _ _ | .settlementReserving _ _ _ => true
  | _ => false

/-- A transaction leaves its request with its process. -/
theorem owned_body {phase : Phase} {program : Tx Phase} (own : phase.Owned id)
    (other : phase.isReserving = false) (runs : body settings phase = some program) :
    program.Returns (Phase.Owned id) := by
  cases phase with
  | replaying req stage fallback =>
    cases runs
    cases stage with
    | find =>
      apply Program.returns_bind
      intro found
      dsimp only
      split
      next =>
        split
        next => exact .of_some rfl rfl rfl (own.request _ rfl)
        next => exact owned_replayPhase (own.request _ rfl) _ _
      next => exact owned_replayPhase (own.request _ rfl) _ _
    | deleteExpired =>
      apply Program.returns_bind
      intro _
      exact .of_some rfl rfl rfl (own.request _ rfl)
    | findAgain =>
      apply Program.returns_bind
      intro found
      exact owned_replayPhase (own.request _ rfl) _ _
  | running req operation =>
    cases runs
    apply Program.returns_bind
    intro data
    apply Program.returns_bind
    intro _
    exact .of_none rfl rfl rfl
  | fundingReserving req escrowId txHash =>
    cases runs
    apply Program.returns_bind
    intro before
    change Phase.Owned id (if _ then _ else _)
    split
    next => exact .of_none rfl rfl rfl
    next => exact .of_some rfl rfl rfl (own.request _ rfl)
  | creating req input | settlementReserving req operation escrowId => cases other
  | reserving req operation =>
    cases runs
    apply Program.returns_bind
    intro _
    exact .of_some rfl rfl rfl (own.request _ rfl)
  | clearing req error | finalizingCreation req reserved result first | discarding req reserved error
  | finalizingFunding req before result | finalizingFailed req operation reserved error
  | finalizingSettlement req operation reserved result first | loading transactionId
  | reconciling snapshot observation | cleaning appKey =>
    cases runs
    apply Program.returns_bind
    intro _
    exact .of_none rfl rfl rfl
  | _ => cases runs

end Owned

section Lawful
variable {settings : Settings} {id : Nat}

/-- The moves of agreements and milestones that the operations make. -/
def Operation.moves : Operation → Moves
  | .createAgreement _ => .none
  | .createMilestone _ _ => allocationMoves
  | .acceptAgreement _ => .agreementTo [.pendingAcceptance, .accepted]
  | .cancelAgreement _ => .agreementTo [.cancelled]
  | .moveAgreementToFundingRequired _ => .agreementTo [.fundingRequired]
  | .createProof _ => submissionMoves
  | .reviewProof _ decision => reviewMoves decision
  | .createDispute _ => disputeMoves
  | .resolveDispute _ input => resolutionMoves input.resolutionType

theorem records_operation (req : RequestContext) (operation : Operation) :
    (operation.run req).Emits (Recorded req.request operation.moves) := by
  cases operation with
  | createAgreement input => exact records_createAgreementForApp _ _
  | acceptAgreement agreementId => exact records_acceptAgreement _ _
  | cancelAgreement agreementId => exact records_transitionAgreement _ _ _
  | moveAgreementToFundingRequired agreementId => exact records_transitionAgreement _ _ _
  | createMilestone agreementId input => exact records_createMilestoneForAgreement _ _ _
  | createProof input => exact records_createProofForApp _ _
  | reviewProof proofId decision => exact records_reviewProofForApp _ _ _
  | createDispute input => exact records_createDisputeForApp _ _
  | resolveDispute disputeId input => exact records_resolveDisputeForApp _ _ _

/-- The phases whose transaction inserts an escrow. -/
def Phase.isCreating : Phase → Bool
  | .creating _ _ => true
  | _ => false

/-- The transaction of an operation; all others settle escrows. -/
def Phase.isRunning : Phase → Bool
  | .running _ _ => true
  | _ => false

theorem emits_replayBody {allowed : Db → Write → Prop} {req : RequestContext}
    (delete : ∀ db, allowed db (.idempotencyKey req.appKey none)) (fallback : Fallback) (stage : ReplayStage) :
    (replayBody req fallback stage).Emits allowed := by
  cases stage with
  | find =>
    apply Program.emits_bind (emits_findIdempotentRequest _)
    intro found
    dsimp only
    split
    next =>
      split
      next => exact Program.emits_pure _
      next => exact Program.emits_pure _
    next => exact Program.emits_pure _
  | deleteExpired =>
    apply Program.emits_bind (emits_deleteIdempotentRequest _ _ delete)
    intro _
    exact Program.emits_pure _
  | findAgain =>
    apply Program.emits_bind (emits_findIdempotentRequest _)
    intro found
    exact Program.emits_pure _

/-- What the transaction of a phase does to its escrow. -/
def Phase.effect : Phase → Effect
  | .creating _ _ => lockEffect
  | .finalizingCreation _ _ _ _ => creationEffect
  | .finalizingFunding _ _ _ => fundingEffect
  | .settlementReserving _ operation _ => reservationEffect operation
  | .finalizingFailed _ operation _ _ => failureEffect operation
  | .finalizingSettlement _ operation _ _ _ => settlementEffect operation
  | .reconciling _ _ => reconciliationEffect
  | _ => .none

/-- The request whose key the transaction of a phase reserves. -/
def Phase.reserves : Phase → Option RequestContext
  | .reserving req _ | .creating req _ | .fundingReserving req _ _ | .settlementReserving req _ _ => some req
  | _ => none

/-- The request whose key the transaction of a phase completes. -/
def Phase.completes : Phase → Option RequestContext
  | .running req _ | .fundingReserving req _ _ | .finalizingCreation req _ _ _ | .finalizingFunding req _ _
  | .finalizingFailed req _ _ _ | .finalizingSettlement req _ _ _ _ => some req
  | _ => none

/-- The key that the transaction of a phase may delete. -/
def Phase.deletes : Phase → Option AppKey
  | .replaying req _ _ | .clearing req _ | .discarding req _ _ => some req.appKey
  | .cleaning appKey => some appKey
  | _ => none

/-- What the transaction of a phase leaves under the idempotency keys. -/
def Phase.keys (phase : Phase) : KeyRule
  | appKey, none => phase.deletes = some appKey
  | appKey, some row =>
      (∃ req, phase.completes = some req ∧ appKey = req.appKey ∧ row.status = .completed) ∨
        ∃ req, phase.reserves = some req ∧ appKey = req.appKey ∧ row.status = .pending ∧ row.id = req.request ∧
          row.requestHash = req.context.requestHash

theorem keys_reserves {phase : Phase} {req : RequestContext} (reserves : phase.reserves = some req) :
    phase.keys.Reserves req :=
  fun _ pending own hash => .inr ⟨req, reserves, rfl, pending, own, hash⟩

theorem keys_completes {phase : Phase} {req : RequestContext} (completes : phase.completes = some req) :
    phase.keys.Completes req :=
  fun _ completed => .inl ⟨req, completes, rfl, completed⟩

theorem body_settles {phase : Phase} {program : Tx Phase} (own : phase.Owned id)
    (other : phase.isRunning = false) (stored : phase.isCreating = false)
    (runs : body settings phase = some program) : program.Emits (Settled phase.keys id phase.effect) := by
  have wrap : ∀ {α : Type} {rule : KeyRule} {effect : Effect} {transaction : Tx α} {next : α → Phase},
      transaction.Emits (Settled rule id effect) →
      (transaction >>= fun value => pure (next value)).Emits (Settled rule id effect) := by
    intro α rule effect transaction next emits
    apply Program.emits_bind emits
    intro value
    exact Program.emits_pure _
  cases phase with
  | running req operation => cases other
  | replaying req stage fallback =>
    cases runs
    exact Accompanied.settled (emits_replayBody (fun db => accompanied_key db rfl) fallback stage)
  | reserving req operation =>
    cases runs
    exact wrap (Accompanied.settled (accompanies_reserveRequest settings (keys_reserves rfl)))
  | clearing req error =>
    cases runs
    exact wrap (Accompanied.settled (emits_deletePendingRequest fun db => accompanied_key db rfl))
  | creating req input => cases stored
  | finalizingCreation req reserved result first =>
    cases runs
    exact wrap (own.request _ rfl ▸ settles_finalizeEscrowCreation settings (keys_completes rfl) reserved result)
  | discarding req reserved error =>
    cases runs
    exact wrap (settles_discardEscrowCreation rfl reserved (by rw [own.creation _ rfl]))
  | fundingReserving req escrowId txHash =>
    cases runs
    refine wrap (Accompanied.settled (emits_reserveFunding settings ?_ ?_ escrowId))
    · exact fun db row pending request hash => accompanied_key db (keys_reserves rfl row pending request hash)
    · exact fun db row completed => accompanied_key db (keys_completes rfl row completed)
  | finalizingFunding req before result =>
    cases runs
    exact wrap (settles_finalizeEscrowFunding settings (keys_completes rfl) before result)
  | settlementReserving req operation escrowId =>
    cases runs
    exact wrap (own.request _ rfl ▸
      settles_reserveEscrowSettlement settings (keys_reserves rfl) escrowId operation)
  | finalizingFailed req operation reserved error =>
    cases runs
    exact wrap (settles_finalizeFailedEscrowSettlement settings (keys_completes rfl) operation reserved)
  | finalizingSettlement req operation reserved result first =>
    cases runs
    exact wrap (own.request _ rfl ▸
      settles_finalizeSuccessfulEscrowSettlement settings (keys_completes rfl) operation reserved result)
  | loading transactionId =>
    cases runs
    exact wrap (Accompanied.settled (emits_loadSnapshot settings transactionId))
  | reconciling snapshot observation =>
    cases runs
    exact wrap (settles_reconcileTransaction settings snapshot observation)
  | cleaning appKey =>
    cases runs
    exact wrap (Accompanied.settled (emits_deleteIdempotentRequest _ _ fun db => accompanied_key db rfl))
  | _ => cases runs

theorem creating_touches {req : RequestContext} {input : CreateEscrowInput} {program : Tx Phase}
    (runs : body settings (.creating req input) = some program) :
    program.Emits (Touched (Phase.creating req input).keys req.request lockEffect) := by
  cases runs
  apply Program.emits_bind (touches_reserveEscrowCreation settings (keys_reserves rfl) input)
  intro reserved
  exact Program.emits_pure _

/-- A write of an operation's transaction: its own writes leave the keys alone. -/
structure Runs (req : RequestContext) (operation : Operation) (db : Db) (write : Write) : Prop where
  records : Records req.request operation.moves db write
  heeds : Heeds (Phase.running req operation).keys write

theorem running_records {req : RequestContext} {operation : Operation} {program : Tx Phase}
    (runs : body settings (.running req operation) = some program) : program.Emits (Runs req operation) := by
  cases runs
  apply Program.emits_bind ((records_operation req operation).mono fun _ _ recorded =>
    ⟨recorded.toRecords, heeds_other recorded.keyless⟩)
  intro data
  have complete : ∀ db row, row.status = .completed → Runs req operation db (.idempotencyKey req.appKey (some row)) := by
    intro db row completed
    refine ⟨⟨trivial, by simp [Write.relation], trivial, trivial, by simp [Write.relation],
      fun _ same _ => by cases same⟩, ?_⟩
    rintro _ _ ⟨⟩
    exact keys_completes rfl row completed
  apply Program.emits_bind (emits_storeIdempotentResponse settings complete _ _)
  intro _
  exact Program.emits_pure _

theorem records_replaces {request : Nat} {moves : Moves} {db : Db} {write : Write}
    (records : Records request moves db write) : Replaces db write := by
  cases write with
  | escrow row => exact absurd rfl records.others.1
  | _ => trivial

/-- How agreements and milestones follow their escrows. -/
def settlementMoves : Moves where
  agreement _ new := new ∈ [AgreementStatus.funded, .releasePending, .released, .refunded]
  milestone _ new := new ∈ [MilestoneStatus.funded, .released, .refunded]
  disputes := False
  creates := False

/-- The moves of agreements and milestones that the transaction of a phase makes. -/
def Phase.moves : Phase → Moves
  | .running _ operation => operation.moves
  | _ => settlementMoves

/-- What every write of the transaction of a phase obeys. -/
structure Acts (id : Nat) (phase : Phase) (db : Db) (write : Write) : Prop where
  lawful : Lawful id db write
  moves : EscrowMoves phase.effect.moves db write
  inserts : Introduces phase.effect.inserts db write
  replaces : phase.isCreating = false → Replaces db write
  indexed : Indexed db write
  agreement : AgreementMoves phase.moves.agreement db write
  milestone : MilestoneMoves phase.moves.milestone db write
  disputes : write.relation = .disputes → phase.moves.disputes
  creates : ∀ row, write = .milestone row → row.status = .pending → phase.moves.creates

theorem acts_local {phase : Phase} : Storage.Local (Acts id phase) := by
  intro write first second agree acts
  exact ⟨lawful_local write first second agree acts.lawful, escrowMoves_local write first second agree acts.moves,
    introduces_local write first second agree acts.inserts,
    fun other => replaces_local write first second agree (acts.replaces other),
    indexed_local write first second agree acts.indexed,
    agreementMoves_local write first second agree acts.agreement,
    milestoneMoves_local write first second agree acts.milestone, acts.disputes, acts.creates⟩

theorem records_acts {req : RequestContext} {operation : Operation} {db : Db} {write : Write}
    (records : Records id operation.moves db write) : Acts id (.running req operation) db write := by
  refine ⟨records.lawful, ?_, ?_, fun _ => records_replaces records, ?_, records.agreement, records.milestone,
    records.disputes, records.creates⟩
  · cases write with
    | escrow row => exact absurd rfl records.others.1
    | _ => trivial
  · cases write with
    | transaction row => exact absurd rfl records.others.2.1
    | _ => trivial
  · cases write with
    | escrow row => exact absurd rfl records.others.1
    | _ => trivial

theorem touches_acts {phase : Phase} {db : Db} {write : Write} (other : phase.isRunning = false)
    (touches : Touches id phase.effect db write) (replaces : phase.isCreating = false → Replaces db write) :
    Acts id phase db write := by
  have moves : phase.moves = settlementMoves := by
    cases phase with
    | running req operation => cases other
    | _ => rfl
  refine ⟨touches.lawful, touches.moves, touches.inserts, replaces, touches.indexed, ?_, ?_, ?_, ?_⟩
  · rw [moves]
    cases write with
    | agreement row =>
      intro old _
      exact touches.kind.resolve_right (by simp [Write.relation])
    | _ => trivial
  · rw [moves]
    cases write with
    | milestone row =>
      intro old _
      exact touches.kind.resolve_right (by simp [Write.relation])
    | _ => trivial
  · intro disputes
    have aside := touches.kind.resolve_right (by simp [disputes])
    exact absurd disputes aside.relation_ne.2.2.2.2
  · rintro row rfl pending
    have aside := touches.kind.resolve_right (by simp [Write.relation])
    simp [Aside, pending] at aside

theorem body_acts {phase : Phase} {program : Tx Phase} (own : phase.Owned id)
    (runs : body settings phase = some program) : program.Emits (Acts id phase) := by
  by_cases running : phase.isRunning = true
  · cases phase with
    | running req operation =>
      have same : req.request = id := own.request _ rfl
      exact (running_records runs).mono fun _ _ each => records_acts (same ▸ each.records)
    | _ => cases running
  · by_cases creating : phase.isCreating = true
    · cases phase with
      | creating req input =>
        have same : req.request = id := own.request _ rfl
        exact (creating_touches runs).mono fun _ _ each =>
          touches_acts rfl (same ▸ each.touches) (fun other => by cases other)
      | _ => cases creating
    · have settles := body_settles own (by simpa using running) (by simpa using creating) runs
      exact settles.mono fun _ _ settled =>
        touches_acts (by simpa using running) settled.settles.1 (fun _ => settled.settles.2)

/-- The transaction of a phase writes keys by its rule. -/
theorem body_heeds {phase : Phase} {program : Tx Phase} (own : phase.Owned id)
    (runs : body settings phase = some program) : program.Emits fun _ => Heeds phase.keys := by
  cases running : phase.isRunning with
  | true =>
    cases phase with
    | running req operation => exact (running_records runs).mono fun _ _ each => each.heeds
    | _ => cases running
  | false =>
    cases creating : phase.isCreating with
    | true =>
      cases phase with
      | creating req input => exact (creating_touches runs).mono fun _ _ each => each.heeds
      | _ => cases creating
    | false => exact (body_settles own running creating runs).mono fun _ _ each => each.heeds

variable {claims : Assertions Db Query Phase Env} {phase next : Phase} {writes : List Write} {db : Db}

/-- What a commit publishes obeys the rules of its phase, on the database it changes. -/
theorem commits_acts (own : phase.Owned id) (commits : Commits (app settings) claims id phase next writes db) :
    Storage.Chain (Acts id phase) writes db := by
  obtain ⟨program, start, last, runs, _, outcome, later⟩ := commits
  exact later.chain acts_local (outcome.chain acts_local (body_acts own runs) trivial)

theorem commits_heeds (own : phase.Owned id) (commits : Commits (app settings) claims id phase next writes db) :
    ∀ write ∈ writes, Heeds phase.keys write := by
  obtain ⟨program, start, last, runs, _, outcome, later⟩ := commits
  obtain ⟨added, same, each⟩ := outcome.writes (body_heeds own runs)
  intro write member
  rw [show writes = last.writes from later.writes, same, List.nil_append] at member
  obtain ⟨_, heeds⟩ := each write member
  exact heeds

theorem commits_chain (own : phase.Owned id) (commits : Commits (app settings) claims id phase next writes db) :
    Storage.Chain (Lawful id) writes db :=
  (commits_acts own commits).mono fun _ _ acts => acts.lawful

/-- Every transaction but a creation writes over stored escrows only. -/
theorem commits_replaces (own : phase.Owned id) (other : phase.isCreating = false)
    (commits : Commits (app settings) claims id phase next writes db) : Storage.Chain Replaces writes db :=
  (commits_acts own commits).mono fun _ _ acts => acts.replaces other

theorem commits_steady (own : phase.Owned id) (commits : Commits (app settings) claims id phase next writes db) :
    Steady db (Storage.view writes db) :=
  steady_view (commits_chain own commits)

/-- Statuses of an agreement that no move of the phase leaves. -/
theorem commits_agreement (own : phase.Owned id)
    (commits : Commits (app settings) claims id phase next writes db) {inside : AgreementStatus → Prop}
    (closed : ∀ old new, inside old → canTransitionAgreement old new = true → phase.moves.agreement old new →
      inside new) {agreementId : RowId} {old : Agreement}
    (stored : db.agreements.get agreementId = some old) (start : inside old.status) :
    ∃ new, (Storage.view writes db).agreements.get agreementId = some new ∧ inside new.status :=
  agreement_stays closed ((commits_acts own commits).mono fun _ _ acts => ⟨acts.lawful, acts.agreement⟩) stored
    start

theorem commits_disputes (own : phase.Owned id)
    (commits : Commits (app settings) claims id phase next writes db) (none : ¬phase.moves.disputes) :
    (Storage.view writes db).disputes = db.disputes := by
  apply stored_disputes.untouched
  apply Write.to_eq_nil
  intro write member disputes
  obtain ⟨_, acts⟩ := (commits_acts own commits).mem member
  exact none (acts.disputes disputes)

theorem commits_transactions (own : phase.Owned id)
    (commits : Commits (app settings) claims id phase next writes db) {row : Transaction}
    (member : row ∈ (Storage.view writes db).transactions) :
    (∃ old ∈ db.transactions, old.id = row.id ∧ row.terms = old.terms) ∨ row.type ∈ phase.effect.inserts :=
  mem_view_transactions ((commits_acts own commits).mono fun _ _ acts => ⟨acts.lawful, acts.inserts⟩) member

/-- The transaction of an operation: its own writes, and the stored response. -/
theorem running_commits {req : RequestContext} {operation : Operation}
    (commits : Commits (app settings) claims id (.running req operation) next writes db) :
    ∃ start reply middle last appKey row,
      Outcome (claims.rely id (.running req operation)) claims.holds (operation.run req) ⟨[], [], start⟩ reply
        middle ∧
      Foundation.Follows middle last ∧ last.db = db ∧ writes = middle.writes ++ [.idempotencyKey appKey row] ∧
      (∀ kept, Keeps (claims.rely id (.running req operation)) kept → kept middle.db db) ∧
      ∀ query kept, KeepsSince (claims.rely id (.running req operation)) query kept → query ∈ middle.log →
        kept middle.db db := by
  obtain ⟨program, start, last, runs, _, outcome, later⟩ := commits
  cases runs
  obtain ⟨reply, middle, ran, rest⟩ := outcome_bind.mp outcome
  obtain ⟨_, stored, storing, ended⟩ := outcome_bind.mp rest
  obtain ⟨_, rfl⟩ := ended
  obtain ⟨appKey, row, written⟩ := storeIdempotentResponse_writes storing
  refine ⟨start, reply, middle, ⟨last.log, writes, db⟩, appKey, row, ran, storing.follows.trans later.follows, rfl,
    ?_, ?_, ?_⟩
  · rw [← written]
    exact later.writes
  · intro kept keeps
    exact keeps.trans _ _ _ (storing.keeps keeps) (later.keeps keeps)
  · intro query kept keeps asked
    have still := keeps.each _ _ _ (storing.follows.log.subset asked) later.rely
    exact keeps.trans _ _ _ (storing.keepsSince keeps asked) still

/-- The transaction of a settlement's reservation. -/
theorem reserving_commits {req : RequestContext} {operation : SettlementOperation} {escrowId : RowId}
    {kept : Db → Db → Prop} (keeps : Keeps (claims.rely id (.settlementReserving req operation escrowId)) kept)
    (commits : Commits (app settings) claims id (.settlementReserving req operation escrowId) next writes db) :
    ∃ (seen old : Escrow) (appKey : AppKey) (row : Option (IdempotencyRow Reply)),
      writes = [.idempotencyKey appKey row, .escrow { old with status := settlementPendingStatus operation },
        .transaction (newTransaction ⟨req.request, 0⟩ { old with status := settlementPendingStatus operation }
          (settlementType operation))] ∧
      old.status = .funded ∧ old.appId = req.appId ∧ db.escrows.get escrowId = some old ∧
      (∀ other ∈ db.transactions, other.appId = req.appId →
        other.operationId ≠ some ⟨escrowId, settlementType operation⟩) ∧
      seen.status = .funded ∧ Seen claims.holds kept db (fun db => db.escrows.get escrowId = some seen) ∧
      SettlementSeen claims.holds kept operation seen db ∧
      db.transactions.get ⟨req.request, 0⟩ = none ∧
      next = .settling req operation
        ⟨seen, { old with status := settlementPendingStatus operation }, ⟨req.request, 0⟩⟩ := by
  obtain ⟨program, start, last, runs, _, outcome, later⟩ := commits
  cases runs
  obtain ⟨reserved, middle, outcome, rfl, rfl⟩ := outcome_bind.mp outcome
  obtain ⟨seen, old, appKey, row, written, funded, owner, committed, unique, seenFunded, seenThere, guard,
    absent, reservedIs⟩ := reserveEscrowSettlement_commits keeps outcome
  refine ⟨seen, old, appKey, row, later.writes.trans written, funded, owner, committed _ later.follows,
    unique _ later.follows, seenFunded, seenThere.later keeps (later.keeps keeps), ?_, absent _ later.follows,
    by rw [reservedIs]⟩
  cases operation with
  | release => exact ReleaseSeen.later keeps guard (later.keeps keeps)
  | refund => trivial

theorem commits_owned (own : phase.Owned id) (commits : Commits (app settings) claims id phase next writes db) :
    next.Owned id := by
  by_cases reserving : phase.isReserving = true
  · cases phase with
    | creating req input =>
      obtain ⟨program, start, last, runs, _, outcome, later⟩ := commits
      cases runs
      obtain ⟨reserved, middle, outcome, rfl, rfl⟩ := outcome_bind.mp outcome
      obtain ⟨_, transaction, _⟩ := reserveEscrowCreation_commits outcome
      refine ⟨own.request, ?_, fun _ found => (by cases found)⟩
      intro found same
      cases same
      rw [transaction, own.request _ rfl]
    | settlementReserving req operation escrowId =>
      have keeps : Keeps (claims.rely id (.settlementReserving req operation escrowId)) fun _ _ => True :=
        ⟨fun _ => trivial, fun _ _ _ _ _ => trivial, fun _ _ _ _ => trivial⟩
      obtain ⟨seen, old, _, _, _, _, _, _, _, _, _, _, _, rfl⟩ := reserving_commits keeps commits
      refine ⟨own.request, fun _ found => (by cases found), ?_⟩
      intro found same
      cases same
      rw [own.request _ rfl]
    | _ => cases reserving
  · obtain ⟨program, start, last, runs, _, outcome, later⟩ := commits
    exact outcome.returns (owned_body own (by simpa using reserving) runs)

/-- Nothing is claimed but that requests stay with their processes. -/
def ownership : Assertions Db Query Phase Env where
  holds _ := True
  knows id _ phase _ := phase.Owned id
  rely _ _ _ _ _ := True
  rely_refl _ _ _ _ := trivial
  rely_trans _ _ _ _ _ _ _ _ := trivial

theorem ownership_preserved : Preserved (app settings) ownership (fun _ _ => True) where
  arrive _ request _ _ := owned_arrival request
  caught _ _ _ _ error own := owned_caught own error
  outside _ _ _ _ _ _ _ _ _ own taken := ⟨owned_outside own taken, fun _ _ _ other => other⟩
  commit _ _ _ _ _ _ _ _ _ own commits :=
    ⟨trivial, commits_owned own commits, fun _ _ _ _ _ other => ⟨other, fun _ _ => trivial⟩⟩

theorem ownership_sound {state next : State} {action : Action}
    (sound : Sound (app settings) ownership state) (taken : step settings state action = some next) :
    Sound (app settings) ownership next :=
  sound.step ownership_preserved action trivial taken

/-- Every published list of writes is a chain of lawful writes. -/
theorem committed_chain {state : State} (sound : Sound (app settings) ownership state) (action : Action) :
    ∃ request, Storage.Chain (Lawful request) (committed state action) state.db := by
  cases sound.committed action with
  | inl none => exact ⟨0, by rw [none]; trivial⟩
  | inr some =>
    obtain ⟨id, phase, next, log, writes, _, _, same, own, commits⟩ := some
    exact ⟨id, same ▸ commits_chain own commits⟩

/-- What lasts, lasts from every reachable state on. -/
theorem steady_run {actions more : List Action} {state later : State}
    (reached : Execution.run (step settings) initial actions = some state)
    (onwards : Execution.run (step settings) state more = some later) : Steady state.db later.db := by
  have sound : Sound (app settings) ownership state := Sound.always ownership_preserved trivial actions reached
  let invariant (now : State) : Prop := Sound (app settings) ownership now ∧ Steady state.db now.db
  have both : invariant later := by
    refine Execution.invariant_run ?_ more state later (⟨sound, .refl _⟩ : invariant state) onwards
    rintro before action after ⟨sound, steady⟩ taken
    refine ⟨ownership_sound sound taken, steady.trans ?_⟩
    obtain ⟨request, chain⟩ := committed_chain sound action
    rw [step_db taken]
    exact steady_view chain
  exact both.2

/-- Active escrows are unique in their scopes. -/
theorem activeUnique_run {actions : List Action} {state : State}
    (reached : Execution.run (step settings) initial actions = some state) : ActiveUnique state.db := by
  let invariant (now : State) : Prop := Sound (app settings) ownership now ∧ ActiveUnique now.db
  have empty : Sound (app settings) ownership initial := Sound.always ownership_preserved trivial [] rfl
  have both : invariant state := by
    refine Execution.invariant_run ?_ actions initial state
      (⟨empty, fun _ member => absurd member (Table.not_mem_empty _)⟩ : invariant initial) reached
    rintro before action after ⟨sound, unique⟩ taken
    refine ⟨ownership_sound sound taken, ?_⟩
    rw [step_db taken]
    cases sound.committed action with
    | inl none =>
      rw [none]
      exact unique
    | inr some =>
      obtain ⟨id, phase, next, log, writes, _, _, same, own, commits⟩ := some
      rw [same]
      exact activeUnique_view ((commits_acts own commits).mono fun _ _ acts => acts.indexed) unique
  exact both.2

end Lawful

end PactAgent.Server
