import PactAgent.Foundation.Yields
import PactAgent.Server.History

/-! Replays are faithful but for one kind: a settlement whose rail operation threw stores a
response with the failed escrow and then reports the error. Every other request that stores
a response returns it. -/

namespace PactAgent.Server
open PactAgent.Common PactAgent.Foundation PactAgent.Lifecycle PactAgent.Store PactAgent.Escrow
open PactAgent.Foundation.Execution PactAgent.Foundation.ReadCommitted
open PactAgent.Idempotency.Repository PactAgent.Rail.Builder

section Records

/-- The write leaves a response under the key. -/
def records (appKey : AppKey) : Write → Bool
  | .idempotencyKey other (some row) => other = appKey && row.status = .completed
  | _ => false

/-- The process whose commit leaves a response under the key, and the phase of its transaction. -/
def recorder (appKey : AppKey) (state : State) : Action → Option (Nat × Phase)
  | .finish id =>
      match state.processes id with
      | some ⟨phase, some ⟨.done _, _, writes⟩, true⟩ => if writes.any (records appKey) then some (id, phase) else none
      | _ => none
  | _ => none

/-- The last process of a run that left a response under the key. -/
def recordedBy (step : State → Action → Option State) (appKey : AppKey) :
    Option (Nat × Phase) → State → List Action → Option (Nat × Phase)
  | last, _, [] => last
  | last, state, action :: actions =>
      match step state action with
      | some next => recordedBy step appKey ((recorder appKey state action).or last) next actions
      | none => last

/-- The rail operation of a settlement threw before it sent anything. -/
def Phase.railThrew : Phase → Bool
  | .finalizingFailed _ _ _ _ => true
  | _ => false

/-- How a request ends that has stored this response. -/
def Phase.ending (phase : Phase) (data : Reply) : Phase :=
  match phase with
  | .finalizingFailed _ _ _ error => .failed error
  | _ => .returned data

end Records

section Keys
variable {writes : List Write} {db : Db} {appKey : AppKey}

/-- What is under a key after a transaction: the last thing it wrote there, if any. -/
theorem view_key (writes : List Write) (db : Db) (appKey : AppKey) :
    (∃ row, .idempotencyKey appKey row ∈ writes ∧ (Storage.view writes db).idempotencyKeys appKey = row) ∨
      (∀ row, .idempotencyKey appKey row ∉ writes) ∧
        (Storage.view writes db).idempotencyKeys appKey = db.idempotencyKeys appKey := by
  induction writes generalizing db with
  | nil => exact .inr ⟨fun _ => List.not_mem_nil, rfl⟩
  | cons write writes ih =>
    rcases ih (applyWrite write db) with ⟨row, member, found⟩ | ⟨unwritten, same⟩
    · exact .inl ⟨row, List.mem_cons_of_mem _ member, found⟩
    · change (Storage.view writes (applyWrite write db)).idempotencyKeys appKey = _ at same
      have here : (∃ row, write = .idempotencyKey appKey row ∧ (applyWrite write db).idempotencyKeys appKey = row) ∨
          (∀ row, write ≠ .idempotencyKey appKey row) ∧
            (applyWrite write db).idempotencyKeys appKey = db.idempotencyKeys appKey := by
        cases write with
        | idempotencyKey other row =>
          by_cases own : other = appKey
          · subst own
            exact .inl ⟨row, rfl, Function.update_self ..⟩
          · refine .inr ⟨?_, Function.update_of_ne (Ne.symm own) _ _⟩
            rintro found ⟨⟩
            exact own rfl
        | _ => exact .inr ⟨fun row same => (by cases same), rfl⟩
      rcases here with ⟨row, rfl, found⟩ | ⟨other, kept⟩
      · exact .inl ⟨row, List.mem_cons_self, same.trans found⟩
      · refine .inr ⟨?_, same.trans kept⟩
        intro row member
        rcases List.mem_cons.mp member with first | later
        · exact other row first.symm
        · exact unwritten row later

/-- No response is left under any key. -/
def Silent (writes : List Write) : Prop := ∀ appKey, ∀ write ∈ writes, records appKey write = false

/-- Every response that is left has this data. -/
def Answering (data : Reply) (writes : List Write) : Prop :=
  ∀ appKey row, .idempotencyKey appKey (some row) ∈ writes → row.status = .completed →
    ∃ requestId, row.responseBodyJson = some ⟨data, requestId⟩

/-- The rule of a body that leaves no response. -/
def pendingOnly : KeyRule := fun _ row => ∀ found, row = some found → found.status ≠ .completed

theorem heeds_quiet {write : Write} (heeds : Heeds pendingOnly write) (appKey : AppKey) : records appKey write = false := by
  cases write with
  | idempotencyKey other row =>
    cases row with
    | none => rfl
    | some row =>
      have pending := heeds other (some row) rfl row rfl
      simp [records, pending]
  | _ => rfl

theorem Silent.answering (quiet : Silent writes) (data : Reply) : Answering data writes := by
  intro appKey row member completed
  have unrecorded := quiet appKey _ member
  simp [records, completed] at unrecorded

theorem quiet_nil : Silent [] := fun _ _ member => absurd member List.not_mem_nil

end Keys

section Parts
variable {settings : Settings} {α β : Type} {writes : List Write} {req : RequestContext}

/-- A part of a body that leaves no response. -/
theorem quiet_part {relation : List Write → β → Prop} {rest : α → Tx β} {body : Tx α}
    (emits : body.Emits fun _ => Heeds pendingOnly) (quiet : Silent writes)
    (onwards : ∀ value writes, Silent writes → (rest value).Yields relation writes) :
    (body >>= rest).Yields relation writes := by
  apply Program.yields_bind (Program.yields_emits emits)
  intro after value each
  apply onwards
  intro appKey write member
  rcases each write member with earlier | ⟨_, heeds⟩
  · exact quiet appKey write earlier
  · exact heeds_quiet heeds appKey

theorem quiet_accompanied {body : Tx α} (request : Nat) (emits : body.Emits (Accompanied pendingOnly request)) :
    body.Emits fun _ => Heeds pendingOnly :=
  emits.mono fun _ _ accompanied => accompanied.heeds

theorem quiet_reserveRequest : (reserveRequest settings req).Emits fun _ => Heeds pendingOnly := by
  apply emits_reserveRequest
  rintro db row pending _ _ _ _ ⟨⟩ _ ⟨⟩
  simp [pending]

theorem quiet_transitionEscrowStatus (appId : String) (id : RowId) (expected : EscrowStatus) (change : Escrow → Escrow) :
    (transitionEscrowStatus appId id expected change).Emits fun _ => Heeds pendingOnly :=
  emits_update fun _ _ _ _ _ _ => heeds_other (by simp [Write.relation])

theorem quiet_updateTransaction (appId : String) (id : RowId) (change : Nat → Transaction → Transaction) :
    (updateTransaction appId id change).Emits fun _ => Heeds pendingOnly :=
  emits_update fun _ _ _ _ _ _ => heeds_other (by simp [Write.relation])

/-- Behind the statement that stores a response. -/
theorem stored_part {relation : List Write → β → Prop} {rest : Unit → Tx β} (statusCode : Nat) {data : Reply}
    (quiet : Silent writes) (onwards : ∀ writes, Answering data writes → (rest ()).Yields relation writes) :
    (storeIdempotentResponse settings req statusCode data >>= rest).Yields relation writes := by
  have emits : (storeIdempotentResponse settings req statusCode data).Emits fun _ write => Answering data [write] := by
    unfold storeIdempotentResponse
    dsimp only
    split
    next => exact Program.emits_throw _
    next =>
      apply emits_completeIdempotentRequest
      intro db row completed stored appKey found member _
      cases List.mem_singleton.mp member
      exact ⟨req.requestId, stored⟩
  apply Program.yields_bind (Program.yields_emits emits)
  intro after _ each
  apply onwards
  intro appKey row member completed
  rcases each _ member with earlier | ⟨_, answering⟩
  · exact quiet.answering data appKey row earlier completed
  · exact answering appKey row List.mem_cons_self completed

/-- The end of a body that stores what it returns. -/
theorem yields_stored (statusCode : Nat) (data : Reply) (quiet : Silent writes) :
    (storeIdempotentResponse settings req statusCode data >>= fun _ => pure data).Yields
      (fun after reply => Answering reply after) writes :=
  stored_part statusCode quiet fun _ answering => Program.yields_pure answering

theorem yields_finalizeEscrowCreation (reserved : ReservedEscrowCreation) (result : EscrowAdapterResult) :
    (finalizeEscrowCreation settings req reserved result).Yields (fun after reply => Answering reply after) [] := by
  apply quiet_part (Program.emits_ofExcept _) quiet_nil
  intro _ writes quiet
  apply quiet_part (quiet_transitionEscrowStatus _ _ _ _) quiet
  intro count writes quiet
  apply quiet_part (Program.emits_ofExcept _) quiet
  intro _ writes quiet
  apply quiet_part (emits_read _) quiet
  intro found writes quiet
  apply quiet_part (emits_required _ _ _) quiet
  intro updated writes quiet
  apply quiet_part (quiet_updateTransaction _ _ _) quiet
  intro _ writes quiet
  apply quiet_part (quiet_accompanied _ (accompanies_enqueueCkbReconciliation rfl _ _)) quiet
  intro _ writes quiet
  exact yields_stored _ _ quiet

theorem quiet_moveFunding (appId : String) (current : Escrow) (result : EscrowAdapterResult) :
    (moveFunding appId current result).Emits fun _ => Heeds pendingOnly := by
  unfold moveFunding
  split
  next =>
    apply Program.emits_bind (Program.emits_ofExcept _)
    intro _
    apply Program.emits_bind (quiet_transitionEscrowStatus _ _ _ _)
    intro count
    exact Program.emits_ofExcept _
  next => exact Program.emits_pure _

theorem yields_finalizeEscrowFunding (before : Escrow) (result : EscrowAdapterResult) :
    (finalizeEscrowFunding settings req before result).Yields (fun after reply => Answering reply after) [] := by
  apply quiet_part (emits_read _) quiet_nil
  intro found writes quiet
  apply quiet_part (emits_required _ _ _) quiet
  intro current writes quiet
  split
  next => exact yields_stored _ _ quiet
  next =>
    split
    next => trivial
    next =>
      apply quiet_part (quiet_moveFunding _ _ _) quiet
      intro _ writes quiet
      apply quiet_part (emits_read _) quiet
      intro found writes quiet
      apply quiet_part (emits_required _ _ _) quiet
      intro updated writes quiet
      apply quiet_part (emits_read _) quiet
      intro lockTransaction writes quiet
      have finish : ∀ writes, Silent writes → (do
          if result.status = .funded then transitionFundingScope req.appId updated else pure ()
          storeIdempotentResponse settings req 200 (.escrow updated)
          return .escrow updated : Tx Reply).Yields (fun after reply => Answering reply after) writes := by
        intro writes quiet
        split
        next =>
          apply quiet_part (quiet_accompanied 0 (accompanies_transitionFundingScope _ _)) quiet
          intro _ writes quiet
          exact yields_stored _ _ quiet
        next => exact yields_stored _ _ quiet
      cases lockTransaction with
      | none => exact finish writes quiet
      | some row =>
        apply quiet_part (quiet_updateTransaction _ _ _) quiet
        intro _ writes quiet
        exact finish writes quiet

theorem quiet_currentPending (operation : SettlementOperation) (escrowId : RowId) (purpose : String) :
    (currentPending req operation escrowId purpose).Emits fun _ => Heeds pendingOnly := by
  apply Program.emits_bind (emits_read _)
  intro found
  apply Program.emits_bind (emits_required _ _ _)
  intro current
  split
  next => exact Program.emits_throw _
  next => exact Program.emits_pure _

theorem yields_finalizeFailedEscrowSettlement (operation : SettlementOperation) (reserved : ReservedEscrowSettlement) :
    (finalizeFailedEscrowSettlement settings req operation reserved).Yields
      (fun after reply => Answering reply after) [] := by
  apply quiet_part (quiet_currentPending _ _ _) quiet_nil
  intro current writes quiet
  apply quiet_part (Program.emits_ofExcept _) quiet
  intro _ writes quiet
  apply quiet_part (quiet_transitionEscrowStatus _ _ _ _) quiet
  intro count writes quiet
  apply quiet_part (Program.emits_ofExcept _) quiet
  intro _ writes quiet
  apply quiet_part (emits_read _) quiet
  intro found writes quiet
  apply quiet_part (emits_required _ _ _) quiet
  intro failed writes quiet
  apply quiet_part (quiet_updateTransaction _ _ _) quiet
  intro _ writes quiet
  exact yields_stored _ _ quiet

theorem yields_finalizeSuccessfulEscrowSettlement (operation : SettlementOperation)
    (reserved : ReservedEscrowSettlement) (result : EscrowAdapterResult) :
    (finalizeSuccessfulEscrowSettlement settings req operation reserved result).Yields
      (fun after reply => Answering reply after) [] := by
  apply quiet_part (quiet_currentPending _ _ _) quiet_nil
  intro current writes quiet
  have swap : ∀ writes, Silent writes → (do
      let count ← transitionEscrowStatus req.appId current.id (settlementPendingStatus operation)
        (escrowSettledBy operation (settlementNextStatus operation current result.status) result.txHash)
      Program.ofExcept (assertLifecycleCompareAndSwap "escrow" count (settlementPendingStatus operation)
        (settlementNextStatus operation current result.status))
      let updated ← required "Escrow not found after settlement finalization." "escrow_not_found"
        (← findEscrowForApp req.appId current.id)
      let _ ← updateTransaction req.appId reserved.transactionId (transactionSettledBy current
        (settlementNextStatus operation current result.status) result.txHash)
      enqueueCkbReconciliation ⟨req.request, 1⟩ updated reserved.transactionId
      if settlementNextStatus operation current result.status = settlementTerminalStatus operation then
        transitionSettledScope req.appId updated operation
      else pure ()
      storeIdempotentResponse settings req 200 (.escrow updated)
      return .escrow updated : Tx Reply).Yields (fun after reply => Answering reply after) writes := by
    intro writes quiet
    apply quiet_part (quiet_transitionEscrowStatus _ _ _ _) quiet
    intro count writes quiet
    apply quiet_part (Program.emits_ofExcept _) quiet
    intro _ writes quiet
    apply quiet_part (emits_read _) quiet
    intro found writes quiet
    apply quiet_part (emits_required _ _ _) quiet
    intro updated writes quiet
    apply quiet_part (quiet_updateTransaction _ _ _) quiet
    intro _ writes quiet
    apply quiet_part (quiet_accompanied _ (accompanies_enqueueCkbReconciliation rfl _ _)) quiet
    intro _ writes quiet
    split
    next =>
      apply quiet_part (quiet_accompanied 0 (accompanies_transitionSettledScope _ _ _)) quiet
      intro _ writes quiet
      exact yields_stored _ _ quiet
    next => exact yields_stored _ _ quiet
  dsimp only
  split
  next =>
    apply quiet_part (Program.emits_ofExcept _) quiet
    intro _ writes quiet
    exact swap writes quiet
  next => exact swap writes quiet

/-- An escrow that is funded already is the answer at once. -/
theorem yields_reserveFunding (escrowId : RowId) : (reserveFunding settings req escrowId).Yields
    (fun after escrow => if escrow.status = .funded then Answering (.escrow escrow) after else Silent after) [] := by
  apply quiet_part quiet_reserveRequest quiet_nil
  intro _ writes quiet
  apply quiet_part (emits_read _) quiet
  intro found writes quiet
  apply quiet_part (emits_required _ _ _) quiet
  intro escrow writes quiet
  split
  next => trivial
  next =>
    split
    next funded =>
      apply stored_part 200 quiet
      intro writes answering
      apply Program.yields_pure
      rwa [if_pos funded]
    next other =>
      apply Program.yields_pure
      rwa [if_neg other]

end Parts

section Bodies
variable {settings : Settings} {id : Nat}

/-- Where the transaction of a phase leaves a response, the request ends with it. -/
def Concludes (phase : Phase) (writes : List Write) (next : Phase) : Prop :=
  ∀ appKey row, .idempotencyKey appKey (some row) ∈ writes → row.status = .completed →
    ∃ data requestId, row.responseBodyJson = some ⟨data, requestId⟩ ∧ next = phase.ending data

theorem Answering.concludes {data : Reply} {writes : List Write} {phase next : Phase} (answering : Answering data writes)
    (ends : next = phase.ending data) : Concludes phase writes next := by
  intro appKey row member completed
  obtain ⟨requestId, stored⟩ := answering appKey row member completed
  exact ⟨data, requestId, stored, ends⟩

theorem Silent.concludes {writes : List Write} (quiet : Silent writes) (phase next : Phase) :
    Concludes phase writes next := by
  intro appKey row member completed
  have unrecorded := quiet appKey _ member
  simp [records, completed] at unrecorded

theorem body_concludes {phase : Phase} {program : Tx Phase} (own : phase.Owned id)
    (runs : body settings phase = some program) : program.Yields (Concludes phase) [] := by
  have finish : ∀ {transaction : Tx Reply} {next : Reply → Phase}, (∀ reply, next reply = phase.ending reply) →
      transaction.Yields (fun after reply => Answering reply after) [] →
      (transaction >>= fun reply => pure (next reply)).Yields (Concludes phase) [] := by
    intro transaction next ends yields
    apply Program.yields_bind yields
    intro writes reply answering
    exact Program.yields_pure (answering.concludes (ends reply))
  cases completes : phase.completes with
  | none =>
    have quiet : program.Emits fun _ => Heeds pendingOnly := by
      refine (body_heeds own runs).mono ?_
      rintro db write heeds appKey row rfl found rfl
      rcases heeds appKey (some found) rfl with ⟨req, other, _⟩ | ⟨req, _, _, pending, _⟩
      · cases completes.symm.trans other
      · simp [pending]
    apply (Program.yields_emits quiet).mono
    intro writes next each
    apply Silent.concludes
    intro appKey write member
    rcases each write member with none | ⟨_, heeds⟩
    · cases none
    · exact heeds_quiet heeds appKey
  | some req =>
    cases phase with
    | running req operation =>
      cases runs
      have quiet : (operation.run req).Emits fun _ => Heeds pendingOnly :=
        (records_operation req operation).mono fun _ _ recorded => heeds_other recorded.keyless
      apply quiet_part quiet quiet_nil
      intro data writes quiet
      apply stored_part _ quiet
      intro writes answering
      exact Program.yields_pure (answering.concludes rfl)
    | fundingReserving req escrowId txHash =>
      cases runs
      apply Program.yields_bind (yields_reserveFunding escrowId)
      intro writes before settled
      apply Program.yields_pure
      by_cases funded : before.status = .funded
      · rw [if_pos funded] at settled ⊢
        exact settled.concludes rfl
      · rw [if_neg funded] at settled
        exact settled.concludes _ _
    | finalizingCreation req reserved result first =>
      cases runs
      exact finish (fun _ => rfl) (yields_finalizeEscrowCreation reserved result)
    | finalizingFunding req before result =>
      cases runs
      exact finish (fun _ => rfl) (yields_finalizeEscrowFunding before result)
    | finalizingFailed req operation reserved error =>
      cases runs
      apply Program.yields_bind (yields_finalizeFailedEscrowSettlement operation reserved)
      intro writes reply answering
      exact Program.yields_pure (answering.concludes rfl)
    | finalizingSettlement req operation reserved result first =>
      cases runs
      exact finish (fun _ => rfl) (yields_finalizeSuccessfulEscrowSettlement operation reserved result)
    | _ => cases completes

end Bodies

section Lookups
variable {settings : Settings} {req : RequestContext} {fallback : Fallback} {data : Reply}

theorem fallback_phase_ne : fallback.phase req ≠ .returned data := by
  cases fallback with
  | proceed call => cases call <;> exact fun same => by cases same
  | throw error => exact fun same => by cases same
  | clear error => exact fun same => by cases same
  | swallow error handler =>
    cases handler with
    | false => exact fun same => by cases same
    | true =>
      intro same
      simp only [Fallback.phase] at same
      split at same
      next => cases same
      next => cases same

theorem fallback_thrown_ne (error : Failure) : fallback.thrown req error ≠ .returned data := by
  cases fallback with
  | swallow first handler => exact fallback_phase_ne
  | _ => exact fun same => by cases same

/-- A lookup answers with the data of a completed row of the same request. -/
theorem replayPhase_returned {found : Option (IdempotencyRow Reply)}
    (answered : replayPhase req fallback found = .returned data) : ∃ row body, found = some row ∧
      row.requestHash = req.context.requestHash ∧ row.status = .completed ∧ row.responseBodyJson = some body ∧
        body.data = data := by
  cases found with
  | none => exact absurd answered fallback_phase_ne
  | some row =>
    simp only [replayPhase] at answered
    split at answered
    next => exact absurd answered (fallback_thrown_ne _)
    next same =>
      split at answered
      next status body completed responded stored =>
        cases answered
        exact ⟨row, body, rfl, not_not.mp same, completed, stored, rfl⟩
      next => exact absurd answered (fallback_thrown_ne _)

/-- The record that answers a request. -/
def AnsweredBy (req : RequestContext) (db : Db) (data : Reply) : Prop :=
  ∃ row body, db.idempotencyKeys req.appKey = some row ∧ row.requestHash = req.context.requestHash ∧
    row.status = .completed ∧ row.responseBodyJson = some body ∧ body.data = data

theorem replayBody_reads (stage : ReplayStage) : (replayBody req fallback stage).Reads
    (fun writes db next => ∀ data, next = .returned data → writes = [] ∧ AnsweredBy req db data) [] := by
  have answers : ∀ {db : Db} {found : Option (IdempotencyRow Reply)} {data : Reply},
      db.idempotencyKeys req.appKey = found → replayPhase req fallback found = .returned data → AnsweredBy req db data := by
    intro db found data there answered
    obtain ⟨row, body, rfl, rest⟩ := replayPhase_returned answered
    exact ⟨row, body, there, rest⟩
  cases stage with
  | find =>
    apply Program.reads_last
    intro now db answer added executed
    cases executed
    cases there : db.idempotencyKeys req.appKey with
    | none =>
      refine ⟨replayPhase req fallback none, by rw [findIdempotencyKey, there], ?_⟩
      exact fun data answered => ⟨rfl, answers there answered⟩
    | some row =>
      by_cases past : expired row now = true
      · refine ⟨.replaying req .deleteExpired fallback, by rw [findIdempotencyKey, there]; exact if_pos past, ?_⟩
        exact fun data answered => by cases answered
      · refine ⟨replayPhase req fallback (some row), by rw [findIdempotencyKey, there]; exact if_neg past, ?_⟩
        exact fun data answered => ⟨rfl, answers there answered⟩
  | deleteExpired =>
    apply Program.reads_last
    intro now db answer added _
    exact ⟨.replaying req .findAgain fallback, rfl, fun data answered => by cases answered⟩
  | findAgain =>
    apply Program.reads_last
    intro now db answer added executed
    cases executed
    exact ⟨replayPhase req fallback (db.idempotencyKeys req.appKey), rfl, fun data answered => ⟨rfl, answers rfl answered⟩⟩

end Lookups

section Runs
variable {settings : Settings} {state next : State} {appKey : AppKey}

/-- The process has come to its end in this phase. -/
def Ended (state : State) (process : Nat) (phase : Phase) : Prop :=
  ∃ alive, state.processes process = some ⟨phase, none, alive⟩

/-- A phase without a transaction and without a step outside is never left. -/
theorem Ended.step {process : Nat} {phase : Phase} {action : Action} (ended : Ended state process phase)
    (idle : body settings phase = none) (alone : ∀ env external, outside settings env process phase external = none)
    (taken : step settings state action = some next) : Ended next process phase := by
  obtain ⟨alive, here⟩ := ended
  obtain ⟨new, processes, move⟩ := step_move taken
  by_cases same : action.process = process
  · subst same
    have now : next.processes action.process = some new := by rw [processes, Function.update_self]
    cases move with
    | arrive absent => cases absent.symm.trans here
    | start open' runs =>
      cases open'.symm.trans here
      cases runs.symm.trans idle
    | statement open' _ => cases open'.symm.trans here
    | caught open' _ _ => cases open'.symm.trans here
    | outside open' answered =>
      cases open'.symm.trans here
      cases answered.symm.trans (alone _ _)
    | commit open' _ => cases open'.symm.trans here
    | crash open' =>
      cases open'.symm.trans here
      exact ⟨false, now⟩
  · refine ⟨alive, ?_⟩
    rw [processes, Function.update_of_ne (Ne.symm same)]
    exact here

theorem ending_final (settings : Settings) (phase : Phase) (data : Reply) : body settings (phase.ending data) = none ∧
    ∀ env process external, outside settings env process (phase.ending data) external = none := by
  cases phase <;> exact ⟨rfl, fun _ _ _ => rfl⟩

theorem Ended.unique {process : Nat} {first second : Phase} (one : Ended state process first)
    (two : Ended state process second) : first = second := by
  obtain ⟨_, here⟩ := one
  obtain ⟨_, there⟩ := two
  cases here.symm.trans there
  rfl

theorem ending_threw {phase : Phase} (threw : phase.railThrew = true) (data : Reply) :
    ∃ error, phase.ending data = .failed error := by
  cases phase with
  | finalizingFailed req operation reserved error => exact ⟨error, rfl⟩
  | _ => cases threw

theorem ending_returned {phase : Phase} (kept : phase.railThrew = false) (data : Reply) :
    phase.ending data = .returned data := by
  cases phase with
  | finalizingFailed req operation reserved error => cases kept
  | _ => rfl

/-- Whoever left the response that is under the key has ended with it. -/
structure RecordKept (settings : Settings) (appKey : AppKey) (last : Option (Nat × Phase)) (state : State) : Prop where
  sound : Sound (app settings) ownership state
  sessions : Sessions (fun id phase session => session.rest.Yields
    (fun writes next => phase.Owned id → Concludes phase writes next) session.writes) state
  recorded : ∀ row, state.db.idempotencyKeys appKey = some row → row.status = .completed →
    ∃ original phase data requestId, last = some (original, phase) ∧
      row.responseBodyJson = some ⟨data, requestId⟩ ∧ Ended state original (phase.ending data)

theorem carried_concludes : Carried (app settings) fun id phase session => session.rest.Yields
    (fun writes next => phase.Owned id → Concludes phase writes next) session.writes := by
  apply carried_yields
  intro id phase program runs
  by_cases own : phase.Owned id
  · exact (body_concludes own runs).mono fun _ _ concludes _ => concludes
  · exact Program.yields_of_forall (fun _ _ known => absurd known own) program []

theorem recorder_none {action : Action} (unwritten : ∀ row, .idempotencyKey appKey row ∉ committed state action) :
    recorder appKey state action = none := by
  cases action with
  | finish id =>
    unfold recorder
    dsimp only
    split
    next phase last log writes here =>
      simp only [committed, here] at unwritten
      have unrecorded : writes.any (records appKey) = false := by
        rw [List.any_eq_false]
        intro write member
        cases write with
        | idempotencyKey other row =>
          cases row with
          | none => simp [records]
          | some row =>
            have different : other ≠ appKey := fun same => unwritten (some row) (same ▸ member)
            simp [records, different]
        | _ => simp [records]
      rw [unrecorded]
      rfl
    next => rfl
  | _ => rfl

theorem RecordKept.step {last : Option (Nat × Phase)} {action : Action} (recorded : RecordKept settings appKey last state)
    (taken : step settings state action = some next) :
    RecordKept settings appKey ((recorder appKey state action).or last) next where
  sound := ownership_sound recorded.sound taken
  sessions := recorded.sessions.step carried_concludes action taken
  recorded := by
    intro row found completed
    rw [step_db taken] at found
    rcases view_key (committed state action) state.db appKey with ⟨written, member, same⟩ | ⟨unwritten, same⟩
    · cases same.symm.trans found
      rcases recorded.sound.committed action with nothing | ⟨id, phase, ended, log, writes, rfl, here, same, own, _⟩
      · rw [nothing] at member
        cases member
      · rw [same] at member
        have concludes : Concludes phase writes ended := recorded.sessions id _ _ here rfl own
        obtain ⟨data, requestId, stored, rfl⟩ := concludes appKey row member completed
        refine ⟨id, phase, data, requestId, ?_, stored, true, ?_⟩
        · have written : writes.any (records appKey) = true :=
            List.any_eq_true.mpr ⟨_, member, by simp [records, completed]⟩
          simp only [recorder, here, written, if_true, Option.some_or]
        · simp only [Server.step, ReadCommitted.step, here, finishStep] at taken
          cases taken
          exact Function.update_self ..
    · obtain ⟨original, phase, data, requestId, known, stored, ended⟩ :=
        recorded.recorded row (same.symm.trans found) completed
      refine ⟨original, phase, data, requestId, ?_, stored, ?_⟩
      · rw [recorder_none unwritten]
        exact known
      · obtain ⟨idle, alone⟩ := ending_final settings phase data
        exact ended.step idle (fun env external => alone env original external) taken

theorem RecordKept.run {last : Option (Nat × Phase)} {actions : List Action} (recorded : RecordKept settings appKey last state)
    (reached : run (Server.step settings) state actions = some next) :
    RecordKept settings appKey (recordedBy (Server.step settings) appKey last state actions) next := by
  induction actions generalizing state last with
  | nil =>
    cases reached
    exact recorded
  | cons action actions ih =>
    obtain ⟨middle, taken, reached⟩ := run_cons reached
    unfold recordedBy
    rw [taken]
    exact ih (recorded.step taken) reached

theorem RecordKept.initial (settings : Settings) (appKey : AppKey) : RecordKept settings appKey none initial :=
  ⟨Sound.initial trivial, Sessions.initial, fun _ found => by cases found⟩

/-- A lookup reads the record under its key, and its request is to be answered with this data. -/
structure Replayed (settings : Settings) (state : State) (replayer now : Nat) (req : RequestContext) (data : Reply)
    (next : State) : Prop where
  taken : Server.step settings state (.statement replayer now) = some next
  answered : ∃ stage fallback log writes, next.processes replayer =
    some ⟨.replaying req stage fallback, some ⟨.done (.returned data), log, writes⟩, true⟩

/-- A lookup that answers has written nothing and has seen the record. -/
def Looks (phase : Phase) (writes : List Write) (db : Db) (next : Phase) : Prop :=
  ∀ req stage fallback data, phase = .replaying req stage fallback → next = .returned data →
    writes = [] ∧ AnsweredBy req db data

theorem carried_looks :
    Carried (app settings) fun _ phase session => session.rest.Reads (Looks phase) session.writes := by
  apply @carried_reads _ _ _ _ _ _ _ _ (app settings) fun _ => Looks
  intro id phase program runs
  cases phase with
  | replaying req stage fallback =>
    cases runs
    refine (replayBody_reads stage).mono ?_
    rintro writes db next answers _ _ _ data ⟨⟩ same
    exact answers data same
  | _ => exact Program.reads_of_forall (fun _ _ _ _ _ _ _ same => by cases same) program []

/-- The record is the committed one of the moment of the lookup. -/
theorem Replayed.record {replayer now : Nat} {req : RequestContext} {data : Reply} {actions : List Action}
    (reached : run (Server.step settings) initial actions = some state)
    (replayed : Replayed settings state replayer now req data next) : AnsweredBy req state.db data := by
  obtain ⟨taken, stage, fallback, log, writes, answered⟩ := replayed
  obtain ⟨new, processes, move⟩ := step_move taken
  rw [processes, Action.process, Function.update_self] at answered
  cases move with
  | statement here executed =>
    simp only [Option.some.injEq, Process.mk.injEq, Session.mk.injEq] at answered
    obtain ⟨rfl, ⟨ends, _, _⟩, _⟩ := answered
    have reads := Sessions.run carried_looks reached _ _ _ here rfl
    obtain ⟨_, decided⟩ := reads _ _ _ _ executed
    obtain ⟨nothing, record⟩ := decided _ ends req stage fallback data rfl rfl
    dsimp only at nothing record
    rw [nothing] at record
    exact record
  | caught => simp at answered

/-- A request that is answered from a record gets the outcome of the request that stored it,
unless that was a settlement whose rail operation threw. -/
theorem replay_faithful_iff {earlier later : List Action} {final : State} {replayer now : Nat} {req : RequestContext}
    {data : Reply} (reached : run (Server.step settings) initial earlier = some state)
    (replayed : Replayed settings state replayer now req data next)
    (onwards : run (Server.step settings) next later = some final) :
    ∃ original phase, recordedBy (Server.step settings) req.appKey none initial earlier = some (original, phase) ∧
      (Ended final original (.returned data) ↔ phase.railThrew = false) := by
  have recorded := (RecordKept.initial settings req.appKey).run reached
  obtain ⟨row, body, there, _, completed, stored, rfl⟩ := replayed.record reached
  obtain ⟨original, phase, data, requestId, known, same, ended⟩ := recorded.recorded row there completed
  cases same.symm.trans stored
  have last : Ended final original (phase.ending data) := by
    obtain ⟨idle, alone⟩ := ending_final settings phase data
    have alone := fun env external => alone env original external
    have invariant := fun (now : State) action after (here : Ended now original (phase.ending data)) =>
      @Ended.step settings now after original _ action here idle alone
    exact invariant_run invariant later next final (ended.step idle alone replayed.taken) onwards
  refine ⟨original, phase, known, ?_⟩
  cases threw : phase.railThrew with
  | true =>
    obtain ⟨error, failed⟩ := ending_threw threw data
    rw [failed] at last
    refine ⟨?_, fun never => by cases never⟩
    intro returned
    cases last.unique returned
  | false =>
    rw [ending_returned threw data] at last
    exact ⟨fun _ => rfl, fun _ => last⟩

end Runs

section Scenario

/-- The creation of the escrow is asked for once more. -/
def replayedCreation : List Action :=
  fundedRun ++ [.arrive 3 (.api "app" ⟨"1", ""⟩ "" (.createEscrow ⟨⟨0, 0⟩, none, "5", "CKB", .mock, .sandbox, none, none, none⟩)),
    .start 3]

/-- The key of a lookup that is about to answer with an escrow. -/
def answersEscrow (process : Nat) (state : State) : Option AppKey :=
  match state.processes process with
  | some ⟨.replaying req _ _, some ⟨.done (.returned (.escrow _)), _, _⟩, true⟩ => some req.appKey
  | _ => none

theorem answersEscrow_some {process : Nat} {state : State} {appKey : AppKey}
    (seen : answersEscrow process state = some appKey) : ∃ req stage fallback row log writes, req.appKey = appKey ∧
      state.processes process =
        some ⟨.replaying req stage fallback, some ⟨.done (.returned (.escrow row)), log, writes⟩, true⟩ := by
  unfold answersEscrow at seen
  split at seen
  next req stage fallback row log writes here =>
    cases seen
    exact ⟨req, stage, fallback, row, log, writes, rfl, here⟩
  next => cases seen

/-- The theorem at a creation that is asked for twice. -/
theorem replayedCreation_faithful : ∃ state next req row original phase,
    run (step sandbox) initial replayedCreation = some state ∧ req.appKey = ⟨"app", "1"⟩ ∧
      Replayed sandbox state 3 0 req (.escrow row) next ∧
      recordedBy (step sandbox) req.appKey none initial replayedCreation = some (original, phase) ∧
      (Ended next original (.returned (.escrow row)) ↔ phase.railThrew = false) := by
  have observed : ((run (step sandbox) initial replayedCreation).bind fun state =>
      (step sandbox state (.statement 3 0)).map (answersEscrow 3)) = some (some ⟨"app", "1"⟩) := by decide +kernel
  obtain ⟨state, reached, observed⟩ := Option.bind_eq_some_iff.mp observed
  obtain ⟨next, taken, seen⟩ := Option.map_eq_some_iff.mp observed
  obtain ⟨req, stage, fallback, row, log, writes, key, here⟩ := answersEscrow_some seen
  have replayed : Replayed sandbox state 3 0 req (.escrow row) next := ⟨taken, stage, fallback, log, writes, here⟩
  obtain ⟨original, phase, known, same⟩ := replay_faithful_iff reached replayed (rfl : run (step sandbox) next [] = some next)
  exact ⟨state, next, req, row, original, phase, reached, key, replayed, known, same⟩

end Scenario

end PactAgent.Server
