import PactAgent.Server.Disputes

/-! Refunds after a dispute that was resolved for the worker. The guard of a refund looks
at no dispute: only the status of the escrow, an earlier refund of it or a released
agreement stand in its way. -/

namespace PactAgent.Server
open PactAgent.Common PactAgent.Common.Amounts PactAgent.Foundation PactAgent.Lifecycle PactAgent.Store
open PactAgent.Escrow PactAgent.Foundation.Execution PactAgent.Foundation.ReadCommitted
open PactAgent.Rail.Builder

/-- Resolved for the worker, or split with a part for the worker. -/
def forWorker (dispute : Dispute) : Bool :=
  match dispute.status with
  | .resolvedRelease => true
  | .resolvedSplit =>
      match parseNonNegativeIntegerAmount (dispute.workerAmount.getD "undefined") "workerAmount" with
      | .ok amount => decide (0 < amount)
      | .error _ => false
  | _ => false

/-- A dispute of the escrow's milestone went to the worker. -/
def wonByWorker (db : Db) (escrow : Escrow) : Bool :=
  db.disputes.rows.any fun dispute => escrow.milestoneId = some dispute.milestoneId && forWorker dispute

/-- What keeps a refund of the escrow from being reserved: it is not funded, it has had
a refund, or its agreement is released and no refund is under way. -/
def Shielded (state : State) (escrow : Escrow) : Prop :=
  escrow.status ≠ .funded ∨
    (∃ row ∈ state.db.transactions, row.appId = escrow.appId ∧ row.operationId = some ⟨escrow.id, .refund⟩) ∨
    ((∃ agreement, state.db.agreements.get escrow.agreementId = some agreement ∧ agreement.status = .released) ∧
      ∀ id phase session, state.processes id = some ⟨phase, some session, true⟩ → ∀ row,
        .escrow row ∈ session.writes → row.id = escrow.id → row.status ≠ .refundPending)

/-- Every escrow that the worker won is shielded. -/
def wonShielded (state : State) (_ : Action) : Prop :=
  ∀ escrow ∈ state.db.escrows, wonByWorker state.db escrow = true → Shielded state escrow

section Steps
variable {settings : Settings}

theorem forWorker_resolved {dispute : Dispute} (won : forWorker dispute = true) :
    dispute.status.unresolved = false := by
  unfold forWorker at won
  cases status : dispute.status <;> simp [status] at won <;> rfl

/-- The refunds of the milestone's escrow are those of an earlier state. -/
structure NoNewRefund (milestoneId : RowId) (earlier db : Db) : Prop where
  each : ∀ row ∈ db.transactions, row.type = .refund → (earlier.transactions.get row.id).isSome ∨
    ∃ escrow, row.escrowId = some escrow.id ∧ db.escrows.get escrow.id = some escrow ∧
      escrow.status ≠ .notCreated ∧ escrow.milestoneId ≠ some milestoneId

theorem NoNewRefund.old {milestoneId : RowId} {earlier db after : Db} (none : NoNewRefund milestoneId earlier db)
    (steady : Steady db after) {row old : Transaction} (stored : old ∈ db.transactions) (same : old.id = row.id)
    (terms : row.terms = old.terms) (refund : row.type = .refund) :
    (earlier.transactions.get row.id).isSome ∨ ∃ escrow, row.escrowId = some escrow.id ∧
      after.escrows.get escrow.id = some escrow ∧ escrow.status ≠ .notCreated ∧
        escrow.milestoneId ≠ some milestoneId := by
  have type : row.type = old.type := congrArg TransactionTerms.type terms
  have sameEscrow : row.escrowId = old.escrowId := congrArg TransactionTerms.escrowId terms
  rcases none.each old stored (type ▸ refund) with there | ⟨escrow, belongs, found, created, other⟩
  · exact .inl (same ▸ there)
  · obtain ⟨new, newFound, sameTerms, stays⟩ := steady.escrows escrow.id escrow found created
    have key : new.id = escrow.id := Table.key_of_get newFound
    have milestone : new.milestoneId = escrow.milestoneId :=
      congrArg (fun terms => terms.scope.milestoneId) sameTerms
    exact .inr ⟨new, by rw [sameEscrow, belongs, key], by rw [key]; exact newFound, stays.resolve_left created,
      milestone ▸ other⟩

/-- A refund is reserved only for an escrow that is not shielded. -/
theorem commits_noNewRefund {state : State} {id : Nat} {phase next : Phase} {log : List Query}
    {writes : List Write} {earlier : Db} {dispute : Dispute}
    (here : state.processes id = some ⟨phase, some ⟨.done next, log, writes⟩, true⟩)
    (shielded : ∀ action, wonShielded state action) (own : phase.Owned id)
    (commits : Commits (app settings) ownership id phase next writes state.db)
    (member : dispute ∈ state.db.disputes) (won : forWorker dispute = true)
    (none : NoNewRefund dispute.milestoneId earlier state.db) :
    NoNewRefund dispute.milestoneId earlier (Storage.view writes state.db) := by
  have steady := commits_steady own commits
  constructor
  intro row rowIn refund
  rcases commits_transactions own commits rowIn with ⟨old, oldIn, same, terms⟩ | inserted
  · exact none.old steady oldIn same terms refund
  · cases phase with
    | settlementReserving req operation escrowId =>
      have type : settlementType operation = .refund := by
        rw [refund] at inserted
        exact (List.mem_singleton.mp inserted).symm
      cases operation with
      | release => cases type
      | refund =>
      have keeps : Keeps (ownership.rely id (.settlementReserving req .refund escrowId)) fun _ _ => True :=
        ⟨fun _ => trivial, fun _ _ _ _ _ => trivial, fun _ _ _ _ => trivial⟩
      obtain ⟨_, old, appKey, keyRow, written, funded, owner, stored, unique, _⟩ := reserving_commits keeps commits
      have key : old.id = escrowId := Table.key_of_get stored
      have other : old.milestoneId ≠ some dispute.milestoneId := by
        intro sameMilestone
        have wins : wonByWorker state.db old = true :=
          List.any_eq_true.mpr ⟨dispute, member, by simp [sameMilestone, won]⟩
        rcases shielded (.finish id) old (Table.mem_of_get stored) wins with
          unfunded | ⟨refunded, refundedIn, app, operationId⟩ | ⟨_, nothing⟩
        · exact unfunded funded
        · exact unique refunded refundedIn (app.trans owner) (key ▸ operationId)
        · exact nothing id _ _ here { old with status := .refundPending } (by simp [written,
            settlementPendingStatus]) rfl rfl
      have toTransactions : Write.to .transactions writes = [.transaction (newTransaction ⟨req.request, 0⟩
          { old with status := .refundPending } .refund)] := by
        rw [written]
        simp [Write.relation, settlementPendingStatus, settlementType]
      have toEscrows : Write.to .escrows writes = [{ old with status := .refundPending }].map .escrow := by
        rw [written]
        simp [Write.relation, settlementPendingStatus]
      rcases (stored_transactions.mem_put toTransactions).mp rowIn with rfl | ⟨before, _⟩
      · exact .inr ⟨{ old with status := .refundPending }, rfl, stored_escrows.get_last toEscrows rfl state.db,
          by simp, other⟩
      · exact none.old steady before rfl rfl refund
    | _ =>
      rw [refund] at inserted
      revert inserted
      simp [Phase.effect, lockEffect, creationEffect, fundingEffect, failureEffect, settlementEffect,
        reconciliationEffect, Effect.none]

end Steps

section Runs
variable {settings : Settings} {before more : List Action} {state later : State}

end Runs

section Scenario

/-- No escrow that the worker won is funded. -/
def noneFunded (state : State) (_ : Action) : Bool :=
  state.db.escrows.rows.all fun escrow => !wonByWorker state.db escrow || decide (escrow.status ≠ .funded)

theorem wonShielded_of_noneFunded (state : State) (action : Action) (tested : noneFunded state action = true) :
    wonShielded state action := by
  intro escrow member won
  have test := List.all_eq_true.mp tested escrow member
  rw [won] at test
  exact .inl (by simpa using test)

/-- The milestones whose disputes went to the worker, and the milestones of the refunds. -/
structure RefundView where
  disputes : List DisputeStatus
  won : List RowId
  refunded : List (Option RowId)
  deriving DecidableEq

def refundView (state : State) : RefundView where
  disputes := disputeStatuses state
  won := (state.db.disputes.rows.filter forWorker).map (·.milestoneId)
  refunded := (state.db.transactions.rows.filter fun row => row.type = .refund).map (·.milestoneId)

theorem won_of_observed {state : State} {milestoneId : RowId} (observed : (refundView state).won = [milestoneId]) :
    ∃ dispute ∈ state.db.disputes, forWorker dispute = true := by
  have listed : milestoneId ∈ (state.db.disputes.rows.filter forWorker).map (·.milestoneId) := by
    rw [show (state.db.disputes.rows.filter forWorker).map (·.milestoneId) = _ from observed]
    exact List.mem_singleton.mpr rfl
  obtain ⟨dispute, member, _⟩ := List.mem_map.mp listed
  obtain ⟨member, won⟩ := List.mem_filter.mp member
  exact ⟨dispute, member, won⟩

/-- A refund that was reserved before the dispute went to the worker, and ends after it. -/
def earlyRefund : List Action :=
  [milestoneRun, operate 6 (.createDispute ⟨⟨0, 0⟩, ⟨1, 0⟩⟩) 9, reserveMock 7 .refund ⟨4, 0⟩ 6,
    operate 8 (.resolveDispute ⟨6, 0⟩ ⟨.release, none, none⟩) 10].flatten

def earlyRefundEnd : List Action := .outside 7 .localRail :: transact 7 8

/-- A refund of the escrow is reserved after its dispute went to the worker. -/
def RefundedAfter (status : DisputeStatus) (script : List Action) : Prop :=
  ∃ state later, run (step sandbox) initial script = some state ∧
    run (step sandbox) state (reserveMock 8 .refund ⟨4, 0⟩ 6) = some later ∧
    refundView state = ⟨[status], [⟨1, 0⟩], []⟩ ∧ refundView later = ⟨[status], [⟨1, 0⟩], [some ⟨1, 0⟩]⟩

theorem refundedAfter_of_observed {status : DisputeStatus} {script : List Action}
    (observed : (run (step sandbox) initial script).map refundView = some ⟨[status], [⟨1, 0⟩], []⟩)
    (afterwards : (run (step sandbox) initial (script ++ reserveMock 8 .refund ⟨4, 0⟩ 6)).map refundView =
      some ⟨[status], [⟨1, 0⟩], [some ⟨1, 0⟩]⟩) : RefundedAfter status script := by
  obtain ⟨state, reached, seen⟩ := Option.map_eq_some_iff.mp observed
  rw [run_append reached] at afterwards
  obtain ⟨later, onwards, there⟩ := Option.map_eq_some_iff.mp afterwards
  exact ⟨state, later, reached, onwards, seen, there⟩

end Scenario

end PactAgent.Server
