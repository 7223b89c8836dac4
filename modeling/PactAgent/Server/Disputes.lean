import PactAgent.Server.Scope

/-! Disputes bind settlements. The status of an agreement tells how its dispute stands,
so that a release, which needs an approved agreement or a dispute resolved for the
worker, never meets a dispute that was resolved otherwise. -/

namespace PactAgent.Server
open PactAgent.Common PactAgent.Foundation PactAgent.Lifecycle PactAgent.Store PactAgent.Escrow
open PactAgent.Foundation.Execution PactAgent.Foundation.ReadCommitted
open PactAgent.Rail.Builder

/-- The statuses of an agreement beside a dispute in this status. -/
def DisputeFits : DisputeStatus → AgreementStatus → Prop
  | .resolvedRelease, agreement => agreement ∈ [AgreementStatus.approved, .releasePending, .released]
  | .cancelled, _ => False
  | _, agreement => agreement ∈ [AgreementStatus.disputed, .released, .refunded]

/-- The agreement is on its way to the worker, and no dispute of it says otherwise. -/
def Settled (db : Db) (agreementId : RowId) : Prop :=
  (∃ agreement, db.agreements.get agreementId = some agreement ∧
      agreement.status ∈ [AgreementStatus.approved, .releasePending, .released]) ∧
    ∀ dispute ∈ db.disputes, dispute.agreementId = agreementId → dispute.status = .resolvedRelease

structure DisputesBind (db : Db) : Prop where
  fits : ∀ dispute ∈ db.disputes, ∃ agreement, db.agreements.get dispute.agreementId = some agreement ∧
    DisputeFits dispute.status agreement.status
  single : ∀ first ∈ db.disputes, ∀ second ∈ db.disputes, first.agreementId = second.agreementId → first = second
  /-- Every reserved release belongs to an agreement that is settled for the worker. -/
  paid : ∀ row ∈ db.transactions, row.type = .release → ∃ escrow, row.escrowId = some escrow.id ∧
    db.escrows.get escrow.id = some escrow ∧ escrow.status ≠ .notCreated ∧ Settled db escrow.agreementId

/-- Beside a dispute, an agreement moves from `disputed` to `approved` only by a resolution. -/
theorem DisputeFits.step {dispute : DisputeStatus} {old new : AgreementStatus} (fits : DisputeFits dispute old)
    (valid : canTransitionAgreement old new = true) (other : ¬(old = .disputed ∧ new = .approved)) :
    DisputeFits dispute new := by
  cases dispute <;> cases old <;> simp [DisputeFits] at fits <;> cases new <;>
    simp_all [canTransitionAgreement, DisputeFits]

theorem settled_of_approved {db : Db} (bind : DisputesBind db) {agreementId : RowId} {agreement : Agreement}
    (stored : db.agreements.get agreementId = some agreement) (approved : agreement.status = .approved) :
    Settled db agreementId := by
  refine ⟨⟨agreement, stored, by simp [approved]⟩, ?_⟩
  intro dispute member same
  obtain ⟨found, there, fits⟩ := bind.fits dispute member
  rw [same, stored] at there
  cases there
  rw [approved] at fits
  cases status : dispute.status <;> simp_all [DisputeFits]

theorem settled_of_resolvedRelease {db : Db} (bind : DisputesBind db) {dispute : Dispute}
    (member : dispute ∈ db.disputes) (resolved : dispute.status = .resolvedRelease) :
    Settled db dispute.agreementId := by
  obtain ⟨agreement, stored, fits⟩ := bind.fits dispute member
  rw [resolved] at fits
  refine ⟨⟨agreement, stored, fits⟩, ?_⟩
  intro other otherIn same
  rw [bind.single other otherIn dispute member same, resolved]

/-- What lasts, and that settled agreements stay settled. -/
structure SettledLast (before after : Db) : Prop where
  steady : Steady before after
  settled : ∀ agreementId, Settled before agreementId → Settled after agreementId

theorem SettledLast.refl (db : Db) : SettledLast db db := ⟨.refl db, fun _ settled => settled⟩

theorem SettledLast.trans (first second third : Db) (earlier : SettledLast first second)
    (later : SettledLast second third) : SettledLast first third :=
  ⟨earlier.steady.trans later.steady, fun agreementId settled =>
    later.settled agreementId (earlier.settled agreementId settled)⟩

def disputeClaims : Assertions Db Query Phase Env where
  holds := DisputesBind
  knows id _ phase _ := phase.Owned id
  rely _ _ _ := SettledLast
  rely_refl _ _ _ := .refl
  rely_trans _ _ _ := .trans

section Commits
variable {settings : Settings} {id : Nat} {phase next : Phase} {writes : List Write} {db : Db}

/-- What a commit does to the disputes, beside the agreements that it moves. -/
inductive DisputeChange (db after : Db) : Prop
  | none (disputes : after.disputes = db.disputes)
      (stays : ∀ dispute ∈ db.disputes, ∀ old, db.agreements.get dispute.agreementId = some old →
        DisputeFits dispute.status old.status → ∃ new, after.agreements.get dispute.agreementId = some new ∧
          DisputeFits dispute.status new.status)
  | opened (dispute : Dispute) (old new : Agreement) (fresh : db.disputes.get dispute.id = none)
      (status : dispute.status = .opened)
      (active : old.status ∈ [AgreementStatus.funded, .inProgress, .underReview, .proofSubmitted])
      (stored : db.agreements.get dispute.agreementId = some old)
      (moved : after.agreements.get dispute.agreementId = some new) (disputed : new.status = .disputed)
      (others : ∀ agreementId, agreementId ≠ dispute.agreementId →
        after.agreements.get agreementId = db.agreements.get agreementId)
      (disputes : ∀ row, row ∈ after.disputes ↔ row = dispute ∨ row ∈ db.disputes ∧ row.id ≠ dispute.id)
  | resolved (dispute : Dispute) (input : ResolveDisputeInput) (now : Nat)
      (stored : db.disputes.get dispute.id = some dispute) (unresolved : dispute.status.unresolved = true)
      (others : ∀ agreementId, agreementId ≠ dispute.agreementId →
        after.agreements.get agreementId = db.agreements.get agreementId)
      (kept : input.resolutionType ≠ .release →
        after.agreements.get dispute.agreementId = db.agreements.get dispute.agreementId)
      (approved : input.resolutionType = .release → ∃ new,
        after.agreements.get dispute.agreementId = some new ∧ new.status = .approved)
      (disputes : ∀ row, row ∈ after.disputes ↔
        row = dispute.resolvedBy input now ∨ row ∈ db.disputes ∧ row.id ≠ dispute.id)

/-- The agreements and the disputes that a lifecycle transaction wrote. -/
theorem to_lifecycle {dispute : Dispute} {agreements : List Agreement} {milestones : List Milestone}
    {appKey : PactAgent.Idempotency.Repository.AppKey}
    {row : Option (PactAgent.Idempotency.Repository.IdempotencyRow Reply)}
    (written : writes = .dispute dispute :: (agreements.map .agreement ++ milestones.map .milestone) ++
      [.idempotencyKey appKey row]) :
    Write.to .disputes writes = [.dispute dispute] ∧ Write.to .agreements writes = agreements.map .agreement := by
  rw [written]
  constructor
  · simp [Write.to_append, Write.relation, stored_agreements.to_other, stored_milestones.to_other]
  · simp [Write.to_append, Write.relation, stored_agreements.to_map, stored_milestones.to_other]

theorem commits_opened {req : RequestContext} {input : CreateDisputeInput}
    (own : Phase.Owned id (.running req (.createDispute input)))
    (commits : Commits (app settings) disputeClaims id (.running req (.createDispute input)) next writes db) :
    DisputeChange db (Storage.view writes db) := by
  have lawful := commits_chain own commits
  obtain ⟨start, reply, middle, last, appKey, row, outcome, follows, sameDb, written, _⟩ := running_commits commits
  obtain ⟨dispute, old, agreements, milestones, middleWrites, _, sameAgreement, _, status, active, committed, keys,
    disputed⟩ := createDisputeForApp_commits outcome
  rw [middleWrites] at written
  obtain ⟨toDisputes, toAgreements⟩ := to_lifecycle written
  obtain ⟨new, last', disputed⟩ := Option.map_eq_some_iff.mp disputed
  have newKey : new.id = dispute.agreementId :=
    (keys new (List.mem_of_getLast? last')).trans sameAgreement.symm
  have fresh : db.disputes.get dispute.id = none := by
    rw [written] at lawful
    cases found : db.disputes.get dispute.id with
    | none => rfl
    | some earlier =>
      have first := lawful.1
      simp only [Lawful, found] at first
      obtain ⟨resolution, now, _, same⟩ := first
      rw [same] at status
      cases type : resolution.resolutionType <;> simp [Dispute.resolvedBy, statusForResolutionType, type] at status
  refine .opened dispute old new fresh status active ?_ ?_ disputed ?_ ?_
  · rw [sameAgreement, ← sameDb]
    exact committed last follows
  · rw [← newKey]
    exact stored_agreements.get_last toAgreements last' db
  · intro agreementId different
    apply stored_agreements.get_of_ne toAgreements
    intro other member same
    exact different (same.symm.trans ((keys other member).trans sameAgreement.symm))
  · intro found
    exact stored_disputes.mem_put toDisputes

theorem commits_resolved {req : RequestContext} {disputeId : RowId} {input : ResolveDisputeInput}
    (commits : Commits (app settings) disputeClaims id (.running req (.resolveDispute disputeId input)) next writes
      db) :
    DisputeChange db (Storage.view writes db) := by
  obtain ⟨start, reply, middle, last, appKey, row, outcome, follows, sameDb, written, _⟩ := running_commits commits
  obtain ⟨dispute, now, agreements, milestones, middleWrites, unresolved, committed, keys, _, others, release⟩ :=
    resolveDisputeForApp_commits ⟨.refl, fun _ _ _ => .trans, fun _ _ _ last => last.steady⟩ outcome
  rw [middleWrites] at written
  obtain ⟨toDisputes, toAgreements⟩ := to_lifecycle written
  have stored : db.disputes.get disputeId = some dispute := sameDb ▸ committed last follows
  have key : dispute.id = disputeId := Table.key_of_get stored
  refine .resolved dispute input now (key ▸ stored) unresolved ?_ ?_ ?_ ?_
  · intro agreementId different
    apply stored_agreements.get_of_ne toAgreements
    intro other member same
    exact different (same.symm.trans (keys other member).1)
  · intro other
    rw [(others other).1] at toAgreements
    rw [stored_agreements.untouched toAgreements]
  · intro released
    obtain ⟨new, last'⟩ := Option.isSome_iff_exists.mp (List.getLast?_isSome.mpr (release released))
    obtain ⟨newKey, approved⟩ := keys new (List.mem_of_getLast? last')
    refine ⟨new, ?_, approved⟩
    rw [← newKey]
    exact stored_agreements.get_last toAgreements last' db
  · intro found
    exact stored_disputes.mem_put toDisputes

/-- No phase but the two dispute operations writes disputes or moves an agreement from
`disputed` to `approved`. -/
theorem commits_undisputed (own : phase.Owned id) (none : ¬phase.moves.disputes)
    (commits : Commits (app settings) disputeClaims id phase next writes db) :
    DisputeChange db (Storage.view writes db) := by
  refine .none (commits_disputes own commits none) ?_
  intro dispute _ old stored fits
  apply commits_agreement own commits _ stored fits
  intro old new fits valid moves
  apply fits.step valid
  rintro ⟨rfl, rfl⟩
  cases phase with
  | running req operation =>
    cases operation <;> simp [Phase.moves, Operation.moves, Moves.none, allocationMoves, Moves.agreementTo, submissionMoves,
      reviewMoves, disputeMoves, resolutionMoves] at moves none
  | _ => simp [Phase.moves, settlementMoves] at moves

theorem commits_disputeChange (own : phase.Owned id)
    (commits : Commits (app settings) disputeClaims id phase next writes db) :
    DisputeChange db (Storage.view writes db) := by
  cases phase with
  | running req operation =>
    cases operation with
    | createDispute input => exact commits_opened own commits
    | resolveDispute disputeId input => exact commits_resolved commits
    | _ => exact commits_undisputed own (fun disputes => disputes) commits
  | _ => exact commits_undisputed own (fun disputes => disputes) commits

end Commits

section Changes
variable {db after : Db}

theorem settled_agreement {agreementId : RowId} {agreement : Agreement} (steady : Steady db after)
    (stored : db.agreements.get agreementId = some agreement)
    (worker : agreement.status ∈ [AgreementStatus.approved, .releasePending, .released]) :
    ∃ new, after.agreements.get agreementId = some new ∧
      new.status ∈ [AgreementStatus.approved, .releasePending, .released] := by
  obtain ⟨new, found, _, leads⟩ := steady.agreements agreementId agreement stored trivial
  refine ⟨new, found, leads.closed ?_ worker⟩
  intro old next inside valid
  cases old <;> simp at inside <;> cases next <;> simp_all [canTransitionAgreement]

/-- Once an agreement is settled for the worker, it stays so. -/
theorem DisputeChange.settled (change : DisputeChange db after) (steady : Steady db after) {agreementId : RowId}
    (settled : Settled db agreementId) : Settled after agreementId := by
  obtain ⟨⟨agreement, stored, worker⟩, each⟩ := settled
  refine ⟨settled_agreement steady stored worker, ?_⟩
  cases change with
  | none disputes _ =>
    rw [disputes]
    exact each
  | opened dispute old new _ _ active found _ _ _ disputes =>
    intro row member same
    rcases (disputes row).mp member with rfl | ⟨before, _⟩
    · rw [same, stored] at found
      cases found
      cases status : agreement.status <;> simp [status] at active worker
    · exact each row before same
  | resolved dispute input now found unresolved _ _ _ disputes =>
    intro row member same
    rcases (disputes row).mp member with rfl | ⟨before, _⟩
    · have resolved := each dispute (Table.mem_of_get found) same
      rw [resolved] at unresolved
      cases unresolved
    · exact each row before same

theorem DisputeFits.of_resolvedBy {dispute : Dispute} {input : ResolveDisputeInput} {now : Nat}
    {agreement : AgreementStatus} (unresolved : dispute.status.unresolved = true)
    (fits : DisputeFits dispute.status agreement) (other : input.resolutionType ≠ .release) :
    DisputeFits (dispute.resolvedBy input now).status agreement := by
  have inside : agreement ∈ [AgreementStatus.disputed, .released, .refunded] := by
    cases status : dispute.status <;> simp_all [DisputeFits, DisputeStatus.unresolved]
  cases type : input.resolutionType <;>
    simp_all [Dispute.resolvedBy, statusForResolutionType, DisputeFits]

theorem DisputeChange.fits (change : DisputeChange db after) (bind : DisputesBind db) :
    ∀ dispute ∈ after.disputes, ∃ agreement, after.agreements.get dispute.agreementId = some agreement ∧
      DisputeFits dispute.status agreement.status := by
  intro row member
  cases change with
  | none disputes stays =>
    rw [disputes] at member
    obtain ⟨old, stored, fits⟩ := bind.fits row member
    exact stays row member old stored fits
  | opened dispute old new _ status active found moved disputed others disputes =>
    rcases (disputes row).mp member with rfl | ⟨before, _⟩
    · exact ⟨new, moved, by simp [status, disputed, DisputeFits]⟩
    · obtain ⟨agreement, stored, fits⟩ := bind.fits row before
      have different : row.agreementId ≠ dispute.agreementId := by
        intro same
        rw [same, found] at stored
        cases stored
        cases disputeStatus : row.status <;> cases oldStatus : old.status <;> simp_all [DisputeFits]
      exact ⟨agreement, (others _ different).trans stored, fits⟩
  | resolved dispute input now found unresolved others kept approved disputes =>
    have dispute_mem : dispute ∈ db.disputes := Table.mem_of_get found
    rcases (disputes row).mp member with rfl | ⟨before, different⟩
    · by_cases release : input.resolutionType = .release
      · obtain ⟨new, moved, status⟩ := approved release
        exact ⟨new, moved, by simp [Dispute.resolvedBy, release, statusForResolutionType, DisputeFits, status]⟩
      · obtain ⟨agreement, stored, fits⟩ := bind.fits dispute dispute_mem
        exact ⟨agreement, (kept release).trans stored, fits.of_resolvedBy unresolved release⟩
    · obtain ⟨agreement, stored, fits⟩ := bind.fits row before
      have elsewhere : row.agreementId ≠ dispute.agreementId := by
        intro same
        exact different (congrArg Dispute.id (bind.single row before dispute dispute_mem same))
      exact ⟨agreement, (others _ elsewhere).trans stored, fits⟩

theorem DisputeChange.single (change : DisputeChange db after) (bind : DisputesBind db) :
    ∀ first ∈ after.disputes, ∀ second ∈ after.disputes, first.agreementId = second.agreementId →
      first = second := by
  cases change with
  | none disputes _ =>
    rw [disputes]
    exact bind.single
  | opened dispute old new _ status active found _ _ _ disputes =>
    -- a dispute that was there would have moved the agreement out of the active statuses
    have alone : ∀ row ∈ db.disputes, row.agreementId ≠ dispute.agreementId := by
      intro row before same
      obtain ⟨agreement, stored, fits⟩ := bind.fits row before
      rw [same, found] at stored
      cases stored
      cases disputeStatus : row.status <;> cases oldStatus : old.status <;> simp_all [DisputeFits]
    intro first firstIn second secondIn same
    rcases (disputes first).mp firstIn with rfl | ⟨firstBefore, _⟩
    · rcases (disputes second).mp secondIn with rfl | ⟨secondBefore, _⟩
      · rfl
      · exact absurd same.symm (alone second secondBefore)
    · rcases (disputes second).mp secondIn with rfl | ⟨secondBefore, _⟩
      · exact absurd same (alone first firstBefore)
      · exact bind.single first firstBefore second secondBefore same
  | resolved dispute input now found _ _ _ _ disputes =>
    have dispute_mem : dispute ∈ db.disputes := Table.mem_of_get found
    intro first firstIn second secondIn same
    rcases (disputes first).mp firstIn with rfl | ⟨firstBefore, firstNe⟩
    · rcases (disputes second).mp secondIn with rfl | ⟨secondBefore, secondNe⟩
      · rfl
      · have equal := bind.single second secondBefore dispute dispute_mem same.symm
        exact absurd (congrArg Dispute.id equal) secondNe
    · rcases (disputes second).mp secondIn with rfl | ⟨secondBefore, _⟩
      · have equal := bind.single first firstBefore dispute dispute_mem same
        exact absurd (congrArg Dispute.id equal) firstNe
      · exact bind.single first firstBefore second secondBefore same

end Changes

section Claims
variable {settings : Settings} {id : Nat} {phase next : Phase} {writes : List Write} {db : Db}

/-- Escrows of stored releases, and what they are settled for, last. -/
theorem paid_old (bind : DisputesBind db) {after : Db} (last : SettledLast db after) {row old : Transaction}
    (stored : old ∈ db.transactions) (terms : row.terms = old.terms) (release : row.type = .release) :
    ∃ escrow, row.escrowId = some escrow.id ∧ after.escrows.get escrow.id = some escrow ∧
      escrow.status ≠ .notCreated ∧ Settled after escrow.agreementId := by
  have type : row.type = old.type := congrArg TransactionTerms.type terms
  have sameEscrow : row.escrowId = old.escrowId := congrArg TransactionTerms.escrowId terms
  obtain ⟨escrow, belongs, there, created, worker⟩ := bind.paid old stored (type ▸ release)
  obtain ⟨new, found, sameTerms, stays⟩ := last.steady.escrows escrow.id escrow there created
  have key : new.id = escrow.id := Table.key_of_get found
  have agreement : new.agreementId = escrow.agreementId :=
    congrArg (fun terms => terms.scope.agreementId) sameTerms
  refine ⟨new, by rw [sameEscrow, belongs, key], by rw [key]; exact found, stays.resolve_left created, ?_⟩
  rw [agreement]
  exact last.settled _ worker

/-- What a release has seen settles its agreement for the worker. -/
theorem settled_of_releaseSeen {escrow : Escrow}
    (seen : ReleaseSeen DisputesBind SettledLast escrow db) :
    Settled db escrow.agreementId := by
  rcases seen with ⟨agreement, approved, ⟨earlier, bind, kept, stored⟩, _⟩ |
    ⟨earlier, bind, kept, dispute, member, same, _, resolved⟩
  · exact kept.settled _ (settled_of_approved bind stored approved)
  · rw [← same]
    exact kept.settled _ (settled_of_resolvedRelease bind member resolved)

theorem commits_settledLast (own : phase.Owned id)
    (commits : Commits (app settings) disputeClaims id phase next writes db) :
    SettledLast db (Storage.view writes db) := by
  have steady := commits_steady own commits
  exact ⟨steady, fun _ => (commits_disputeChange own commits).settled steady⟩

theorem settledLast_keeps : Keeps (disputeClaims.rely id phase) SettledLast :=
  ⟨.refl, .trans, fun _ _ _ last => last⟩

theorem commits_paid (own : phase.Owned id) (bind : DisputesBind db)
    (commits : Commits (app settings) disputeClaims id phase next writes db) :
    ∀ row ∈ (Storage.view writes db).transactions, row.type = .release → ∃ escrow,
      row.escrowId = some escrow.id ∧ (Storage.view writes db).escrows.get escrow.id = some escrow ∧
        escrow.status ≠ .notCreated ∧ Settled (Storage.view writes db) escrow.agreementId := by
  have last := commits_settledLast own commits
  intro row member release
  rcases commits_transactions own commits member with ⟨old, oldIn, _, terms⟩ | inserted
  · exact paid_old bind last oldIn terms release
  · cases phase with
    | settlementReserving req operation escrowId =>
      have type : settlementType operation = .release := by
        rw [release] at inserted
        exact (List.mem_singleton.mp inserted).symm
      cases operation with
      | refund => cases type
      | release =>
      obtain ⟨seen, old, appKey, keyRow, written, _, _, stored, _, seenFunded, ⟨earlier, _, kept, seenStored⟩, guard,
        _⟩ := reserving_commits settledLast_keeps commits
      -- the escrow that was moved is the one that the guard looked at
      obtain ⟨same, found, terms, _⟩ := kept.steady.escrows escrowId seen seenStored (by simp [seenFunded])
      rw [stored] at found
      cases found
      have agreement : old.agreementId = seen.agreementId :=
        congrArg (fun terms => terms.scope.agreementId) terms
      have worker : Settled db old.agreementId := by
        rw [agreement]
        exact settled_of_releaseSeen guard
      have toTransactions : Write.to .transactions writes = [.transaction (newTransaction ⟨req.request, 0⟩
          { old with status := .releasePending } .release)] := by
        rw [written]
        simp [Write.relation, settlementPendingStatus, settlementType]
      have toEscrows : Write.to .escrows writes = [{ old with status := .releasePending }].map .escrow := by
        rw [written]
        simp [Write.relation, settlementPendingStatus]
      rcases (stored_transactions.mem_put toTransactions).mp member with rfl | ⟨before, _⟩
      · exact ⟨{ old with status := .releasePending }, rfl, stored_escrows.get_last toEscrows rfl db, by simp,
          last.settled _ worker⟩
      · exact paid_old bind last before rfl release
    | _ =>
      rw [release] at inserted
      revert inserted
      simp [Phase.effect, lockEffect, creationEffect, fundingEffect, failureEffect, settlementEffect,
        reconciliationEffect, Effect.none]

theorem disputeClaims_preserved : Preserved (app settings) disputeClaims (fun _ _ => True) where
  arrive _ request _ _ := owned_arrival request
  caught _ _ _ _ error own := owned_caught own error
  outside _ _ _ _ _ _ _ _ _ own taken := ⟨owned_outside own taken, fun _ _ _ other => other⟩
  commit _ _ _ _ _ _ _ bind _ own commits := by
    have change := commits_disputeChange own commits
    have last := commits_settledLast own commits
    exact ⟨⟨change.fits bind, change.single bind, commits_paid own bind commits⟩, commits_owned own commits,
      fun _ _ _ _ _ known => ⟨known, fun _ _ => last⟩⟩

end Claims

section Runs
variable {settings : Settings} {actions : List Action} {state : State}

theorem disputes_sound (reached : run (step settings) initial actions = some state) :
    Sound (app settings) disputeClaims state := by
  have empty : DisputesBind Db.empty :=
    ⟨fun _ member => absurd member (Table.not_mem_empty _), fun _ member => absurd member (Table.not_mem_empty _),
      fun _ member => absurd member (Table.not_mem_empty _)⟩
  exact Sound.always disputeClaims_preserved empty actions reached

/-- Each agreement has one dispute at most, which is not resolved for the worker while
the agreement is disputed; and after a resolution against the worker no escrow of the
agreement has a release, in any later state. -/
theorem resolution_forbids_release (reached : run (step settings) initial actions = some state) :
    (∀ first ∈ state.db.disputes, ∀ second ∈ state.db.disputes, first.agreementId = second.agreementId →
      first = second) ∧
    (∀ dispute ∈ state.db.disputes, ∀ agreement, state.db.agreements.get dispute.agreementId = some agreement →
      agreement.status = .disputed → dispute.status ≠ .resolvedRelease) ∧
    ∀ dispute ∈ state.db.disputes, (dispute.status = .resolvedRefund ∨ dispute.status = .resolvedSplit) →
      ∀ more later, run (step settings) state more = some later →
        ∀ row ∈ later.db.transactions, row.type = .release → ∀ escrow ∈ later.db.escrows,
          row.escrowId = some escrow.id → escrow.agreementId ≠ dispute.agreementId := by
  have bind := (disputes_sound reached).holds
  refine ⟨bind.single, ?_, ?_⟩
  · intro dispute member agreement stored disputed resolved
    obtain ⟨found, there, fits⟩ := bind.fits dispute member
    rw [stored] at there
    cases there
    rw [resolved, disputed] at fits
    simp [DisputeFits] at fits
  · intro dispute member against more later onwards row rowIn release escrow escrowIn belongs same
    have resolved : dispute.status.unresolved = false := by
      cases against with
      | inl refund => rw [refund]; rfl
      | inr split => rw [split]; rfl
    -- the dispute is still there, and every release is under an agreement without such a dispute
    obtain ⟨kept, there, _, _, _, final⟩ :=
      (steady_run reached onwards).disputes dispute.id dispute (Table.get_of_mem member) trivial
    rw [final resolved] at there
    have bound := (disputes_sound ((run_append reached).trans onwards)).holds
    obtain ⟨paid, belongsToo, stored, _, _, worker⟩ := bound.paid row rowIn release
    have key : escrow.id = paid.id := Option.some.inj (belongs.symm.trans belongsToo)
    have equal : escrow = paid := Table.eq_of_key_eq escrowIn (Table.mem_of_get stored) key
    have released := worker dispute (Table.mem_of_get there) (equal ▸ same.symm)
    rw [released] at against
    simp at against

end Runs

section Scenario

/-- An agreement with one milestone whose escrow is funded on the mock rail. -/
def milestoneRun : List Action :=
  [operate 0 (.createAgreement ⟨none, "5", "CKB"⟩) 2, operate 1 (.createMilestone ⟨0, 0⟩ ⟨none, "5", none, none⟩) 6,
    operate 2 (.acceptAgreement ⟨0, 0⟩) 6, operate 3 (.moveAgreementToFundingRequired ⟨0, 0⟩) 4,
    openMock 4 ⟨0, 0⟩ (some ⟨1, 0⟩) "5", fundMock 5 ⟨4, 0⟩ 12].flatten

/-- Its dispute is opened, and resolved by so many statements. -/
def disputeRun (input : ResolveDisputeInput) (statements : Nat) : List Action :=
  [milestoneRun, operate 6 (.createDispute ⟨⟨0, 0⟩, ⟨1, 0⟩⟩) 9,
    operate 7 (.resolveDispute ⟨6, 0⟩ input) statements].flatten

def disputeStatuses (state : State) : List DisputeStatus := state.db.disputes.rows.map (·.status)

/-- After a resolution for the client no release of the agreement's escrows follows. -/
theorem disputeRun_forbids_release : ∃ final dispute,
    run (step sandbox) initial (disputeRun ⟨.refund, none, none⟩ 6) = some final ∧ dispute ∈ final.db.disputes ∧
    dispute.status = .resolvedRefund ∧ ∀ more later, run (step sandbox) final more = some later →
      ∀ row ∈ later.db.transactions, row.type = .release → ∀ escrow ∈ later.db.escrows,
        row.escrowId = some escrow.id → escrow.agreementId ≠ dispute.agreementId := by
  have observed : (run (step sandbox) initial (disputeRun ⟨.refund, none, none⟩ 6)).map disputeStatuses =
      some [.resolvedRefund] := by
    decide +kernel
  obtain ⟨final, reached, statuses⟩ := Option.map_eq_some_iff.mp observed
  obtain ⟨dispute, listed, status⟩ : ∃ dispute ∈ final.db.disputes.rows, dispute.status = .resolvedRefund := by
    have listed : DisputeStatus.resolvedRefund ∈ final.db.disputes.rows.map (·.status) := by
      rw [show final.db.disputes.rows.map (·.status) = _ from statuses]
      exact List.mem_singleton.mpr rfl
    exact List.mem_map.mp listed
  exact ⟨final, dispute, reached, listed, status,
    (resolution_forbids_release reached).2.2 dispute listed (.inl status)⟩

end Scenario

end PactAgent.Server
