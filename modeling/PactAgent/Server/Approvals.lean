import PactAgent.Server.Disputes
import PactAgent.Server.Ground

/-! No release without approval. A milestone becomes approved in the transaction that
accepts its proof or resolves its dispute for the worker; both facts last, and a release
is reserved only on one of them. -/

namespace PactAgent.Server
open PactAgent.Common PactAgent.Foundation PactAgent.Lifecycle PactAgent.Store PactAgent.Escrow
open PactAgent.Foundation.Execution PactAgent.Foundation.ReadCommitted
open PactAgent.Rail.Builder

/-- An accepted proof with an approving review, or a dispute resolved for the worker. -/
def Approved (db : Db) (milestoneId : RowId) : Prop :=
  (∃ proof ∈ db.proofs, proof.milestoneId = milestoneId ∧ proof.status = .accepted ∧
      ∃ review ∈ db.reviews, review.proofSubmissionId = proof.id ∧ review.decision = .approved) ∨
    ∃ dispute ∈ db.disputes, dispute.milestoneId = milestoneId ∧ dispute.status = .resolvedRelease

theorem accepted_stays {status : ProofStatus} (leads : Leads proofMoves .accepted status) : status = .accepted := by
  have closed : ∀ old new, old = .accepted → proofMoves old new = true → new = .accepted := by
    rintro old new rfl valid
    cases new <;> simp [proofMoves] at valid
  exact leads.closed closed rfl

/-- Approval lasts. -/
theorem Approved.later {before after : Db} {milestoneId : RowId} (approved : Approved before milestoneId)
    (steady : Steady before after) : Approved after milestoneId := by
  rcases approved with ⟨proof, member, same, accepted, review, reviewIn, of, decision⟩ |
    ⟨dispute, member, same, resolved⟩
  · obtain ⟨new, found, status, rfl, leads⟩ := steady.proofs proof.id proof (Table.get_of_mem member) trivial
    obtain ⟨kept, reviewFound, rfl⟩ := steady.reviews review.id review (Table.get_of_mem reviewIn) trivial
    rw [accepted] at leads
    exact .inl ⟨_, Table.mem_of_get found, same, accepted_stays leads, review, Table.mem_of_get reviewFound, of,
      decision⟩
  · obtain ⟨new, found, _, _, _, final⟩ := steady.disputes dispute.id dispute (Table.get_of_mem member) trivial
    have equal := final (by rw [resolved]; rfl)
    rw [equal] at found
    exact .inr ⟨dispute, Table.mem_of_get found, same, resolved⟩

/-- Every approved milestone has its approval, and so has every milestone whose escrow
has a release. -/
structure ReleasesApproved (db : Db) : Prop where
  milestones : ∀ milestone ∈ db.milestones, milestone.status = .approved → Approved db milestone.id
  releases : ∀ row ∈ db.transactions, row.type = .release → ∀ escrow, Backs db row escrow →
    ∀ milestoneId, escrow.milestoneId = some milestoneId → Approved db milestoneId

def approvals : Assertions Db Query Phase Env :=
  ground.extend ReleasesApproved (fun _ _ _ _ => True) (fun _ _ _ => True) (fun _ _ => trivial)
    (fun _ _ _ _ _ _ => trivial)

section Commits
variable {settings : Settings} {id : Nat} {phase next : Phase} {writes : List Write} {db : Db}

theorem approvals_keeps : Keeps (approvals.rely id phase) Steady :=
  ⟨.refl, fun _ _ _ => .trans, fun _ _ _ both => both.1⟩

/-- An approving review leaves its milestone with an approval. -/
theorem commits_reviewed {req : RequestContext} {proofId : RowId}
    (own : Phase.Owned id (.running req (.reviewProof proofId .approved)))
    (commits : Commits (app settings) approvals id (.running req (.reviewProof proofId .approved)) next writes db) :
    ∃ milestoneId, Approved (Storage.view writes db) milestoneId ∧ ∀ other, other ≠ milestoneId →
      (Storage.view writes db).milestones.get other = db.milestones.get other := by
  have steady := commits_steady own commits
  obtain ⟨start, reply, middle, last, appKey, row, outcome, _, _, written, onwards, _⟩ := running_commits commits
  obtain ⟨proof, accepted, review, proofs, agreements, milestones, seen, middleWrites, key, status, _, of, decision,
    milestoneKeys, stored, kept⟩ := reviewProofForApp_commits outcome
  rw [middleWrites] at written
  have toProofs : Write.to .proofs writes = (proofs ++ [accepted]).map .proof := by
    rw [written]
    simp [Write.to_append, Write.relation, stored_proofs.to_map, stored_agreements.to_other,
      stored_milestones.to_other]
  have toReviews : Write.to .reviews writes = [review].map .review := by
    rw [written]
    simp [Write.to_append, Write.relation, stored_proofs.to_other, stored_agreements.to_other,
      stored_milestones.to_other]
  have toMilestones : Write.to .milestones writes = milestones.map .milestone := by
    rw [written]
    simp [Write.to_append, Write.relation, stored_proofs.to_other, stored_agreements.to_other,
      stored_milestones.to_map]
  have found : (Storage.view writes db).proofs.get proofId = some accepted := by
    rw [← key]
    exact stored_proofs.get_last toProofs (List.getLast?_append_of_ne_nil _ (by simp)) db
  have reviewFound := stored_reviews.get_last toReviews rfl db
  -- the proof that was accepted is the one that was read
  have toEnd : Steady seen.db (Storage.view writes db) :=
    ((kept Steady approvals_keeps).trans (onwards Steady approvals_keeps)).trans steady
  obtain ⟨same, there, moved, follows, _⟩ := toEnd.proofs proofId proof stored trivial
  rw [found] at there
  have milestone : accepted.milestoneId = proof.milestoneId := by
    rw [Option.some.inj there, follows]
  refine ⟨proof.milestoneId, .inl ⟨accepted, Table.mem_of_get found, milestone, status, review,
    Table.mem_of_get reviewFound, by rw [of, key], decision⟩, ?_⟩
  intro other different
  apply stored_milestones.get_of_ne toMilestones
  intro row member same
  exact different (same.symm.trans (milestoneKeys row member))

/-- A resolution for the worker leaves its milestone with an approval. -/
theorem commits_resolvedRelease {req : RequestContext} {disputeId : RowId} {input : ResolveDisputeInput}
    (release : input.resolutionType = .release)
    (commits : Commits (app settings) approvals id (.running req (.resolveDispute disputeId input)) next writes db) :
    ∃ milestoneId, Approved (Storage.view writes db) milestoneId ∧ ∀ other, other ≠ milestoneId →
      (Storage.view writes db).milestones.get other = db.milestones.get other := by
  obtain ⟨start, reply, middle, last, appKey, row, outcome, _, _, written, _⟩ := running_commits commits
  obtain ⟨dispute, now, agreements, milestones, middleWrites, _, _, _, milestoneKeys, _, _⟩ :=
    resolveDisputeForApp_commits approvals_keeps outcome
  rw [middleWrites] at written
  have toDisputes : Write.to .disputes writes = [dispute.resolvedBy input now].map .dispute := by
    rw [written]
    simp [Write.to_append, Write.relation, stored_agreements.to_other, stored_milestones.to_other]
  have toMilestones : Write.to .milestones writes = milestones.map .milestone := by
    rw [written]
    simp [Write.to_append, Write.relation, stored_agreements.to_other, stored_milestones.to_map]
  refine ⟨dispute.milestoneId, .inr ⟨dispute.resolvedBy input now,
    Table.mem_of_get (stored_disputes.get_last toDisputes rfl db), rfl, ?_⟩, ?_⟩
  · simp [Dispute.resolvedBy, release, statusForResolutionType]
  · intro other different
    apply stored_milestones.get_of_ne toMilestones
    intro row member same
    exact different (same.symm.trans (milestoneKeys row member))

/-- A milestone that a commit leaves approved has its approval. -/
theorem commits_milestones (own : phase.Owned id) (holds : ReleasesApproved db)
    (commits : Commits (app settings) approvals id phase next writes db) :
    ∀ milestone ∈ (Storage.view writes db).milestones, milestone.status = .approved →
      Approved (Storage.view writes db) milestone.id := by
  have steady := commits_steady own commits
  intro milestone member status
  have earlier : ∀ old, db.milestones.get milestone.id = some old → old.status = .approved →
      Approved (Storage.view writes db) milestone.id := by
    intro old stored approved
    have key : old.id = milestone.id := Table.key_of_get stored
    have evidence := holds.milestones old (Table.mem_of_get stored) approved
    exact key ▸ evidence.later steady
  have moved : (∃ milestoneId, Approved (Storage.view writes db) milestoneId ∧ ∀ other, other ≠ milestoneId →
      (Storage.view writes db).milestones.get other = db.milestones.get other) →
      Approved (Storage.view writes db) milestone.id := by
    rintro ⟨milestoneId, evidence, others⟩
    by_cases same : milestone.id = milestoneId
    · rw [same]
      exact evidence
    · exact earlier milestone ((others _ same).symm.trans (Table.get_of_mem member)) status
  have others : (∀ old, ¬phase.moves.milestone old .approved) →
      Approved (Storage.view writes db) milestone.id := by
    intro none
    have closed : ∀ old new, phase.moves.milestone old new → new = .approved → old = .approved := by
      rintro old new moves rfl
      exact absurd moves (none old)
    obtain ⟨old, stored, approved⟩ := milestone_inherits (by simp) closed
      ((commits_acts own commits).mono fun _ _ acts => ⟨acts.lawful, acts.milestone⟩) (Table.get_of_mem member) status
    exact earlier old stored approved
  cases phase with
  | running req operation =>
    cases operation with
    | reviewProof proofId decision =>
      cases decision with
      | approved => exact moved (commits_reviewed own commits)
      | _ => exact others (by simp [Phase.moves, Operation.moves, reviewMoves])
    | resolveDispute disputeId input =>
      by_cases release : input.resolutionType = .release
      · exact moved (commits_resolvedRelease release commits)
      · exact others (by simp [Phase.moves, Operation.moves, resolutionMoves, release])
    | _ => exact others (by simp [Phase.moves, Operation.moves, Moves.none, allocationMoves, Moves.agreementTo, submissionMoves,
        disputeMoves])
  | _ => exact others (by simp [Phase.moves, settlementMoves])

theorem approved_of_releaseSeen {escrow : Escrow} {milestoneId : RowId}
    (seen : ReleaseSeen approvals.holds Steady escrow db) (scope : escrow.milestoneId = some milestoneId) :
    Approved db milestoneId := by
  rcases seen with ⟨_, _, _, milestones⟩ | ⟨earlier, _, steady, dispute, member, _, same, resolved⟩
  · obtain ⟨earlier, ⟨_, holds⟩, steady, milestone, stored, approved⟩ := milestones milestoneId scope
    have key : milestone.id = milestoneId := Table.key_of_get stored
    have evidence := holds.milestones milestone (Table.mem_of_get stored) approved
    exact key ▸ evidence.later steady
  · have evidence : Approved earlier milestoneId := .inr ⟨dispute, member, same milestoneId scope, resolved⟩
    exact evidence.later steady

/-- A release after a commit has the approval that its reservation has seen. -/
theorem commits_releases (own : phase.Owned id) (base : Ground db) (holds : ReleasesApproved db)
    (commits : Commits (app settings) approvals id phase next writes db) :
    ∀ row ∈ (Storage.view writes db).transactions, row.type = .release → ∀ escrow,
      Backs (Storage.view writes db) row escrow → ∀ milestoneId, escrow.milestoneId = some milestoneId →
        Approved (Storage.view writes db) milestoneId := by
  have steady := commits_steady own commits
  intro row member release escrow backs milestoneId scope
  rcases commits_settlement own commits member (by simp [release]) with ⟨old, oldIn, _, terms⟩ |
    ⟨req, operation, old, rfl, stored, funded, moved, rfl⟩
  · have type : row.type = old.type := congrArg TransactionTerms.type terms
    obtain ⟨before, backed⟩ := base.backed old oldIn (by simp [← type, release])
    obtain ⟨new, newBacks, newTerms⟩ := backed.later steady terms
    have key : new.id = escrow.id := Option.some.inj (newBacks.belongs.symm.trans backs.belongs)
    have equal : new = escrow := by
      have found := newBacks.stored
      rw [key, backs.stored] at found
      exact (Option.some.inj found).symm
    have sameScope : new.milestoneId = before.milestoneId :=
      congrArg (fun terms => terms.scope.milestoneId) newTerms
    rw [← equal, sameScope] at scope
    exact (holds.releases old oldIn (type ▸ release) before backed milestoneId scope).later steady
  · cases operation with
    | refund => cases release
    | release =>
    obtain ⟨seen, _, _, _, _, _, _, _, _, seenFunded, ⟨earlier, _, kept, seenStored⟩, guard, _⟩ :=
      reserving_commits approvals_keeps commits
    obtain ⟨_, found, sameTerms, _⟩ := kept.escrows old.id seen seenStored (by simp [seenFunded])
    rw [stored] at found
    cases found
    have key : escrow.id = old.id := (Option.some.inj backs.belongs).symm
    have equal : escrow = { old with status := settlementPendingStatus .release } := by
      have there := backs.stored
      rw [key, moved] at there
      exact (Option.some.inj there).symm
    have sameScope : old.milestoneId = seen.milestoneId :=
      congrArg (fun terms => terms.scope.milestoneId) sameTerms
    rw [equal] at scope
    exact (approved_of_releaseSeen guard (sameScope ▸ scope)).later steady

theorem approvals_preserved : Preserved (app settings) approvals (fun _ _ => True) := by
  refine ground_preserved.extend (fun _ _ _ => trivial) (fun _ _ _ _ => trivial) (fun _ _ _ _ _ _ => trivial)
    (fun _ _ _ _ _ _ _ _ _ _ _ _ _ => ⟨trivial, fun _ _ _ _ => trivial⟩) ?_
  intro state id phase next log writes _ base holds _ known _ commits _
  exact ⟨⟨commits_milestones known.1 holds commits, commits_releases known.1 base holds commits⟩, trivial,
    fun _ _ _ _ _ _ _ => ⟨trivial, trivial⟩⟩

end Commits

/-- Every escrow of a milestone that has a release, and every one on its way to a
release, belongs to a milestone that was approved. -/
theorem release_approved {settings : Settings} {actions : List Action} {state : State}
    (reached : run (step settings) initial actions = some state) :
    ∀ escrow ∈ state.db.escrows, ∀ milestoneId, escrow.milestoneId = some milestoneId →
      ((∃ row ∈ state.db.transactions, row.type = .release ∧ row.escrowId = some escrow.id) ∨
        escrow.status = .releasePending ∨ escrow.status = .released) →
      Approved state.db milestoneId := by
  have empty : ReleasesApproved Db.empty :=
    ⟨fun _ member => absurd member (Table.not_mem_empty _), fun _ member => absurd member (Table.not_mem_empty _)⟩
  have sound : Sound (app settings) approvals state :=
    Sound.always approvals_preserved ⟨ground_empty, empty⟩ actions reached
  obtain ⟨base, holds⟩ := sound.holds
  intro escrow member milestoneId scope cause
  have row : ∃ row ∈ state.db.transactions, row.type = .release ∧ row.escrowId = some escrow.id := by
    rcases cause with row | pending | released
    · exact row
    · exact base.reserved escrow member .release (.inl pending)
    · exact base.reserved escrow member .release (.inr released)
  obtain ⟨row, rowIn, release, belongs⟩ := row
  obtain ⟨backing, backs⟩ := base.backed row rowIn (by simp [release])
  have key : backing.id = escrow.id := Option.some.inj (backs.belongs.symm.trans belongs)
  have equal : backing = escrow := Table.eq_of_key_eq (Table.mem_of_get backs.stored) member key
  exact holds.releases row rowIn release backing backs milestoneId (equal ▸ scope)

section Scenario

/-- The milestone of `milestoneRun` with an approved proof. -/
def approvedRun : List Action :=
  [milestoneRun, operate 6 (.createProof ⟨⟨0, 0⟩, ⟨1, 0⟩⟩) 12, operate 7 (.reviewProof ⟨6, 0⟩ .approved) 17].flatten

/-- The release of its escrow, reserved and ended on the mock rail. -/
def releasedRun : List Action :=
  [approvedRun, reserveMock 8 .release ⟨4, 0⟩ 7, .outside 8 .localRail :: transact 8 14].flatten

def escrowStatuses (state : State) : List (Option RowId × EscrowStatus) :=
  state.db.escrows.rows.map fun escrow => (escrow.milestoneId, escrow.status)

theorem releasedRun_approved : ∃ final, run (step sandbox) initial releasedRun = some final ∧
    escrowStatuses final = [(some ⟨1, 0⟩, .released)] ∧ Approved final.db ⟨1, 0⟩ := by
  have observed : (run (step sandbox) initial releasedRun).map escrowStatuses =
      some [(some ⟨1, 0⟩, .released)] := by
    decide +kernel
  obtain ⟨final, reached, statuses⟩ := Option.map_eq_some_iff.mp observed
  have listed : (some ⟨1, 0⟩, EscrowStatus.released) ∈
      final.db.escrows.rows.map fun escrow => (escrow.milestoneId, escrow.status) := by
    rw [show final.db.escrows.rows.map _ = _ from statuses]
    exact List.mem_singleton.mpr rfl
  obtain ⟨escrow, member, is⟩ := List.mem_map.mp listed
  obtain ⟨scope, released⟩ := Prod.mk.inj is
  exact ⟨final, reached, statuses, release_approved reached escrow member ⟨1, 0⟩ scope (.inr (.inr released))⟩

end Scenario

end PactAgent.Server
