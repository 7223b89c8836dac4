import PactAgent.Lifecycle.Services
import PactAgent.Store.Steady
import PactAgent.Store.Swaps

/-! What the dispute and review transactions have read and written when they commit. -/

namespace PactAgent.Lifecycle
open PactAgent.Foundation PactAgent.Common PactAgent.Common.Amounts PactAgent.Store

variable {rely : List Query → Db → Db → Prop} {good : Db → Prop} {kept : Db → Db → Prop}
variable {before after final : Point Db Write Query} {appId : String} {id : RowId}

section Parts

/-- The rows of a path, one for each status, written over the row that was committed. -/
structure Advanced {Row Status : Type} [Keyed Row RowId] (table : Db → Foundation.Table Row)
    (write : Row → Write) (status : Row → Status) (before after : Point Db Write Query) (id : RowId)
    (path : List Status) (old : Row) (rows : List Row) : Prop where
  writes : after.writes = before.writes ++ rows.map write
  keys : ∀ row ∈ rows, Keyed.key row = id
  statuses : rows.map status = path
  committed : ∀ final, Follows after final → (table final.db).get id = some old

theorem advanceAgreement_rows {current : AgreementStatus} {path : List AgreementStatus}
    (outcome : Outcome rely good (advanceAgreement appId id current path) before () after) :
    ∃ rows : List Agreement, after.writes = before.writes ++ rows.map .agreement ∧
      (∀ row ∈ rows, row.id = id) ∧ rows.map Agreement.status = path := by
  induction path generalizing before current with
  | nil =>
    obtain ⟨_, rfl⟩ := outcome
    exact ⟨[], by simp, by simp, rfl⟩
  | cons next path ih =>
    obtain ⟨_, _, rest⟩ := outcome_check outcome
    obtain ⟨_, middle, moved, rest⟩ := outcome_bind.mp rest
    obtain ⟨row, now, _, _, key, writes, _⟩ := agreement_moved moved
    obtain ⟨rows, further, keys, statuses⟩ := ih rest
    refine ⟨row.transition next now :: rows, ?_, ?_, ?_⟩
    · rw [further, writes, List.append_assoc]
      rfl
    · simpa [key] using keys
    · simp [statuses]

theorem advanceAgreement_moved {current next : AgreementStatus} {path : List AgreementStatus}
    (untouched : Write.to .agreements before.writes = [])
    (outcome : Outcome rely good (advanceAgreement appId id current (next :: path)) before () after) :
    ∃ old rows, old.status = current ∧ old.appId = appId ∧
      Advanced Db.agreements .agreement Agreement.status before after id (next :: path) old rows := by
  obtain ⟨_, _, rest⟩ := outcome_check outcome
  obtain ⟨_, middle, moved, rest⟩ := outcome_bind.mp rest
  obtain ⟨old, now, status, owner, _, _, committed⟩ := agreement_moved moved
  obtain ⟨rows, writes, keys, statuses⟩ := advanceAgreement_rows outcome
  exact ⟨old, rows, status, owner, writes, keys, statuses, fun final follows =>
    committed untouched final (rest.follows.trans follows)⟩

theorem advanceMilestone_rows {current : MilestoneStatus} {path : List MilestoneStatus}
    (outcome : Outcome rely good (advanceMilestone appId id current path) before () after) :
    ∃ rows : List Milestone, after.writes = before.writes ++ rows.map .milestone ∧
      (∀ row ∈ rows, row.id = id) ∧ rows.map Milestone.status = path := by
  induction path generalizing before current with
  | nil =>
    obtain ⟨_, rfl⟩ := outcome
    exact ⟨[], by simp, by simp, rfl⟩
  | cons next path ih =>
    obtain ⟨_, _, rest⟩ := outcome_check outcome
    obtain ⟨_, middle, moved, rest⟩ := outcome_bind.mp rest
    obtain ⟨row, _, _, key, writes, _⟩ := milestone_moved moved
    obtain ⟨rows, further, keys, statuses⟩ := ih rest
    refine ⟨{ row with status := next } :: rows, ?_, ?_, ?_⟩
    · rw [further, writes, List.append_assoc]
      rfl
    · simpa [key] using keys
    · simp [statuses]

theorem outcome_required {α β : Type} {message code : String} {value : Option α} {rest : α → Tx β} {result : β}
    (outcome : Outcome rely good (required message code value >>= rest) before result after) :
    ∃ found, value = some found ∧ Outcome rely good (rest found) before result after := by
  cases value with
  | some found => exact ⟨found, rfl, outcome⟩
  | none => exact outcome.elim

/-- A milestone read within its agreement. -/
theorem milestoneOf_read {milestoneId : RowId} {agreement : Agreement} {message : String} {milestone : Milestone}
    (untouched : Write.to .milestones before.writes = [])
    (outcome : Outcome rely good (milestoneOf appId milestoneId agreement message) before milestone after) :
    after.writes = before.writes ∧ good after.db ∧ after.db.milestones.get milestoneId = some milestone ∧
      milestone.agreementId = agreement.id := by
  obtain ⟨found, middle, read, outcome⟩ := outcome_bind.mp outcome
  obtain ⟨here, later, rfl, rfl⟩ := outcome_read.mp read
  split at outcome
  next row present =>
    split at outcome
    next => exact outcome.elim
    next same =>
      obtain ⟨rfl, rfl⟩ := outcome
      rw [milestoneForApp_some, Point.view, stored_milestones.untouched (later.writes ▸ untouched)] at present
      exact ⟨by rw [Point.record, List.append_nil, later.writes], later.good, present.1, not_not.mp same⟩
  next => exact outcome.elim

end Parts

section Milestones

/-- The amounts of the milestones that an agreement has. -/
def allocated (db : Db) (appId : String) (agreementId : RowId) : List String :=
  (db.milestones.rows.filter fun row => row.agreementId = agreementId && row.appId = appId).map (·.amount)

/-- A new milestone comes under an agreement that is unfunded until the commit, and fits
beside the milestones that were there when they were summed up. -/
theorem createMilestoneForAgreement_commits {request : Nat} {agreementId : RowId} {input : CreateMilestoneInput}
    {reply : Reply} {start : Db}
    (outcome : Outcome rely good (createMilestoneForAgreement request appId agreementId input) ⟨[], [], start⟩ reply
      after) :
    ∃ (agreement : Agreement) (milestone : Milestone) (existing : Nat) (read : Point Db Write Query),
      after.writes = [.lockAgreement agreementId, .milestone milestone] ∧
      milestone.agreementId = agreementId ∧ milestone.appId = appId ∧ agreement.appId = appId ∧
      agreement.settlementStatus = .unfunded ∧
      (∀ final, Follows after final → final.db.agreements.get agreementId = some agreement) ∧
      good read.db ∧ read.db.agreements.get agreementId = some agreement ∧
      sumIntegerAmounts (allocated read.db appId agreementId) = .ok existing ∧
      assertMilestoneAllocationWithinAgreement existing milestone.amount agreement.amount = .ok () ∧
      Query.findAgreementForApp ∈ after.log ∧
      ∀ kept, KeepsSince rely .findAgreementForApp kept → kept read.db after.db := by
  obtain ⟨locked, first, locking, rest⟩ := outcome_bind.mp outcome
  obtain ⟨here, now, writes, later, executed, firstIs⟩ := outcome_statement.mp locking
  split at rest
  next => exact rest.elim
  next isLocked =>
    have none : here.writes = [] := later.writes
    have lockWritten : writes = [.lockAgreement agreementId] := by
      split at executed
      next row found =>
        cases executed
        have key : row.id = agreementId := Table.key_of_get (agreementForApp_some.mp found).1
        rw [key]
      next =>
        cases executed
        simp at isLocked
    have firstWrites : first.writes = [.lockAgreement agreementId] := by
      rw [firstIs, Point.record, none, lockWritten]
      rfl
    obtain ⟨found, second, reading, rest⟩ := outcome_bind.mp rest
    obtain ⟨agreement, present, rest⟩ := outcome_required rest
    rw [present] at reading
    obtain ⟨there, laterThere, same, secondIs⟩ := outcome_read.mp reading
    have alone : ∀ point : Point Db Write Query, point.writes = [.lockAgreement agreementId] →
        point.view = point.db := by
      intro point written
      rw [Point.view, written]
      rfl
    rw [alone there (laterThere.writes.trans firstWrites), eq_comm, agreementForApp_some] at same
    have secondWrites : second.writes = [.lockAgreement agreementId] := by
      rw [secondIs, Point.record, List.append_nil, laterThere.writes, firstWrites]
    have asked : Query.findAgreementForApp ∈ second.log := by
      rw [secondIs, Point.record]
      exact List.mem_append_right _ List.mem_cons_self
    have committed : ∀ final, Follows second final → final.db.agreements.get agreementId = some agreement := by
      intro final follows
      have kept := follows.locked (.lockAgreement agreementId) (by rw [secondWrites]; exact List.mem_cons_self)
        (.agreement agreementId) List.mem_cons_self
      rw [secondIs] at kept
      exact (show _ = _ from kept) ▸ same.1
    split at rest
    next => exact rest.elim
    next =>
      have behind := rest
      obtain ⟨amounts, third, summing, rest⟩ := outcome_bind.mp rest
      obtain ⟨read, laterRead, amountsAre, thirdIs⟩ := outcome_read.mp summing
      have readWrites : read.writes = [.lockAgreement agreementId] := laterRead.writes.trans secondWrites
      rw [alone read readWrites] at amountsAre
      have onwards := rest
      obtain ⟨existing, sum, rest⟩ := outcome_check rest
      obtain ⟨_, fits, rest⟩ := outcome_check rest
      obtain ⟨lastOrder, fourth, ordering, rest⟩ := outcome_bind.mp rest
      obtain ⟨there', later', _, fourthIs⟩ := outcome_read.mp ordering
      obtain ⟨_, _, rest⟩ := outcome_check rest
      obtain ⟨created, fifth, creating, rest⟩ := outcome_bind.mp rest
      obtain ⟨last, laterLast, createdIs, thawed, _, fifthIs⟩ :=
        outcome_createMilestone (outcome_mapError.mp creating)
      obtain ⟨_, ended⟩ := rest
      have lastWrites : last.writes = [.lockAgreement agreementId] := by
        rw [laterLast.writes, fourthIs, Point.record, List.append_nil, later'.writes, thirdIs, Point.record,
          List.append_nil, readWrites]
      have toLast : Follows second last :=
        summing.follows.trans ((ordering.follows.trans laterLast.follows))
      have unfunded : agreement.settlementStatus = .unfunded := by
        rw [alone last lastWrites] at thawed
        simp only [membershipFrozen, committed last toLast, Option.any_some, Bool.or_eq_false_iff] at thawed
        simpa using thawed.1.1
      have sumIs : sumIntegerAmounts (allocated read.db appId agreementId) = .ok existing := by
        rw [show allocated read.db appId agreementId = amounts from amountsAre.symm]
        exact sum
      refine ⟨agreement, created, existing, read, ?_, by rw [createdIs], by rw [createdIs], same.2, unfunded, ?_,
        laterRead.good, committed read laterRead.follows, sumIs, by rw [createdIs]; exact fits, behind.follows.log.subset asked, ?_⟩
      · rw [ended, fifthIs, Point.record, lastWrites, createdIs]
        rfl
      · intro final follows
        exact committed final (behind.follows.trans follows)
      · intro kept keeps
        have toEnd := onwards.keepsSince keeps (summing.follows.log.subset asked)
        rwa [thirdIs] at toEnd

end Milestones

section Disputes

theorem disputeOpen_path {status : AgreementStatus} {path : List AgreementStatus}
    (found : agreementPathForDisputeOpen status = .ok path) :
    status ∈ [AgreementStatus.funded, .inProgress, .underReview, .proofSubmitted] ∧
      path.getLast? = some .disputed := by
  cases status <;> simp [agreementPathForDisputeOpen] at found <;> subst found <;> simp

/-- An opened dispute comes with its agreement moved into `disputed`. -/
theorem createDisputeForApp_commits {request : Nat} {input : CreateDisputeInput} {reply : Reply} {start : Db}
    (outcome : Outcome rely good (createDisputeForApp request appId input) ⟨[], [], start⟩ reply after) :
    ∃ (dispute : Dispute) (old : Agreement) (agreements : List Agreement) (milestones : List Milestone),
      after.writes = .dispute dispute :: (agreements.map .agreement ++ milestones.map .milestone) ∧
      dispute.id = ⟨request, 0⟩ ∧ dispute.agreementId = input.agreementId ∧
      dispute.milestoneId = input.milestoneId ∧ dispute.status = .opened ∧
      old.status ∈ [AgreementStatus.funded, .inProgress, .underReview, .proofSubmitted] ∧
      (∀ final, Follows after final → final.db.agreements.get input.agreementId = some old) ∧
      (∀ row ∈ agreements, row.id = input.agreementId) ∧
      agreements.getLast?.map Agreement.status = some .disputed := by
  obtain ⟨found, _, read, rest⟩ := outcome_bind.mp outcome
  obtain ⟨agreement, present, rest⟩ := outcome_required rest
  rw [present] at read
  obtain ⟨written, _, stored, _⟩ := stored_agreements.read rfl read
  have key : agreement.id = input.agreementId := Table.key_of_get stored
  obtain ⟨milestone, _, belongs, rest⟩ := outcome_bind.mp rest
  obtain ⟨unwritten, _, _, _⟩ := milestoneOf_read (by rw [written]; rfl) belongs
  obtain ⟨existing, _, looked, rest⟩ := outcome_bind.mp rest
  obtain ⟨here, later, _, looked⟩ := outcome_read.mp looked
  split at rest
  next => exact rest.elim
  next =>
    obtain ⟨agreementPath, agreementFound, rest⟩ := outcome_check rest
    obtain ⟨fromStatus, disputed⟩ := disputeOpen_path agreementFound
    obtain ⟨milestonePath, _, rest⟩ := outcome_check rest
    obtain ⟨created, inserted, insertion, rest⟩ := outcome_bind.mp rest
    obtain ⟨there, laterThere, createdIs, _, insertedHere⟩ := outcome_insert (outcome_mapError.mp insertion)
    obtain ⟨_, moved, agreementMoved, rest⟩ := outcome_bind.mp rest
    obtain ⟨_, _, milestoneMoved, rest⟩ := outcome_bind.mp rest
    obtain ⟨rfl, rfl⟩ := rest
    have none : there.writes = [] := by
      rw [laterThere.writes, looked, Point.record, List.append_nil, later.writes, unwritten, written]
    have opened : inserted.writes = [.dispute created] := by
      rw [insertedHere, Point.record, none, createdIs]
      rfl
    obtain ⟨milestones, milestoneWrites, _, _⟩ := advanceMilestone_rows milestoneMoved
    cases agreementPath with
    | nil => cases disputed
    | cons next path =>
    obtain ⟨old, agreements, status, _, advanced⟩ := advanceAgreement_moved
      (by rw [opened]; rfl) agreementMoved
    refine ⟨created, old, agreements, milestones, ?_, by rw [createdIs], by rw [createdIs], by rw [createdIs],
      by rw [createdIs], status ▸ fromStatus, ?_, ?_, ?_⟩
    · rw [milestoneWrites, advanced.writes, opened]
      rfl
    · intro final follows
      rw [← key]
      exact advanced.committed final (milestoneMoved.follows.trans follows)
    · rw [← key]
      exact advanced.keys
    · rw [← List.getLast?_map, advanced.statuses, disputed]

theorem disputeResolution_path {status : AgreementStatus} {resolutionType : DisputeResolutionType}
    {path : List AgreementStatus} (found : agreementPathForDisputeResolution status resolutionType = .ok path) :
    status = .disputed ∧ path = if resolutionType = .release then [.approved] else [] := by
  cases status <;> simp [agreementPathForDisputeResolution] at found
  cases resolutionType <;> simp_all

theorem milestoneResolution_path {status : MilestoneStatus} {resolutionType : DisputeResolutionType}
    {path : List MilestoneStatus} (found : milestonePathForDisputeResolution status resolutionType = .ok path) :
    path = if resolutionType = .release then [.approved] else [] := by
  cases status <;> simp [milestonePathForDisputeResolution] at found
  cases resolutionType <;> simp_all

theorem checkSplit_writes {agreement : Agreement} {milestone : Milestone} {input : ResolveDisputeInput}
    (outcome : Outcome rely good (checkSplit appId agreement milestone input) before () after) :
    after.writes = before.writes := by
  unfold checkSplit at outcome
  split at outcome
  next =>
    obtain ⟨found, _, read, rest⟩ := outcome_bind.mp outcome
    obtain ⟨here, later, rfl, rfl⟩ := outcome_read.mp read
    have same : (here.record .findActiveEscrowForScope [] : Point Db Write Query).writes = before.writes := by
      rw [Point.record, List.append_nil, later.writes]
    split at rest
    next =>
      split at rest
      next => exact rest.elim
      next =>
        obtain ⟨_, rfl⟩ := outcome_ofExcept.mp rest
        exact same
    next => exact rest.elim
  next =>
    obtain ⟨_, rfl⟩ := outcome
    rfl

/-- A resolution for the worker approves the agreement of the dispute, and no other
resolution moves it. -/
theorem resolveDisputeForApp_commits {disputeId : RowId} {input : ResolveDisputeInput} {reply : Reply}
    {start : Db} (steady : Keeps rely Steady)
    (outcome : Outcome rely good (resolveDisputeForApp appId disputeId input) ⟨[], [], start⟩ reply after) :
    ∃ (dispute : Dispute) (now : Nat) (agreements : List Agreement) (milestones : List Milestone),
      after.writes = .dispute (dispute.resolvedBy input now) ::
        (agreements.map .agreement ++ milestones.map .milestone) ∧
      dispute.status.unresolved = true ∧
      (∀ final, Follows after final → final.db.disputes.get disputeId = some dispute) ∧
      (∀ row ∈ agreements, row.id = dispute.agreementId ∧ row.status = .approved) ∧
      (∀ row ∈ milestones, row.id = dispute.milestoneId) ∧
      (input.resolutionType ≠ .release → agreements = [] ∧ milestones = []) ∧
      (input.resolutionType = .release → agreements ≠ []) := by
  obtain ⟨found, first, read, rest⟩ := outcome_bind.mp outcome
  obtain ⟨seen, present, rest⟩ := outcome_required rest
  rw [present] at read
  obtain ⟨written, _, stored, _⟩ := stored_disputes.read rfl read
  obtain ⟨_, resolvable, rest⟩ := outcome_check rest
  have onwards := rest
  obtain ⟨found, _, read, rest⟩ := outcome_bind.mp rest
  obtain ⟨agreement, present, rest⟩ := outcome_required rest
  rw [present] at read
  obtain ⟨written', _, storedAgreement, _⟩ := stored_agreements.read (by rw [written]; rfl) read
  have key : agreement.id = seen.agreementId := Table.key_of_get storedAgreement
  obtain ⟨milestone, _, belongs, rest⟩ := outcome_bind.mp rest
  obtain ⟨unwritten, _, storedMilestone, _⟩ := milestoneOf_read (by rw [written', written]; rfl) belongs
  have milestoneKey : milestone.id = seen.milestoneId := Table.key_of_get storedMilestone
  obtain ⟨_, split, checked, rest⟩ := outcome_bind.mp rest
  have none : split.writes = [] := by rw [checkSplit_writes checked, unwritten, written', written]
  obtain ⟨agreementPath, agreementFound, rest⟩ := outcome_check rest
  obtain ⟨_, path⟩ := disputeResolution_path agreementFound
  obtain ⟨milestonePath, milestoneFound, rest⟩ := outcome_check rest
  obtain ⟨resolved, swapped, resolution, rest⟩ := outcome_bind.mp rest
  obtain ⟨dispute, now, status, _, _, disputeWrites, committed⟩ := dispute_resolved resolution
  obtain ⟨_, moved, agreementMoved, rest⟩ := outcome_bind.mp rest
  obtain ⟨_, _, milestoneMoved, rest⟩ := outcome_bind.mp rest
  obtain ⟨rfl, rfl⟩ := rest
  obtain ⟨agreements, agreementWrites, agreementKeys, agreementStatuses⟩ := advanceAgreement_rows agreementMoved
  obtain ⟨milestones, milestoneWrites, milestoneKeys, milestoneStatuses⟩ := advanceMilestone_rows milestoneMoved
  -- the dispute that was read is the one that was resolved, in its terms
  have row : ∀ final, Follows after final → final.db.disputes.get disputeId = some dispute := by
    intro final follows
    exact committed (by rw [none]; rfl) final
      ((agreementMoved.follows.trans milestoneMoved.follows).trans follows)
  obtain ⟨later, same, _, sameAgreement, sameMilestone, _⟩ :=
    (onwards.keeps steady).disputes disputeId seen stored trivial
  rw [row after (.refl after)] at same
  obtain rfl := Option.some.inj same
  refine ⟨dispute, now, agreements, milestones, ?_, ?_, row, ?_, ?_, ?_, ?_⟩
  · rw [milestoneWrites, agreementWrites, disputeWrites, none]
    simp
  · rw [status]
    exact assertDisputeResolvable_ok resolvable
  · intro row member
    refine ⟨by rw [agreementKeys row member, key, sameAgreement], ?_⟩
    have listed : row.status ∈ agreementPath := agreementStatuses ▸ List.mem_map_of_mem member
    rw [path] at listed
    split at listed
    next => exact List.mem_singleton.mp listed
    next => cases listed
  · intro row member
    rw [milestoneKeys row member, milestoneKey, sameMilestone]
  · intro other
    rw [path, if_neg other] at agreementStatuses
    rw [milestoneResolution_path milestoneFound, if_neg other] at milestoneStatuses
    exact ⟨List.map_eq_nil_iff.mp agreementStatuses, List.map_eq_nil_iff.mp milestoneStatuses⟩
  · intro release empty
    rw [path, if_pos release, empty] at agreementStatuses
    cases agreementStatuses

end Disputes

section Reviews

/-- The start of a review writes at most the proof. -/
theorem startReview_writes {proof : Proof} {status : ProofStatus}
    (outcome : Outcome rely good (startReview appId proof) before status after) :
    ∃ proofs : List Proof, after.writes = before.writes ++ proofs.map .proof := by
  unfold startReview at outcome
  split at outcome
  next =>
    obtain ⟨_, middle, moved, ended⟩ := outcome_bind.mp outcome
    obtain ⟨row, _, _, _, writes, _⟩ := proof_moved moved
    obtain ⟨_, same⟩ := ended
    exact ⟨[{ row with status := .underReview }], by rw [same, writes]; rfl⟩
  next =>
    obtain ⟨_, same⟩ := outcome
    exact ⟨[], by rw [same]; simp⟩

/-- A review leaves its proof in the status of the decision, beside the row of the review. -/
theorem reviewProofForApp_commits {request : Nat} {proofId : RowId} {decision : ReviewDecision} {reply : Reply}
    {start : Db}
    (outcome : Outcome rely good (reviewProofForApp request appId proofId decision) ⟨[], [], start⟩ reply after) :
    ∃ (proof last : Proof) (review : Review) (proofs : List Proof) (agreements : List Agreement)
      (milestones : List Milestone) (seen : Point Db Write Query),
      after.writes = proofs.map .proof ++ agreements.map .agreement ++ milestones.map .milestone ++
        [.proof last] ++ [.review review] ∧
      last.id = proofId ∧ last.status = proofStatusForReviewDecision decision ∧
      review.id = ⟨request, 0⟩ ∧ review.proofSubmissionId = proofId ∧ review.decision = decision ∧
      (∀ row ∈ milestones, row.id = proof.milestoneId) ∧
      seen.db.proofs.get proofId = some proof ∧
      (∀ kept, Keeps rely kept → kept seen.db after.db) := by
  obtain ⟨found, first, read, rest⟩ := outcome_bind.mp outcome
  obtain ⟨proof, present, rest⟩ := outcome_required rest
  rw [present] at read
  obtain ⟨written, _, stored, _⟩ := stored_proofs.read rfl read
  have proofKey : proof.id = proofId := Table.key_of_get stored
  have onwards := rest
  split at rest
  next => exact rest.elim
  next =>
    obtain ⟨found, second, read, rest⟩ := outcome_bind.mp rest
    obtain ⟨agreement, present, rest⟩ := outcome_required rest
    rw [present] at read
    obtain ⟨written', _, storedAgreement, _⟩ := stored_agreements.read (by rw [written]; rfl) read
    obtain ⟨milestone, third, belongs, rest⟩ := outcome_bind.mp rest
    obtain ⟨unwritten, _, storedMilestone, _⟩ := milestoneOf_read (by rw [written', written]; rfl) belongs
    have milestoneKey : milestone.id = proof.milestoneId := Table.key_of_get storedMilestone
    obtain ⟨agreementPath, _, rest⟩ := outcome_check rest
    obtain ⟨milestonePath, _, rest⟩ := outcome_check rest
    have none : third.writes = [] := by rw [unwritten, written', written]
    obtain ⟨status, fourth, started, rest⟩ := outcome_bind.mp rest
    obtain ⟨proofs, startWrites⟩ := startReview_writes started
    obtain ⟨_, fifth, agreementMoved, rest⟩ := outcome_bind.mp rest
    obtain ⟨agreements, agreementWrites, _, _⟩ := advanceAgreement_rows agreementMoved
    obtain ⟨_, sixth, milestoneMoved, rest⟩ := outcome_bind.mp rest
    obtain ⟨milestones, milestoneWrites, milestoneKeys, _⟩ := advanceMilestone_rows milestoneMoved
    obtain ⟨_, seventh, reviewed, rest⟩ := outcome_bind.mp rest
    obtain ⟨row, _, _, key, proofWrites, _⟩ := proof_moved reviewed
    obtain ⟨review, eighth, insertion, rest⟩ := outcome_bind.mp rest
    obtain ⟨there, later, reviewIs, _, inserted⟩ := outcome_insert insertion
    obtain ⟨_, ended⟩ := rest
    refine ⟨proof, { row with status := proofStatusForReviewDecision decision }, review, proofs, agreements,
      milestones, first, ?_, key.trans proofKey, rfl, by rw [reviewIs], ?_, by rw [reviewIs], ?_, stored, ?_⟩
    · rw [ended, inserted, Point.record, later.writes, proofWrites, milestoneWrites, agreementWrites,
        startWrites, none, reviewIs]
      rfl
    · rw [reviewIs]
      exact proofKey
    · intro milestoneRow member
      rw [milestoneKeys milestoneRow member, milestoneKey]
    · intro kept keeps
      exact onwards.keeps keeps

end Reviews

end PactAgent.Lifecycle
