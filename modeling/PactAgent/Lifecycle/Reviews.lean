import PactAgent.Lifecycle.Commits

/-! What a proof submission, a review and a new dispute find and leave behind: for each row
that they move, the committed row and the row that the commit puts in its place. -/

namespace PactAgent.Lifecycle
open PactAgent.Foundation PactAgent.Common PactAgent.Store

variable {rely : List Query → Db → Db → Prop} {good : Db → Prop}
variable {before after final : Point Db Write Query} {appId : String} {id : RowId}

section Rewrites
variable {Row : Type} [Keyed Row RowId] {table : Db → Foundation.Table Row} {relation : Relation} {write : Row → Write}

/-- Rows written under one key: the committed row, and the last one. -/
structure Rewrites (table : Db → Foundation.Table Row) (after : Point Db Write Query) (key : RowId) (rows : List Row)
    (old new : Row) : Prop where
  committed : ∀ final, Follows after final → (table final.db).get key = some old
  keys : ∀ row ∈ rows, Keyed.key row = key
  last : rows.getLast? = some new

variable {key : RowId} {rows : List Row} {old new : Row}

theorem Rewrites.later (rewrites : Rewrites table after key rows old new) (follows : Follows after final) :
    Rewrites table final key rows old new :=
  ⟨fun last onwards => rewrites.committed last (follows.trans onwards), rewrites.keys, rewrites.last⟩

theorem Rewrites.key_new (rewrites : Rewrites table after key rows old new) : Keyed.key new = key :=
  rewrites.keys new (List.mem_of_getLast? rewrites.last)

/-- The last row is in the table, and those under other keys. -/
theorem Rewrites.mem_iff (stored : Stored table relation write) (rewrites : Rewrites table after key rows old new)
    {writes : List Write} (written : Write.to relation writes = rows.map write) {db : Db} {found : Row} :
    found ∈ table (Storage.view writes db) ↔ found = new ∨ found ∈ table db ∧ Keyed.key found ≠ key := by
  have present : (table (Storage.view writes db)).get key = some new :=
    rewrites.key_new ▸ stored.get_last written rewrites.last db
  have others : ∀ other, other ≠ key → (table (Storage.view writes db)).get other = (table db).get other := by
    intro other different
    apply stored.get_of_ne written
    intro row member same
    exact different (same.symm.trans (rewrites.keys row member))
  constructor
  · intro member
    have there := Table.get_of_mem member
    by_cases same : Keyed.key found = key
    · rw [same, present] at there
      exact .inl (Option.some.inj there).symm
    · rw [others _ same] at there
      exact .inr ⟨Table.mem_of_get there, same⟩
  · rintro (rfl | ⟨member, different⟩)
    · exact Table.mem_of_get present
    · exact Table.mem_of_get ((others _ different).trans (Table.get_of_mem member))

theorem Rewrites.get_of_ne (stored : Stored table relation write) (rewrites : Rewrites table after key rows old new)
    {writes : List Write} (written : Write.to relation writes = rows.map write) {db : Db} {other : RowId}
    (different : other ≠ key) : (table (Storage.view writes db)).get other = (table db).get other := by
  apply stored.get_of_ne written
  intro row member same
  exact different (same.symm.trans (rewrites.keys row member))

end Rewrites

section Paths

/-- A path that ends somewhere moves its agreement there. -/
theorem advanceAgreement_rewrites {current last : AgreementStatus} {path : List AgreementStatus}
    (untouched : Write.to .agreements before.writes = []) (ends : path.getLast? = some last)
    (outcome : Outcome rely good (advanceAgreement appId id current path) before () after) :
    ∃ rows old new, after.writes = before.writes ++ rows.map .agreement ∧
      Rewrites Db.agreements after id rows old new ∧ old.status = current ∧ new.status = last := by
  cases path with
  | nil => cases ends
  | cons next path =>
    obtain ⟨old, rows, status, _, advanced⟩ := advanceAgreement_moved untouched outcome
    have reached : rows.getLast?.map Agreement.status = some last := by
      rw [← List.getLast?_map, advanced.statuses, ends]
    obtain ⟨new, newest, moved⟩ := Option.map_eq_some_iff.mp reached
    exact ⟨rows, old, new, advanced.writes, ⟨advanced.committed, advanced.keys, newest⟩, status, moved⟩

theorem advanceMilestone_rewrites {current last : MilestoneStatus} {path : List MilestoneStatus}
    (untouched : Write.to .milestones before.writes = []) (ends : path.getLast? = some last)
    (outcome : Outcome rely good (advanceMilestone appId id current path) before () after) :
    ∃ rows old new, after.writes = before.writes ++ rows.map .milestone ∧
      Rewrites Db.milestones after id rows old new ∧ old.status = current ∧ new.status = last := by
  obtain ⟨rows, writes, keys, statuses⟩ := advanceMilestone_rows outcome
  have reached : rows.getLast?.map Milestone.status = some last := by
    rw [← List.getLast?_map, statuses, ends]
  obtain ⟨new, newest, moved⟩ := Option.map_eq_some_iff.mp reached
  cases path with
  | nil => cases ends
  | cons next path =>
    -- the first swap of the path finds the committed row
    obtain ⟨_, _, rest⟩ := outcome_check outcome
    obtain ⟨_, middle, swapped, rest⟩ := outcome_bind.mp rest
    obtain ⟨old, status, _, _, _, committed⟩ := milestone_moved swapped
    refine ⟨rows, old, new, writes, ⟨?_, keys, newest⟩, status, moved⟩
    intro final follows
    exact committed untouched final (rest.follows.trans follows)

theorem submission_agreementEnds {status : AgreementStatus} {path : List AgreementStatus}
    (found : agreementPathForProofSubmission status = .ok path) :
    status ∈ [AgreementStatus.funded, .inProgress, .rejected] ∧ path.getLast? = some .proofSubmitted := by
  cases status <;> simp [agreementPathForProofSubmission] at found <;> subst found <;> simp

theorem submission_milestoneEnds {status : MilestoneStatus} {path : List MilestoneStatus}
    (found : milestonePathForProofSubmission status = .ok path) :
    status ∈ [MilestoneStatus.funded, .inProgress, .rejected] ∧ path.getLast? = some .proofSubmitted := by
  cases status <;> simp [milestonePathForProofSubmission] at found <;> subst found <;> simp

theorem review_agreementEnds {status : AgreementStatus} {decision : ReviewDecision} {path : List AgreementStatus}
    (found : agreementPathForReviewDecision status decision = .ok path) :
    status ∈ [AgreementStatus.proofSubmitted, .underReview] ∧
      ∃ last ∈ [AgreementStatus.approved, .rejected, .inProgress], path.getLast? = some last := by
  cases status <;> simp [agreementPathForReviewDecision] at found <;> cases decision <;> subst found <;> simp

theorem review_milestoneEnds {status : MilestoneStatus} {decision : ReviewDecision} {path : List MilestoneStatus}
    (found : milestonePathForReviewDecision status decision = .ok path) :
    status ∈ [MilestoneStatus.proofSubmitted, .underReview] ∧
      ∃ last ∈ [MilestoneStatus.approved, .rejected, .inProgress], path.getLast? = some last := by
  cases status <;> simp [milestonePathForReviewDecision] at found <;> cases decision <;> subst found <;> simp

theorem disputeOpen_milestoneEnds {status : MilestoneStatus} {path : List MilestoneStatus}
    (found : milestonePathForDisputeOpen status = .ok path) : path.getLast? = some .disputed := by
  cases status <;> simp [milestonePathForDisputeOpen] at found <;> subst found <;> simp

end Paths

section Commits
variable {request : Nat} {reply : Reply} {start : Db}

/-- A submission stores its proof and moves its agreement and its milestone into `proofSubmitted`. -/
theorem createProofForApp_commits {input : CreateProofInput}
    (outcome : Outcome rely good (createProofForApp request appId input) ⟨[], [], start⟩ reply after) :
    ∃ (proof : Proof) (agreements : List Agreement) (milestones : List Milestone) (oldAgreement newAgreement : Agreement)
      (oldMilestone newMilestone : Milestone),
      after.writes = .proof proof :: (agreements.map .agreement ++ milestones.map .milestone) ∧
      proof.id = ⟨request, 0⟩ ∧ proof.agreementId = input.agreementId ∧ proof.milestoneId = input.milestoneId ∧
      proof.status = .submitted ∧
      (∀ final, Follows after final → final.db.proofs.get proof.id = none) ∧
      Rewrites Db.agreements after input.agreementId agreements oldAgreement newAgreement ∧
      oldAgreement.status ∈ [AgreementStatus.funded, .inProgress, .rejected] ∧
      newAgreement.status = .proofSubmitted ∧
      Rewrites Db.milestones after input.milestoneId milestones oldMilestone newMilestone ∧
      newMilestone.status = .proofSubmitted := by
  obtain ⟨found, _, read, rest⟩ := outcome_bind.mp outcome
  obtain ⟨agreement, present, rest⟩ := outcome_required rest
  rw [present] at read
  obtain ⟨written, _, stored, _⟩ := stored_agreements.read rfl read
  have key : agreement.id = input.agreementId := Table.key_of_get stored
  obtain ⟨milestone, _, belongs, rest⟩ := outcome_bind.mp rest
  obtain ⟨unwritten, _, storedMilestone, _⟩ := milestoneOf_read (by rw [written]; rfl) belongs
  have milestoneKey : milestone.id = input.milestoneId := Table.key_of_get storedMilestone
  obtain ⟨agreementPath, agreementFound, rest⟩ := outcome_check rest
  obtain ⟨active, agreementEnds⟩ := submission_agreementEnds agreementFound
  obtain ⟨milestonePath, milestoneFound, rest⟩ := outcome_check rest
  obtain ⟨_, milestoneEnds⟩ := submission_milestoneEnds milestoneFound
  obtain ⟨created, inserted, insertion, rest⟩ := outcome_bind.mp rest
  obtain ⟨there, laterThere, createdIs, free, insertedHere⟩ := outcome_insert insertion
  obtain ⟨_, moved, agreementMoved, rest⟩ := outcome_bind.mp rest
  obtain ⟨_, _, milestoneMoved, rest⟩ := outcome_bind.mp rest
  obtain ⟨rfl, rfl⟩ := rest
  have nothing : there.writes = [] := by rw [laterThere.writes, unwritten, written]
  have opened : inserted.writes = [.proof created] := by
    rw [insertedHere, Point.record, nothing, createdIs]
    rfl
  obtain ⟨agreements, oldAgreement, newAgreement, agreementWrites, agreementRows, oldStatus, newStatus⟩ :=
    advanceAgreement_rewrites (by rw [opened]; rfl) agreementEnds agreementMoved
  obtain ⟨milestones, oldMilestone, newMilestone, milestoneWrites, milestoneRows, _, milestoneStatus⟩ :=
    advanceMilestone_rewrites (by rw [agreementWrites, opened]; simp [stored_agreements.to_other, Write.relation])
      milestoneEnds milestoneMoved
  refine ⟨created, agreements, milestones, oldAgreement, newAgreement, oldMilestone, newMilestone, ?_, by rw [createdIs],
    by rw [createdIs], by rw [createdIs], by rw [createdIs], ?_, ?_, oldStatus ▸ active, newStatus, ?_, milestoneStatus⟩
  · rw [milestoneWrites, agreementWrites, opened]
    rfl
  · -- the lock on the new row keeps it absent from the committed table
    intro final follows
    have toEnd : Follows inserted final := (agreementMoved.follows.trans milestoneMoved.follows).trans follows
    have kept := stored_proofs.locked created inserted final toEnd (by rw [opened]; exact List.mem_cons_self)
    have absent : inserted.db.proofs.get created.id = none := by
      rw [insertedHere, createdIs]
      simpa [Point.view, Point.record, nothing] using free
    exact kept.symm.trans absent
  · rw [← key]
    exact agreementRows.later milestoneMoved.follows
  · rw [← milestoneKey]
    exact milestoneRows

/-- A new dispute moves its agreement and its milestone into `disputed`. -/
theorem createDisputeForApp_moves {input : CreateDisputeInput}
    (outcome : Outcome rely good (createDisputeForApp request appId input) ⟨[], [], start⟩ reply after) :
    ∃ (dispute : Dispute) (agreements : List Agreement) (milestones : List Milestone) (oldAgreement newAgreement : Agreement)
      (oldMilestone newMilestone : Milestone),
      after.writes = .dispute dispute :: (agreements.map .agreement ++ milestones.map .milestone) ∧
      dispute.agreementId = input.agreementId ∧ dispute.milestoneId = input.milestoneId ∧
      Rewrites Db.agreements after input.agreementId agreements oldAgreement newAgreement ∧
      newAgreement.status = .disputed ∧
      Rewrites Db.milestones after input.milestoneId milestones oldMilestone newMilestone := by
  obtain ⟨found, _, read, rest⟩ := outcome_bind.mp outcome
  obtain ⟨agreement, present, rest⟩ := outcome_required rest
  rw [present] at read
  obtain ⟨written, _, stored, _⟩ := stored_agreements.read rfl read
  have key : agreement.id = input.agreementId := Table.key_of_get stored
  obtain ⟨milestone, _, belongs, rest⟩ := outcome_bind.mp rest
  obtain ⟨unwritten, _, storedMilestone, _⟩ := milestoneOf_read (by rw [written]; rfl) belongs
  have milestoneKey : milestone.id = input.milestoneId := Table.key_of_get storedMilestone
  obtain ⟨existing, _, looked, rest⟩ := outcome_bind.mp rest
  obtain ⟨here, later, _, looked⟩ := outcome_read.mp looked
  split at rest
  next => exact rest.elim
  next =>
    obtain ⟨agreementPath, agreementFound, rest⟩ := outcome_check rest
    obtain ⟨_, agreementEnds⟩ := disputeOpen_path agreementFound
    obtain ⟨milestonePath, milestoneFound, rest⟩ := outcome_check rest
    obtain ⟨created, inserted, insertion, rest⟩ := outcome_bind.mp rest
    obtain ⟨there, laterThere, createdIs, _, insertedHere⟩ := outcome_insert (outcome_mapError.mp insertion)
    obtain ⟨_, moved, agreementMoved, rest⟩ := outcome_bind.mp rest
    obtain ⟨_, _, milestoneMoved, rest⟩ := outcome_bind.mp rest
    obtain ⟨rfl, rfl⟩ := rest
    have none : there.writes = [] := by
      rw [laterThere.writes, looked, Point.record, List.append_nil, later.writes, unwritten, written]
    have opened : inserted.writes = [.dispute created] := by
      rw [insertedHere, Point.record, none, createdIs]
      rfl
    obtain ⟨agreements, oldAgreement, newAgreement, agreementWrites, agreementRows, _, newStatus⟩ :=
      advanceAgreement_rewrites (by rw [opened]; rfl) agreementEnds agreementMoved
    obtain ⟨milestones, oldMilestone, newMilestone, milestoneWrites, milestoneRows, _, _⟩ :=
      advanceMilestone_rewrites
        (by rw [agreementWrites, opened]; simp [stored_agreements.to_other, Write.relation])
        (disputeOpen_milestoneEnds milestoneFound) milestoneMoved
    refine ⟨created, agreements, milestones, oldAgreement, newAgreement, oldMilestone, newMilestone, ?_,
      by rw [createdIs], by rw [createdIs], ?_, newStatus, ?_⟩
    · rw [milestoneWrites, agreementWrites, opened]
      rfl
    · rw [← key]
      exact agreementRows.later milestoneMoved.follows
    · rw [← milestoneKey]
      exact milestoneRows

/-- The start of a review moves the proof from `submitted`, or finds it started. -/
theorem startReview_rows {proof : Proof} {status : ProofStatus}
    (outcome : Outcome rely good (startReview appId proof) before status after) :
    ∃ proofs : List Proof, after.writes = before.writes ++ proofs.map .proof ∧ (∀ row ∈ proofs, row.id = proof.id) ∧
      ((proofs = [] ∧ status = proof.status) ∨ ∃ old : Proof, old.status = .submitted ∧
        (Write.to .proofs before.writes = [] → ∀ final, Follows after final → final.db.proofs.get proof.id = some old)) := by
  unfold startReview at outcome
  split at outcome
  next =>
    obtain ⟨_, middle, moved, ended⟩ := outcome_bind.mp outcome
    obtain ⟨old, submitted, _, key, writes, committed⟩ := proof_moved moved
    obtain ⟨_, same⟩ := ended
    refine ⟨[{ old with status := .underReview }], by rw [same, writes]; rfl, ?_, .inr ⟨old, submitted, ?_⟩⟩
    · intro row member
      rw [List.mem_singleton.mp member]
      exact key
    · rw [same]
      exact committed
  next =>
    obtain ⟨rfl, same⟩ := outcome
    exact ⟨[], by rw [same]; simp, by simp, .inl ⟨rfl, rfl⟩⟩

theorem closed_decision (decision : ReviewDecision) :
    proofStatusForReviewDecision decision ∉ [ProofStatus.submitted, .underReview] := by
  cases decision <;> simp [proofStatusForReviewDecision]

/-- A review closes an open proof, and moves the agreement and the milestone of the proof on. -/
theorem reviewProofForApp_moves {proofId : RowId} {decision : ReviewDecision} (steady : Keeps rely Steady)
    (outcome : Outcome rely good (reviewProofForApp request appId proofId decision) ⟨[], [], start⟩ reply after) :
    ∃ (proofs : List Proof) (agreements : List Agreement) (milestones : List Milestone)
      (oldProof newProof : Proof) (oldAgreement newAgreement : Agreement) (oldMilestone newMilestone : Milestone),
      Write.to .proofs after.writes = proofs.map .proof ∧
      Write.to .agreements after.writes = agreements.map .agreement ∧
      Write.to .milestones after.writes = milestones.map .milestone ∧
      Rewrites Db.proofs after proofId proofs oldProof newProof ∧
      oldProof.status ∈ [ProofStatus.submitted, .underReview] ∧
      newProof.status ∉ [ProofStatus.submitted, .underReview] ∧
      Rewrites Db.agreements after oldProof.agreementId agreements oldAgreement newAgreement ∧
      oldAgreement.status ∈ [AgreementStatus.proofSubmitted, .underReview] ∧
      newAgreement.status ∈ [AgreementStatus.approved, .rejected, .inProgress] ∧
      Rewrites Db.milestones after oldProof.milestoneId milestones oldMilestone newMilestone ∧
      oldMilestone.status ∈ [MilestoneStatus.proofSubmitted, .underReview] ∧
      newMilestone.status ∈ [MilestoneStatus.approved, .rejected, .inProgress] := by
  obtain ⟨found, first, read, rest⟩ := outcome_bind.mp outcome
  obtain ⟨proof, present, rest⟩ := outcome_required rest
  rw [present] at read
  obtain ⟨written, _, stored, _⟩ := stored_proofs.read rfl read
  have proofKey : proof.id = proofId := Table.key_of_get stored
  have onwards := rest
  split at rest
  next => exact rest.elim
  next reviewable =>
    obtain ⟨found, second, read, rest⟩ := outcome_bind.mp rest
    obtain ⟨agreement, present, rest⟩ := outcome_required rest
    rw [present] at read
    obtain ⟨written', _, storedAgreement, _⟩ := stored_agreements.read (by rw [written]; rfl) read
    have agreementKey : agreement.id = proof.agreementId := Table.key_of_get storedAgreement
    obtain ⟨milestone, third, belongs, rest⟩ := outcome_bind.mp rest
    obtain ⟨unwritten, _, storedMilestone, _⟩ := milestoneOf_read (by rw [written', written]; rfl) belongs
    have milestoneKey : milestone.id = proof.milestoneId := Table.key_of_get storedMilestone
    obtain ⟨agreementPath, agreementFound, rest⟩ := outcome_check rest
    obtain ⟨agreementOpen, lastAgreement, agreementLast, agreementEnds⟩ := review_agreementEnds agreementFound
    obtain ⟨milestonePath, milestoneFound, rest⟩ := outcome_check rest
    obtain ⟨milestoneOpen, lastMilestone, milestoneLast, milestoneEnds⟩ := review_milestoneEnds milestoneFound
    have nothing : third.writes = [] := by rw [unwritten, written', written]
    obtain ⟨status, fourth, started, rest⟩ := outcome_bind.mp rest
    obtain ⟨proofs, startWrites, proofKeys, found⟩ := startReview_rows started
    rw [nothing, List.nil_append] at startWrites
    obtain ⟨_, fifth, agreementMoved, rest⟩ := outcome_bind.mp rest
    obtain ⟨agreements, oldAgreement, newAgreement, agreementWrites, agreementRows, oldStatus, newStatus⟩ :=
      advanceAgreement_rewrites (by rw [startWrites, stored_proofs.to_other]; simp) agreementEnds agreementMoved
    rw [startWrites] at agreementWrites
    obtain ⟨_, sixth, milestoneMoved, rest⟩ := outcome_bind.mp rest
    obtain ⟨milestones, oldMilestone, newMilestone, milestoneWrites, milestoneRows, oldMoved, newMoved⟩ :=
      advanceMilestone_rewrites
        (by rw [agreementWrites]; simp [Write.to_append, stored_proofs.to_other, stored_agreements.to_other])
        milestoneEnds milestoneMoved
    rw [agreementWrites] at milestoneWrites
    have tail := rest
    obtain ⟨_, seventh, reviewed, rest⟩ := outcome_bind.mp rest
    obtain ⟨row, rowStatus, _, key, proofWrites, committed⟩ := proof_moved reviewed
    rw [milestoneWrites] at proofWrites
    obtain ⟨review, eighth, insertion, rest⟩ := outcome_bind.mp rest
    obtain ⟨there, later, reviewIs, _, inserted⟩ := outcome_insert insertion
    obtain ⟨_, rfl⟩ := rest
    have toEnd : Follows fourth after := (agreementMoved.follows.trans milestoneMoved.follows).trans tail.follows
    have writes : after.writes = proofs.map .proof ++ agreements.map .agreement ++ milestones.map .milestone ++
        [.proof { row with status := proofStatusForReviewDecision decision }] ++ [.review review] := by
      rw [inserted, Point.record, later.writes, proofWrites, reviewIs]
    -- the first of the two swaps finds the committed proof
    obtain ⟨old, wasOpen, oldStored⟩ : ∃ old : Proof, old.status ∈ [ProofStatus.submitted, .underReview] ∧
        ∀ final, Follows after final → final.db.proofs.get proofId = some old := by
      rcases found with ⟨rfl, same⟩ | ⟨old, submitted, committed⟩
      · refine ⟨row, by rw [rowStatus, same]; exact not_not.mp reviewable, ?_⟩
        intro final follows
        rw [← proofKey]
        exact committed (by rw [milestoneWrites]; simp [Write.to_append, stored_milestones.to_other, stored_agreements.to_other])
          final (insertion.follows.trans follows)
      · refine ⟨old, by simp [submitted], ?_⟩
        intro final follows
        rw [← proofKey]
        exact committed (by rw [nothing]; rfl) final (toEnd.trans follows)
    obtain ⟨_, same, status', follows, _⟩ := (onwards.keeps steady).proofs proofId proof stored trivial
    rw [oldStored after (.refl after)] at same
    obtain rfl := Option.some.inj same
    have sameAgreement : old.agreementId = proof.agreementId := by rw [follows]
    have sameMilestone : old.milestoneId = proof.milestoneId := by rw [follows]
    refine ⟨proofs ++ [{ row with status := proofStatusForReviewDecision decision }], agreements, milestones, old,
      { row with status := proofStatusForReviewDecision decision }, oldAgreement, newAgreement, oldMilestone, newMilestone,
      ?_, ?_, ?_, ⟨oldStored, ?_, by simp⟩, wasOpen, closed_decision decision, ?_, oldStatus ▸ agreementOpen,
      newStatus ▸ agreementLast, ?_, oldMoved ▸ milestoneOpen, newMoved ▸ milestoneLast⟩
    · rw [writes]
      simp [Write.to_append, Write.relation, stored_proofs.to_map, stored_agreements.to_other, stored_milestones.to_other]
    · rw [writes]
      simp [Write.to_append, Write.relation, stored_proofs.to_other, stored_agreements.to_map, stored_milestones.to_other]
    · rw [writes]
      simp [Write.to_append, Write.relation, stored_proofs.to_other, stored_agreements.to_other, stored_milestones.to_map]
    · intro found member
      rcases List.mem_append.mp member with earlier | last
      · exact (proofKeys found earlier).trans proofKey
      · rw [List.mem_singleton.mp last]
        exact key.trans proofKey
    · rw [sameAgreement, ← agreementKey]
      exact agreementRows.later (milestoneMoved.follows.trans tail.follows)
    · rw [sameMilestone, ← milestoneKey]
      exact milestoneRows.later tail.follows

end Commits

end PactAgent.Lifecycle
