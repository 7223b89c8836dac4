import PactAgent.Lifecycle.Reviews
import PactAgent.Server.References

/-! One review at a time: an agreement that waits for a review has one milestone in review
and one open proof, the proof of that milestone, and an agreement on which a proof can be
submitted has none. -/

namespace PactAgent.Server
open PactAgent.Common PactAgent.Foundation PactAgent.Lifecycle PactAgent.Store PactAgent.Escrow
open PactAgent.Foundation.Execution PactAgent.Foundation.ReadCommitted
open PactAgent.Rail.Builder

/-- The rows of an agreement that wait for something. -/
def Waiting {Row : Type} [Keyed Row RowId] (table : Foundation.Table Row) (agreement : Row → RowId) (waits : Row → Prop)
    (agreementId : RowId) : Set Row :=
  {row | row ∈ table ∧ agreement row = agreementId ∧ waits row}

def MilestoneInReview (row : Milestone) : Prop := row.status ∈ [MilestoneStatus.proofSubmitted, .underReview]

def ProofOpen (row : Proof) : Prop := row.status ∈ [ProofStatus.submitted, .underReview]

/-- The milestones of an agreement that wait for a review. -/
def InReview (db : Db) (agreementId : RowId) : Set Milestone :=
  Waiting db.milestones Milestone.agreementId MilestoneInReview agreementId

/-- The proofs of an agreement that have not been decided on. -/
def OpenProofs (db : Db) (agreementId : RowId) : Set Proof :=
  Waiting db.proofs Proof.agreementId ProofOpen agreementId

/-- The agreement waits for a review. -/
def Reviewing (status : AgreementStatus) : Prop := status ∈ [AgreementStatus.proofSubmitted, .underReview]

/-- No proof has been submitted since the last review. -/
def Resting (status : AgreementStatus) : Prop :=
  status ∈ [AgreementStatus.draft, .pendingAcceptance, .accepted, .fundingRequired, .funded, .inProgress, .rejected]

/-- The reviews of an agreement fit its status. -/
structure ReviewFits (db : Db) (agreement : Agreement) : Prop where
  reviewing : Reviewing agreement.status → ∃ milestone proof, InReview db agreement.id = {milestone} ∧
    OpenProofs db agreement.id = {proof} ∧ proof.milestoneId = milestone.id
  resting : Resting agreement.status → InReview db agreement.id = ∅ ∧ OpenProofs db agreement.id = ∅

def ReviewsFit (db : Db) : Prop := ∀ agreement ∈ db.agreements, ReviewFits db agreement

section Fits
variable {db after : Db} {old new : Agreement}

/-- The agreement goes from one status to another, and its reviews stay as they are. -/
theorem ReviewFits.follow (fits : ReviewFits db old) (key : new.id = old.id)
    (milestones : InReview after old.id = InReview db old.id) (proofs : OpenProofs after old.id = OpenProofs db old.id)
    (reviewing : Reviewing new.status → Reviewing old.status) (resting : Resting new.status → Resting old.status) :
    ReviewFits after new := by
  constructor
  · intro waits
    rw [key, milestones, proofs]
    exact fits.reviewing (reviewing waits)
  · intro rests
    rw [key, milestones, proofs]
    exact fits.resting (resting rests)

theorem ReviewFits.stays (fits : ReviewFits db old) (milestones : InReview after old.id = InReview db old.id)
    (proofs : OpenProofs after old.id = OpenProofs db old.id) : ReviewFits after old :=
  fits.follow rfl milestones proofs id id

/-- Nothing is asked of an agreement that is past its reviews. -/
theorem ReviewFits.past (ended : ¬Reviewing new.status) (moved : ¬Resting new.status) : ReviewFits after new :=
  ⟨fun waits => absurd waits ended, fun rests => absurd rests moved⟩

theorem resting_active {status : AgreementStatus} (active : status ∈ [AgreementStatus.funded, .inProgress, .rejected]) :
    Resting status := by
  simp only [List.mem_cons, List.not_mem_nil, or_false] at active
  rcases active with rfl | rfl | rfl <;> simp [Resting]

theorem not_reviewing_of_resting {status : AgreementStatus} (rests : Resting status) : ¬Reviewing status := by
  cases status <;> simp [Resting, Reviewing] at rests ⊢

end Fits

section Waiting
variable {Row : Type} [Keyed Row RowId] {before after : Foundation.Table Row} {agreement : Row → RowId}
variable {waits : Row → Prop} {agreementId key : RowId} {new : Row}

/-- A table in which one row of the agreement has been put. -/
structure PutUnder (before after : Foundation.Table Row) (agreement : Row → RowId) (agreementId key : RowId) (new : Row) :
    Prop where
  mem : ∀ row, row ∈ after ↔ row = new ∨ row ∈ before ∧ Keyed.key row ≠ key
  own : agreement new = agreementId
  old : ∀ row ∈ before, Keyed.key row = key → agreement row = agreementId

theorem PutUnder.other (put : PutUnder before after agreement agreementId key new) {other : RowId}
    (different : other ≠ agreementId) : Waiting after agreement waits other = Waiting before agreement waits other := by
  ext row
  constructor
  · rintro ⟨member, own, waiting⟩
    rcases (put.mem row).mp member with rfl | ⟨earlier, _⟩
    · exact absurd (own.symm.trans put.own) different
    · exact ⟨earlier, own, waiting⟩
  · rintro ⟨member, own, waiting⟩
    refine ⟨(put.mem row).mpr (.inr ⟨member, ?_⟩), own, waiting⟩
    intro same
    exact different (own.symm.trans (put.old row member same))

/-- The row is the first one that waits. -/
theorem PutUnder.started (put : PutUnder before after agreement agreementId key new)
    (none : Waiting before agreement waits agreementId = ∅) (waiting : waits new) :
    Waiting after agreement waits agreementId = {new} := by
  ext row
  rw [Set.mem_singleton_iff]
  constructor
  · rintro ⟨member, own, waiting⟩
    rcases (put.mem row).mp member with same | ⟨earlier, _⟩
    · exact same
    · have among : row ∈ Waiting before agreement waits agreementId := ⟨earlier, own, waiting⟩
      rw [none] at among
      exact among.elim
  · rintro rfl
    exact ⟨(put.mem row).mpr (.inl rfl), put.own, waiting⟩

/-- The only row that waited does so no longer. -/
theorem PutUnder.ended (put : PutUnder before after agreement agreementId key new) {old : Row}
    (only : Waiting before agreement waits agreementId = {old}) (same : Keyed.key old = key) (done : ¬waits new) :
    Waiting after agreement waits agreementId = ∅ := by
  apply Set.eq_empty_of_forall_notMem
  rintro row ⟨member, own, waiting⟩
  rcases (put.mem row).mp member with rfl | ⟨earlier, different⟩
  · exact done waiting
  · have among : row ∈ Waiting before agreement waits agreementId := ⟨earlier, own, waiting⟩
    rw [only, Set.mem_singleton_iff] at among
    exact different (among ▸ same)

end Waiting

section Calm
variable {id : Nat} {phase : Phase} {db : Db} {write : Write}

/-- Moves that neither start nor end a review. -/
structure Calm (moves : Moves) : Prop where
  agreement : ∀ old new, canTransitionAgreement old new = true → moves.agreement old new →
    ¬Reviewing new ∧ (Resting new → Resting old)
  milestone : ∀ old new, canTransitionMilestone old new = true → moves.milestone old new →
    old ∉ [MilestoneStatus.proofSubmitted, .underReview] ∧ new ∉ [MilestoneStatus.proofSubmitted, .underReview]

theorem calm_none : Calm .none := ⟨fun _ _ _ moves => moves.elim, fun _ _ _ moves => moves.elim⟩

theorem calm_allocation : Calm allocationMoves := ⟨fun _ _ _ moves => moves.elim, fun _ _ _ moves => moves.elim⟩

theorem calm_agreementTo {statuses : List AgreementStatus}
    (early : ∀ status ∈ statuses, status ∈ [AgreementStatus.pendingAcceptance, .accepted, .fundingRequired, .cancelled]) :
    Calm (.agreementTo statuses) := by
  refine ⟨?_, fun _ _ _ moves => moves.elim⟩
  intro old new valid moves
  have among := early new moves
  simp only [List.mem_cons, List.not_mem_nil, or_false] at among
  rcases among with rfl | rfl | rfl | rfl <;> cases old <;> simp [canTransitionAgreement] at valid <;>
    simp [Reviewing, Resting]

theorem calm_resolution (resolutionType : DisputeResolutionType) : Calm (resolutionMoves resolutionType) := by
  constructor
  · rintro _ _ _ ⟨rfl, rfl, _⟩
    simp [Reviewing, Resting]
  · rintro _ _ _ ⟨rfl, rfl, _⟩
    simp

theorem calm_settlement : Calm settlementMoves := by
  constructor
  · intro old new valid moves
    simp only [settlementMoves, List.mem_cons, List.not_mem_nil, or_false] at moves
    rcases moves with rfl | rfl | rfl | rfl <;> cases old <;> simp [canTransitionAgreement] at valid <;>
      simp [Reviewing, Resting]
  · intro old new valid moves
    simp only [settlementMoves, List.mem_cons, List.not_mem_nil, or_false] at moves
    rcases moves with rfl | rfl | rfl <;> cases old <;> simp [canTransitionMilestone] at valid <;> simp

/-- A calm write to a milestone leaves the reviews alone. -/
theorem inReview_calm {row : Milestone} (calm : Calm phase.moves) (acts : Acts id phase db (.milestone row))
    (agreementId : RowId) : InReview (applyWrite (.milestone row) db) agreementId = InReview db agreementId := by
  have outside : row.status ∉ [MilestoneStatus.proofSubmitted, .underReview] ∧ ∀ old,
      db.milestones.get row.id = some old → old.status ∉ [MilestoneStatus.proofSubmitted, .underReview] := by
    have lawful := acts.lawful
    cases stored : db.milestones.get row.id with
    | none =>
      simp only [Lawful, stored] at lawful
      exact ⟨by simp [lawful.2], fun _ found => by cases found⟩
    | some old =>
      simp only [Lawful, stored] at lawful
      obtain ⟨next, valid, same⟩ := lawful
      have status : row.status = next := by rw [same]
      obtain ⟨before, now⟩ := calm.milestone old.status row.status (status ▸ valid) (acts.milestone old stored)
      refine ⟨now, ?_⟩
      rintro _ ⟨⟩
      exact before
  ext found
  constructor
  · rintro ⟨member, own, waits⟩
    rcases Table.mem_put.mp member with rfl | ⟨earlier, _⟩
    · exact absurd waits outside.1
    · exact ⟨earlier, own, waits⟩
  · rintro ⟨member, own, waits⟩
    refine ⟨Table.mem_put.mpr (.inr ⟨member, ?_⟩), own, waits⟩
    intro same
    have stored := Table.get_of_mem member
    rw [same] at stored
    exact outside.2 found stored waits

/-- An agreement that is new has no milestone and no proof. -/
theorem reviews_fresh {agreementId : RowId} (linked : Linked db) (absent : db.agreements.get agreementId = none) :
    InReview db agreementId = ∅ ∧ OpenProofs db agreementId = ∅ := by
  have alone : ∀ row ∈ db.milestones, row.agreementId ≠ agreementId := by
    intro row member same
    obtain ⟨agreement, stored, _⟩ := linked.milestones row member
    rw [same, absent] at stored
    cases stored
  refine ⟨Set.eq_empty_of_forall_notMem ?_, Set.eq_empty_of_forall_notMem ?_⟩
  · rintro row ⟨member, own, _⟩
    exact alone row member own
  · rintro row ⟨member, own, _⟩
    obtain ⟨milestone, stored, _, under⟩ := linked.proofs row member
    exact alone milestone (Table.mem_of_get stored) (under.trans own)

theorem reviewsFit_agreement {row : Agreement} (calm : Calm phase.moves) (acts : Acts id phase db (.agreement row))
    (linked : Linked db) (fit : ReviewsFit db) : ReviewsFit (applyWrite (.agreement row) db) := by
  intro agreement member
  rcases Table.mem_put.mp member with rfl | ⟨earlier, _⟩
  · have lawful := acts.lawful
    cases stored : db.agreements.get agreement.id with
    | none =>
      simp only [Lawful, stored] at lawful
      obtain ⟨milestones, proofs⟩ := reviews_fresh linked stored
      exact ⟨fun waits => absurd waits (by simp [lawful.2, Reviewing]), fun _ => ⟨milestones, proofs⟩⟩
    | some old =>
      simp only [Lawful, stored] at lawful
      obtain ⟨next, now, valid, same⟩ := lawful
      have status : agreement.status = next := by rw [same, transition_status]
      have key : old.id = agreement.id := Table.key_of_get stored
      obtain ⟨ended, resting⟩ := calm.agreement old.status agreement.status (status ▸ valid) (acts.agreement old stored)
      exact (fit old (Table.mem_of_get stored)).follow key.symm rfl rfl (fun waits => absurd waits ended) resting
  · exact (fit agreement earlier).stays rfl rfl

theorem reviewsFit_write (calm : Calm phase.moves) (acts : Acts id phase db write) (unproved : write.relation ≠ .proofs)
    (linked : Linked db) (fit : ReviewsFit db) : ReviewsFit (applyWrite write db) := by
  cases write with
  | agreement row => exact reviewsFit_agreement calm acts linked fit
  | milestone row =>
    intro agreement member
    exact (fit agreement member).stays (inReview_calm calm acts _) rfl
  | proof row => exact absurd rfl unproved
  | _ =>
    intro agreement member
    exact (fit agreement member).stays rfl rfl

/-- A commit of calm writes. -/
theorem reviewsFit_calm {writes : List Write} (calm : Calm phase.moves) (acts : Storage.Chain (Acts id phase) writes db)
    (fits : Storage.Chain Fits writes db) (unproved : ∀ write ∈ writes, write.relation ≠ .proofs) (linked : Linked db)
    (fit : ReviewsFit db) : ReviewsFit (Storage.view writes db) := by
  induction writes generalizing db with
  | nil => exact fit
  | cons write writes ih =>
    have now := reviewsFit_write calm acts.1 (unproved write List.mem_cons_self) linked fit
    exact ih acts.2 fits.2 (fun other member => unproved other (List.mem_cons_of_mem _ member))
      (linked_write acts.1.lawful fits.1 linked) now

end Calm

section Commits
variable {settings : Settings} {claims : Assertions Db Query Phase Env} {id : Nat} {phase next : Phase}
variable {writes : List Write} {db : Db} {req : RequestContext}

/-- The milestone that a commit moves is one of the agreement. -/
theorem milestone_put {rows : List Milestone} {old new : Milestone} {last : Point Db Write Query} {appId : String}
    {agreementId milestoneId : RowId} (steady : Steady db (Storage.view writes db))
    (rewrites : Rewrites Db.milestones last milestoneId rows old new)
    (written : Write.to .milestones writes = rows.map .milestone)
    (inside : InMilestone (Storage.view writes db) appId agreementId milestoneId) :
    PutUnder db.milestones (Storage.view writes db).milestones Milestone.agreementId agreementId milestoneId new := by
  obtain ⟨milestone, stored, _, under⟩ := inside
  have present := stored_milestones.get_last written rewrites.last db
  rw [rewrites.key_new, stored] at present
  cases present
  refine ⟨fun row => rewrites.mem_iff stored_milestones written, under, ?_⟩
  intro row member same
  obtain ⟨moved, found, status, follows, _⟩ := steady.milestones row.id row (Table.get_of_mem member) trivial
  rw [show row.id = milestoneId from same, stored] at found
  cases found
  rw [follows] at under
  exact under

/-- A submission starts the only review of its agreement. -/
theorem commits_submission {input : CreateProofInput} (steady : Steady db (Storage.view writes db))
    (linked : Linked (Storage.view writes db)) (fit : ReviewsFit db)
    (commits : Commits (app settings) claims id (.running req (.createProof input)) next writes db) :
    ReviewsFit (Storage.view writes db) := by
  obtain ⟨start, reply, middle, last, appKey, row, outcome, follows, rfl, written, _⟩ := running_commits commits
  obtain ⟨proof, agreements, milestones, oldAgreement, newAgreement, oldMilestone, newMilestone, middleWrites, _, under,
    proofMilestone, submitted, absent, agreementRows, active, waits, milestoneRows, reviewing⟩ :=
    createProofForApp_commits outcome
  rw [middleWrites] at written
  have toProofs : Write.to .proofs writes = [.proof proof] := by
    rw [written]
    simp [Write.to_append, Write.relation, stored_agreements.to_other, stored_milestones.to_other]
  have toAgreements : Write.to .agreements writes = agreements.map .agreement := by
    rw [written]
    simp [Write.to_append, Write.relation, stored_agreements.to_map, stored_milestones.to_other]
  have toMilestones : Write.to .milestones writes = milestones.map .milestone := by
    rw [written]
    simp [Write.to_append, Write.relation, stored_agreements.to_other, stored_milestones.to_map]
  have proofIn : proof ∈ (Storage.view writes last.db).proofs := (stored_proofs.mem_put toProofs).mpr (.inl rfl)
  have inside := linked.proofs proof proofIn
  rw [Proof.Refers, under, proofMilestone] at inside
  have moved := milestone_put steady milestoneRows toMilestones inside
  have put : PutUnder last.db.proofs (Storage.view writes last.db).proofs Proof.agreementId input.agreementId proof.id
      proof := by
    refine ⟨fun row => stored_proofs.mem_put toProofs, under, ?_⟩
    intro row member same
    have stored := Table.get_of_mem member
    rw [same, absent last follows] at stored
    cases stored
  intro agreement member
  rcases (agreementRows.mem_iff stored_agreements toAgreements).mp member with rfl | ⟨earlier, different⟩
  · have key : agreement.id = input.agreementId := agreementRows.key_new
    have old := fit oldAgreement (Table.mem_of_get (agreementRows.committed last follows))
    have oldKey : oldAgreement.id = input.agreementId := Table.key_of_get (agreementRows.committed last follows)
    obtain ⟨noMilestone, noProof⟩ := old.resting (resting_active active)
    rw [oldKey] at noMilestone noProof
    refine ⟨fun _ => ⟨newMilestone, proof, ?_, ?_, ?_⟩, fun rests => ?_⟩
    · rw [key]
      exact moved.started noMilestone (by simp [MilestoneInReview, reviewing])
    · rw [key]
      exact put.started noProof (by simp [ProofOpen, submitted])
    · exact proofMilestone.trans milestoneRows.key_new.symm
    · simp [Resting, waits] at rests
  · exact (fit agreement earlier).stays (moved.other different) (put.other different)

/-- A review ends the only one of its agreement. -/
theorem commits_review {proofId : RowId} {decision : ReviewDecision}
    (keeps : Keeps (claims.rely id (.running req (.reviewProof proofId decision))) Steady)
    (steady : Steady db (Storage.view writes db)) (before : Linked db) (linked : Linked (Storage.view writes db))
    (fit : ReviewsFit db)
    (commits : Commits (app settings) claims id (.running req (.reviewProof proofId decision)) next writes db) :
    ReviewsFit (Storage.view writes db) := by
  obtain ⟨start, reply, middle, last, appKey, row, outcome, follows, rfl, written, _⟩ := running_commits commits
  obtain ⟨proofs, agreements, milestones, oldProof, newProof, oldAgreement, newAgreement, oldMilestone, newMilestone,
    toProofs, toAgreements, toMilestones, proofRows, wasOpen, closed, agreementRows, waited, moves, milestoneRows, inReview,
    reviewed⟩ := reviewProofForApp_moves keeps outcome
  have own : ∀ relation, relation ≠ .idempotencyKeys → Write.to relation writes = Write.to relation middle.writes := by
    intro relation other
    have key : Write.to relation [Write.idempotencyKey appKey row] = [] :=
      Write.to_eq_nil (by simpa [Write.relation] using other.symm)
    rw [written, Write.to_append, key, List.append_nil]
  rw [← own _ (by simp)] at toProofs toAgreements toMilestones
  have oldStored := proofRows.committed last follows
  have oldIn : oldProof ∈ last.db.proofs := Table.mem_of_get oldStored
  have moved := milestone_put steady milestoneRows toMilestones ((before.proofs oldProof oldIn).later steady)
  have put : PutUnder last.db.proofs (Storage.view writes last.db).proofs Proof.agreementId oldProof.agreementId proofId
      newProof := by
    refine ⟨fun row => proofRows.mem_iff stored_proofs toProofs, ?_, ?_⟩
    · obtain ⟨found, stored, status, follows, _⟩ := steady.proofs proofId oldProof oldStored trivial
      have present := stored_proofs.get_last toProofs proofRows.last last.db
      rw [proofRows.key_new, stored] at present
      cases present
      rw [follows]
    · intro row member same
      have stored := Table.get_of_mem member
      rw [same, oldStored] at stored
      cases stored
      rfl
  have agreementStored := agreementRows.committed last follows
  have oldKey : oldAgreement.id = oldProof.agreementId := Table.key_of_get agreementStored
  -- the proof under review is the open one, and its milestone the one in review
  obtain ⟨milestone, only, inReviewIs, openIs, belongs⟩ :=
    (fit oldAgreement (Table.mem_of_get agreementStored)).reviewing waited
  rw [oldKey] at inReviewIs openIs
  have same : oldProof = only := by
    have among : oldProof ∈ OpenProofs last.db oldProof.agreementId := ⟨oldIn, rfl, wasOpen⟩
    rwa [openIs, Set.mem_singleton_iff] at among
  subst same
  intro agreement member
  rcases (agreementRows.mem_iff stored_agreements toAgreements).mp member with rfl | ⟨earlier, different⟩
  · have key : agreement.id = oldProof.agreementId := agreementRows.key_new
    refine ⟨fun waits => ?_, fun _ => ⟨?_, ?_⟩⟩
    · simp only [List.mem_cons, List.not_mem_nil, or_false] at moves
      rcases moves with status | status | status <;> simp [Reviewing, status] at waits
    · rw [key]
      apply moved.ended inReviewIs belongs.symm
      simp only [List.mem_cons, List.not_mem_nil, or_false] at reviewed
      rcases reviewed with status | status | status <;> simp [MilestoneInReview, status]
    · rw [key]
      exact put.ended openIs (Table.key_of_get oldStored) closed
  · exact (fit agreement earlier).stays (moved.other different) (put.other different)

/-- A dispute takes its agreement out of its reviews. -/
theorem commits_disputed {input : CreateDisputeInput} (steady : Steady db (Storage.view writes db))
    (linked : Linked (Storage.view writes db)) (fit : ReviewsFit db)
    (commits : Commits (app settings) claims id (.running req (.createDispute input)) next writes db) :
    ReviewsFit (Storage.view writes db) := by
  obtain ⟨start, reply, middle, last, appKey, row, outcome, follows, rfl, written, _⟩ := running_commits commits
  obtain ⟨dispute, agreements, milestones, oldAgreement, newAgreement, oldMilestone, newMilestone, middleWrites, under,
    disputed, agreementRows, status, milestoneRows⟩ := createDisputeForApp_moves outcome
  rw [middleWrites] at written
  have toDisputes : Write.to .disputes writes = [.dispute dispute] := by
    rw [written]
    simp [Write.to_append, Write.relation, stored_agreements.to_other, stored_milestones.to_other]
  have toAgreements : Write.to .agreements writes = agreements.map .agreement := by
    rw [written]
    simp [Write.to_append, Write.relation, stored_agreements.to_map, stored_milestones.to_other]
  have toMilestones : Write.to .milestones writes = milestones.map .milestone := by
    rw [written]
    simp [Write.to_append, Write.relation, stored_agreements.to_other, stored_milestones.to_map]
  have toProofs : Write.to .proofs writes = [] := by
    rw [written]
    simp [Write.to_append, Write.relation, stored_agreements.to_other, stored_milestones.to_other]
  have inside := linked.disputes dispute ((stored_disputes.mem_put toDisputes).mpr (.inl rfl))
  rw [Dispute.Refers, under, disputed] at inside
  have moved := milestone_put steady milestoneRows toMilestones inside
  intro agreement member
  rcases (agreementRows.mem_iff stored_agreements toAgreements).mp member with rfl | ⟨earlier, different⟩
  · exact .past (by simp [Reviewing, status]) (by simp [Resting, status])
  · refine (fit agreement earlier).stays (moved.other different) ?_
    unfold OpenProofs
    rw [stored_proofs.untouched toProofs]

/-- The write is not one of a proof. -/
def Unproved (_ : Db) (write : Write) : Prop := write.relation ≠ .proofs

theorem unproved_transitionAgreementStatus (appId : String) (agreementId : RowId) (expected toStatus : AgreementStatus) :
    (transitionAgreementStatus appId agreementId expected toStatus).Emits Unproved := by
  apply Program.emits_bind
  · apply emits_update
    intro now db row found met free
    simp [Unproved, Write.relation]
  intro count
  apply Program.emits_bind (Program.emits_ofExcept _)
  intro _
  exact emits_readOrThrow _

theorem unproved_transitionAgreement (appId : String) (agreementId : RowId) (toStatus : AgreementStatus) :
    (transitionAgreement appId agreementId toStatus).Emits Unproved := by
  apply Program.emits_bind (emits_read _)
  intro found
  apply Program.emits_bind
  · cases found <;> trivial
  intro before
  apply Program.emits_bind (Program.emits_ofExcept _)
  intro _
  apply Program.emits_bind (unproved_transitionAgreementStatus _ _ _ _)
  intro row
  exact Program.emits_pure _

theorem unproved_acceptAgreement (appId : String) (agreementId : RowId) :
    (acceptAgreement appId agreementId).Emits Unproved := by
  apply Program.emits_bind (emits_read _)
  intro found
  apply Program.emits_bind
  · cases found <;> trivial
  intro before
  apply Program.emits_bind (Program.emits_ofExcept _)
  intro _
  apply Program.emits_bind (Program.emits_ofExcept _)
  intro _
  apply Program.emits_bind (unproved_transitionAgreementStatus _ _ _ _)
  intro row
  apply Program.emits_bind (unproved_transitionAgreementStatus _ _ _ _)
  intro row
  exact Program.emits_pure _

theorem unproved_createAgreement (request : Nat) (appId : String) (input : CreateAgreementInput) :
    (createAgreementForApp request appId input).Emits Unproved := by
  apply Program.emits_bind
  · apply Program.emits_mapError
    apply emits_insert
    intro db free
    simp [Unproved, Write.relation]
  intro created
  exact Program.emits_pure _

/-- The operations that write no proof and open no dispute. -/
def Operation.isCalm : Operation → Bool
  | .createProof _ | .reviewProof _ _ | .createDispute _ => false
  | _ => true

def Phase.isCalm : Phase → Bool
  | .running _ operation => operation.isCalm
  | _ => true

theorem calm_moves (calm : phase.isCalm = true) : Calm phase.moves := by
  cases phase with
  | running req operation =>
    cases operation with
    | createAgreement input => exact calm_none
    | createMilestone agreementId input => exact calm_allocation
    | acceptAgreement agreementId | cancelAgreement agreementId | moveAgreementToFundingRequired agreementId =>
      exact calm_agreementTo (by simp)
    | resolveDispute disputeId input => exact calm_resolution _
    | createProof input | reviewProof proofId decision | createDispute input => cases calm
  | _ => exact calm_settlement

/-- The writes of a body that commits, when it emits no write of a proof. -/
theorem writes_unproved {α : Type} {body : Tx α} {result : α} {start : Db} {last : Point Db Write Query}
    {rely : List Query → Db → Db → Prop} {good : Db → Prop} (emits : body.Emits Unproved)
    (outcome : Outcome rely good body ⟨[], [], start⟩ result last) :
    ∀ write ∈ last.writes, write.relation ≠ .proofs := by
  obtain ⟨added, same, each⟩ := outcome.writes emits
  intro write member
  rw [same, List.nil_append] at member
  obtain ⟨_, unproved⟩ := each write member
  exact unproved

theorem running_unproved {operation : Operation} (calm : operation.isCalm = true)
    (keeps : Keeps (claims.rely id (.running req operation)) Steady)
    (commits : Commits (app settings) claims id (.running req operation) next writes db) :
    ∀ write ∈ writes, write.relation ≠ .proofs := by
  obtain ⟨start, reply, middle, last, appKey, row, outcome, _, _, written, _⟩ := running_commits commits
  have inner : ∀ write ∈ middle.writes, write.relation ≠ .proofs := by
    cases operation with
    | createAgreement input => exact writes_unproved (unproved_createAgreement _ _ _) outcome
    | acceptAgreement agreementId => exact writes_unproved (unproved_acceptAgreement _ _) outcome
    | cancelAgreement agreementId | moveAgreementToFundingRequired agreementId =>
      exact writes_unproved (unproved_transitionAgreement _ _ _) outcome
    | createMilestone agreementId input =>
      obtain ⟨agreement, milestone, existing, read, middleWrites, _⟩ := createMilestoneForAgreement_commits outcome
      rw [middleWrites]
      simp [Write.relation]
    | resolveDispute disputeId input =>
      obtain ⟨dispute, now, agreements, milestones, middleWrites, _⟩ := resolveDisputeForApp_commits keeps outcome
      rw [middleWrites]
      intro write member
      simp only [List.mem_cons, List.mem_append, List.mem_map] at member
      rcases member with rfl | ⟨row, _, rfl⟩ | ⟨row, _, rfl⟩ <;> simp [Write.relation]
    | createProof input | reviewProof proofId decision | createDispute input => cases calm
  intro write member
  rw [written] at member
  rcases List.mem_append.mp member with earlier | last
  · exact inner write earlier
  · rw [List.mem_singleton.mp last]
    simp [Write.relation]

theorem commits_unproved (own : phase.Owned id) (calm : phase.isCalm = true)
    (keeps : Keeps (claims.rely id phase) Steady) (commits : Commits (app settings) claims id phase next writes db) :
    ∀ write ∈ writes, write.relation ≠ .proofs := by
  by_cases running : phase.isRunning = true
  · cases phase with
    | running req operation => exact running_unproved calm keeps commits
    | _ => cases running
  · obtain ⟨program, start, last, runs, _, outcome, later⟩ := commits
    have apart : ∀ {effect : Effect} {db : Db} {write : Write}, Touches id effect db write → write.relation ≠ .proofs := by
      intro effect db write touches same
      have aside := touches.kind.resolve_right (by simp [same])
      cases write with
      | proof row => exact aside
      | _ => cases same
    have emits : program.Emits Unproved := by
      by_cases creating : phase.isCreating = true
      · cases phase with
        | creating req input =>
          have same : req.request = id := own.request _ rfl
          exact (creating_touches runs).mono fun _ _ each => apart (same ▸ each.touches)
        | _ => cases creating
      · exact (body_settles own (by simpa using running) (by simpa using creating) runs).mono
          fun _ _ settled => apart settled.settles.1
    rw [show writes = last.writes from later.writes]
    exact writes_unproved emits outcome

/-- Every commit leaves the reviews fitting. -/
theorem commits_reviews (own : phase.Owned id) (keeps : Keeps (claims.rely id phase) Steady) (before : Linked db)
    (linked : Linked (Storage.view writes db)) (fit : ReviewsFit db)
    (commits : Commits (app settings) claims id phase next writes db) : ReviewsFit (Storage.view writes db) := by
  have steady := commits_steady own commits
  by_cases calm : phase.isCalm = true
  · exact reviewsFit_calm (calm_moves calm) (commits_acts own commits) (commits_fits own keeps commits)
      (commits_unproved own calm keeps commits) before fit
  · cases phase with
    | running req operation =>
      cases operation with
      | createProof input => exact commits_submission steady linked fit commits
      | reviewProof proofId decision => exact commits_review keeps steady before linked fit commits
      | createDispute input => exact commits_disputed steady linked fit commits
      | _ => exact absurd rfl calm
    | _ => exact absurd rfl calm

end Commits

section Runs
variable {settings : Settings}

/-- Fitting reviews on top of the references. -/
def reviews : Assertions Db Query Phase Env :=
  references.extend ReviewsFit (fun _ _ _ _ => True) (fun _ _ _ => True) (fun _ _ => trivial) (fun _ _ _ _ _ _ => trivial)

theorem reviews_preserved : Preserved (app settings) reviews (fun _ _ => True) := by
  apply references_preserved.extend
  case implies => intros; trivial
  case arrive => intros; trivial
  case caught => intros; trivial
  case outside => exact fun _ _ _ _ _ _ _ _ _ _ _ _ _ => ⟨trivial, fun _ _ _ _ => trivial⟩
  case commit =>
    intro state id phase next log writes _ base holds _ known _ commits after
    have own : phase.Owned id := known.1.1.1
    have keeps : Keeps (reviews.rely id phase) Steady :=
      ⟨.refl, fun _ _ _ => .trans, fun _ _ _ relied => relied.1.1.1⟩
    exact ⟨commits_reviews own keeps base.2.1 after.2.1 holds commits, trivial, fun _ _ _ _ _ _ _ => ⟨trivial, trivial⟩⟩

theorem reviews_empty : reviews.holds Db.empty :=
  ⟨references_empty, fun _ member => absurd member (Table.not_mem_empty _)⟩

/-- Whatever runs at the same time, an agreement in `proof_submitted` or `under_review` has one
milestone in review and one open proof, the proof of that milestone, and one in `funded`,
`in_progress` or `rejected` has neither. -/
theorem one_review_in_flight {actions : List Action} {state : State}
    (reached : run (step settings) initial actions = some state) {agreement : Agreement}
    (member : agreement ∈ state.db.agreements) :
    (agreement.status ∈ [AgreementStatus.proofSubmitted, .underReview] →
      ∃ milestone proof, InReview state.db agreement.id = {milestone} ∧ OpenProofs state.db agreement.id = {proof} ∧
        proof.milestoneId = milestone.id) ∧
    (agreement.status ∈ [AgreementStatus.funded, .inProgress, .rejected] →
      InReview state.db agreement.id = ∅ ∧ OpenProofs state.db agreement.id = ∅) := by
  have fits := (Sound.always reviews_preserved reviews_empty actions reached).holds.2 agreement member
  exact ⟨fits.reviewing, fun active => fits.resting (resting_active active)⟩

/-- Two submissions for one milestone: the second has stored its proof when the first commits,
and then finds the agreement moved. -/
def racingSubmissions : List Action :=
  [milestoneRun, [api 7 (.operation (.createProof ⟨⟨0, 0⟩, ⟨1, 0⟩⟩))], transact 7 1, transact 7 1,
    [.start 7, .statement 7 0, .statement 7 0, .statement 7 0], operate 6 (.createProof ⟨⟨0, 0⟩, ⟨1, 0⟩⟩) 12,
    [.statement 7 0, .finish 7]].flatten

def reviewStatuses (state : State) : List AgreementStatus × List (RowId × ProofStatus) :=
  (state.db.agreements.rows.map (·.status), state.db.proofs.rows.map fun row => (row.id, row.status))

theorem racingSubmissions_review : ∃ (final : State) (agreement : Agreement) (milestone : Milestone) (proof : Proof),
    run (step sandbox) initial racingSubmissions = some final ∧
    reviewStatuses final = ([.proofSubmitted], [(⟨6, 0⟩, .submitted)]) ∧
    InReview final.db agreement.id = {milestone} ∧ OpenProofs final.db agreement.id = {proof} ∧
    proof.milestoneId = milestone.id := by
  have observed : (run (step sandbox) initial racingSubmissions).map reviewStatuses =
      some ([.proofSubmitted], [(⟨6, 0⟩, .submitted)]) := by
    decide +kernel
  obtain ⟨final, reached, statuses⟩ := Option.map_eq_some_iff.mp observed
  have listed : AgreementStatus.proofSubmitted ∈ final.db.agreements.rows.map (·.status) := by
    rw [(Prod.mk.inj statuses).1]
    exact List.mem_singleton.mpr rfl
  obtain ⟨agreement, member, status⟩ := List.mem_map.mp listed
  obtain ⟨milestone, proof, alone⟩ := (one_review_in_flight reached member).1 (by simp [status])
  exact ⟨final, agreement, milestone, proof, reached, statuses, alone⟩

end Runs

end PactAgent.Server
