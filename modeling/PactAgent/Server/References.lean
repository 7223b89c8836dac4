import PactAgent.Lifecycle.References
import PactAgent.Server.Approvals
import PactAgent.Server.Custody
import PactAgent.Store.TenantAudit

/-! References between rows in every run of the server: each row names rows of its own app
and of its own agreement, and each transaction is about its escrow. -/

namespace PactAgent.Server
open PactAgent.Common PactAgent.Common.Amounts PactAgent.Foundation PactAgent.Lifecycle PactAgent.Store PactAgent.Escrow
open PactAgent.Foundation.Execution PactAgent.Foundation.ReadCommitted
open PactAgent.Idempotency.Repository PactAgent.Rail.Builder PactAgent.Rail.Node PactAgent.Rail.Script

section Learned
variable {settings : Settings} {id : Nat} {phase next : Phase} {writes : List Write} {db : Db} {known : Db → Prop}

/-- The scope of a new escrow, as it was checked. -/
theorem learns_assertEscrowAgreementScope (appId : String) (input : CreateEscrowInput) (row : Escrow)
    (terms : row.terms = ⟨input.scope appId, input.amount, input.currency, input.rail, input.network⟩) :
    (assertEscrowAgreementScope appId input).Learns Steady Fits (fun _ db => row.Refers db) known := by
  have app : row.appId = appId := congrArg (fun terms => terms.scope.appId) terms
  have under : row.agreementId = input.agreementId := congrArg (fun terms => terms.scope.agreementId) terms
  have scope : row.milestoneId = input.milestoneId := congrArg (fun terms => terms.scope.milestoneId) terms
  have currency : row.currency = input.currency := congrArg EscrowTerms.currency terms
  apply Program.learns_bind learns_findAgreementForApp
  intro found
  apply learns_required
  intro agreement present
  have agreed : ∀ db, FoundAgreement appId input.agreementId found db → input.currency = agreement.currency →
      UnderAgreement db row.appId row.agreementId row.currency := by
    intro db read same
    rw [app, under, currency, same]
    exact read.under present
  cases named : input.milestoneId with
  | some milestoneId =>
    apply Program.learns_bind learns_milestoneOf
    intro milestone
    apply Program.learns_check
    intro _ matched
    apply Program.learns_check
    intro _ within
    apply Program.learns_pure
    rintro db ⟨⟨_, read⟩, inside, same⟩
    refine ⟨agreed db read (assertCurrency_ok matched), ?_⟩
    obtain ⟨_, owner, status, stored⟩ := inside milestone rfl
    unfold EscrowTerms.Fits
    rw [terms, show (input.scope appId).milestoneId = some milestoneId from named]
    exact ⟨_, stored, owner, same.trans (read agreement present).1, within⟩
  | none =>
    apply Program.learns_check
    intro _ matched
    apply Program.learns_check
    intro _ within
    apply Program.learns_pure
    rintro db ⟨_, read⟩
    refine ⟨agreed db read (assertCurrency_ok matched), ?_⟩
    obtain ⟨_, _, now, stored, same⟩ := read agreement present
    have amount : now.amount = agreement.amount := congrArg AgreementTerms.amount same
    unfold EscrowTerms.Fits
    rw [terms, show (input.scope appId).milestoneId = none from named]
    exact ⟨now, stored, amount ▸ within⟩

theorem fits_key (db : Db) (appKey : AppKey) (row : Option (IdempotencyRow Reply)) : Fits db (.idempotencyKey appKey row) :=
  trivial

/-- A new escrow lies in the scope that was checked. -/
theorem learns_reserveEscrowCreation (req : RequestContext) (input : CreateEscrowInput) :
    (reserveEscrowCreation settings req input).Learns Steady Fits (fun _ _ => True) known := by
  apply learns_skip (emits_reserveRequest settings fun db row _ _ _ => fits_key db _ (some row))
  intro _
  apply Program.learns_bind (learns_assertEscrowAgreementScope req.appId input (newEscrow req input) rfl)
  intro milestone
  apply learns_skip
  · unfold findTerminalEscrow
    split
    next => exact emits_read _
    next => exact emits_read _
  intro terminal
  split
  next => exact Program.learns_throw _
  next =>
    apply learns_skip (emits_read _)
    intro active
    split
    next => exact Program.learns_throw _
    next =>
      apply Program.learns_bind
      · apply Program.learns_mapError
        apply learns_insert
        intro db refers _
        exact refers
      intro created
      apply learns_rest
      apply Program.emits_bind
      · apply emits_insert
        intro db free
        trivial
      intro transaction
      exact Program.emits_pure _

theorem learns_operation (req : RequestContext) (operation : Operation) :
    (operation.run req).Learns Steady Fits (fun _ _ => True) known := by
  cases operation with
  | createAgreement input => exact learns_rest (fits_createAgreementForApp _ _)
  | acceptAgreement agreementId => exact learns_rest (fits_acceptAgreement _)
  | cancelAgreement agreementId => exact learns_rest (fits_transitionAgreement _ _)
  | moveAgreementToFundingRequired agreementId => exact learns_rest (fits_transitionAgreement _ _)
  | createMilestone agreementId input => exact learns_createMilestoneForAgreement _ _ _
  | createProof input => exact learns_createProofForApp _ _
  | reviewProof proofId decision => exact learns_reviewProofForApp _ _ _
  | createDispute input => exact learns_createDisputeForApp _ _
  | resolveDispute disputeId input => exact learns_rest (fits_resolveDisputeForApp _ _)

/-- A transaction that works on a stored escrow inserts no row that refers to others. -/
theorem settled_fits {rule : KeyRule} {effect : Effect} {write : Write} (settled : PactAgent.Escrow.Settled rule id effect db write) :
    Fits db write := by
  obtain ⟨⟨touches, replaces⟩, _⟩ := settled
  cases write with
  | milestone row =>
    intro absent
    have lawful := touches.lawful
    simp only [Lawful, absent] at lawful
    have aside := touches.kind.resolve_right (by simp [Write.relation])
    simp [Aside, lawful.2] at aside
  | proof row | review row | dispute row => exact (touches.kind.resolve_right (by simp [Write.relation])).elim
  | escrow row =>
    intro absent
    simp [Replaces, absent] at replaces
  | _ => trivial

theorem body_learns {program : Tx Phase} (own : phase.Owned id) (runs : body settings phase = some program) :
    program.Learns Steady Fits (fun _ _ => True) known := by
  by_cases running : phase.isRunning = true
  · cases phase with
    | running req operation =>
      cases runs
      apply Program.learns_bind (learns_operation req operation)
      intro data
      apply learns_rest
      apply Program.emits_bind (emits_storeIdempotentResponse settings (fun db row _ => fits_key db _ (some row)) _ _)
      intro _
      exact Program.emits_pure _
    | _ => cases running
  · by_cases creating : phase.isCreating = true
    · cases phase with
      | creating req input =>
        cases runs
        exact Program.learns_bind (learns_reserveEscrowCreation req input) fun _ => learns_rest (Program.emits_pure _)
      | _ => cases creating
    · apply learns_rest
      exact (body_settles own (by simpa using running) (by simpa using creating) runs).mono fun _ _ => settled_fits

/-- When a transaction commits, its new rows still refer to what is there. -/
theorem commits_fits {claims : Assertions Db Query Phase Env} (own : phase.Owned id)
    (keeps : Keeps (claims.rely id phase) Steady)
    (commits : Commits (app settings) claims id phase next writes db) : Storage.Chain Fits writes db := by
  obtain ⟨program, start, last, runs, _, outcome, later⟩ := commits
  exact outcome.learnsCommit steady_layered keeps fits_grounded (fun _ _ acts => steady_write acts.lawful)
    (body_acts own runs) (body_learns own runs) later

end Learned

section Transactions
variable {good : Db → Prop} {kept : Db → Db → Prop} {id : Nat} {phase next : Phase} {writes : List Write} {db start : Db}

/-- A stored escrow keeps its terms. -/
def TermsKept (db after : Db) : Prop :=
  ∀ key old new, db.escrows.get key = some old → after.escrows.get key = some new → new.terms = old.terms

theorem termsKept_nil (unwritten : Write.to .escrows writes = []) : TermsKept db (Storage.view writes db) := by
  intro key old new stored there
  rw [stored_escrows.untouched unwritten, stored] at there
  cases there
  rfl

theorem escrow_written {row : Escrow} (written : Write.to .escrows writes = [.escrow row]) :
    (Storage.view writes db).escrows.get row.id = some row := by
  have rows : Write.to .escrows writes = [row].map Write.escrow := written
  exact stored_escrows.get_last rows rfl db

theorem termsKept_put {row : Escrow} (written : Write.to .escrows writes = [.escrow row])
    (same : ∀ old, db.escrows.get row.id = some old → row.terms = old.terms) : TermsKept db (Storage.view writes db) := by
  have rows : Write.to .escrows writes = [row].map Write.escrow := written
  intro key old new stored there
  by_cases own : row.id = key
  · subst own
    rw [escrow_written written] at there
    cases there
    exact same old stored
  · rw [stored_escrows.get_of_ne rows (fun row member => List.mem_singleton.mp member ▸ own) db, stored] at there
    cases there
    rfl

theorem termsKept_over {row old : Escrow} {key : RowId} (written : Write.to .escrows writes = [.escrow row])
    (stored : db.escrows.get key = some old) (own : row.id = old.id) (same : row.terms = old.terms) :
    TermsKept db (Storage.view writes db) := by
  apply termsKept_put written
  intro found there
  have keyed : old.id = key := Table.key_of_get stored
  rw [own, keyed, stored] at there
  cases there
  exact same

theorem entry_terms (entry : Entry good kept start db phase next (Write.to .escrows writes)
    (Write.to .transactions writes)) : TermsKept db (Storage.view writes db) := by
  generalize escrowsIs : Write.to .escrows writes = escrows at entry
  generalize Write.to .transactions writes = transactions at entry
  cases entry with
  | @created req input index absent missing =>
    apply termsKept_put escrowsIs
    intro old stored
    rw [show (newEscrow req input).id = ⟨req.request, 0⟩ from rfl, absent] at stored
    cases stored
  | locked valid fresh owner stored booked => exact termsKept_over escrowsIs stored rfl rfl
  | @discarded req reserved error _ _ escrow transaction =>
    cases escrow with
    | missed => exact termsKept_nil escrowsIs
    | @row old met stored =>
      have after : (Storage.view writes db).escrows = db.escrows.remove old.id := by
        rw [stored_escrows.others, escrowsIs]
        rfl
      intro key before new found there
      rw [after] at there
      have member := (Table.mem_remove.mp (Table.mem_of_get there)).1
      have same : db.escrows.get key = some new := Table.key_of_get there ▸ Table.get_of_mem member
      rw [found] at same
      cases same
      rfl
  | fundedAlready => exact termsKept_nil escrowsIs
  | funded seen owner unfunded verified moved booked =>
    cases moved with
    | stays => exact termsKept_nil escrowsIs
    | moves valid status owner stored => exact termsKept_over escrowsIs stored rfl rfl
  | reserved funded owner stored => exact termsKept_over escrowsIs stored rfl rfl
  | failed pending owner stored booked => exact termsKept_over escrowsIs stored rfl rfl
  | @settled req operation reserved result first reply old nextStatus transactions nextIs pending owner stored booked =>
    apply termsKept_over escrowsIs stored (escrowSettledBy_id ..)
    cases operation <;> rfl
  | reconciled read moved booked =>
    cases moved with
    | stays => exact termsKept_nil escrowsIs
    | moves different valid status owner stored => exact termsKept_over escrowsIs stored rfl rfl
  | aside => exact termsKept_nil escrowsIs

/-- What a transaction is about. -/
structure Subject where
  escrowId : Option RowId
  appId : String
  scope : TransactionScope

def subject (row : Transaction) : Subject := ⟨row.escrowId, row.appId, row.scope⟩

/-- Every transaction was there before about the same, or is new and about a stored escrow. -/
def SubjectsKept (db after : Db) : Prop :=
  ∀ row ∈ after.transactions, (∃ old ∈ db.transactions, subject row = subject old) ∨
    ∃ escrow, after.escrows.get escrow.id = some escrow ∧ row.Concerns escrow

theorem subjectsKept_nil (unwritten : Write.to .transactions writes = []) : SubjectsKept db (Storage.view writes db) := by
  intro row member
  rw [stored_transactions.untouched unwritten] at member
  exact .inl ⟨row, member, rfl⟩

theorem subjectsKept_put {new : Transaction} (written : Write.to .transactions writes = [.transaction new])
    (about : (∃ old ∈ db.transactions, subject new = subject old) ∨
      ∃ escrow, (Storage.view writes db).escrows.get escrow.id = some escrow ∧ new.Concerns escrow) :
    SubjectsKept db (Storage.view writes db) := by
  intro row member
  rcases (stored_transactions.mem_put written).mp member with rfl | ⟨before, _⟩
  · exact about
  · exact .inl ⟨row, before, rfl⟩

theorem subjectsKept_booked {appId : String} {key : RowId} {change : Nat → Transaction → Transaction}
    (same : ∀ now row, subject (change now row) = subject row)
    (booked : Booked good kept start appId key change db (Write.to .transactions writes)) :
    SubjectsKept db (Storage.view writes db) := by
  generalize written : Write.to .transactions writes = transactions at booked
  cases booked with
  | @row old now owner stored =>
    exact subjectsKept_put written (.inl ⟨old, Table.mem_of_get stored, same now old⟩)
  | missed => exact subjectsKept_nil written

theorem concerns_new (key : RowId) (escrow : Escrow) (type : TransactionType) :
    (newTransaction key escrow type).Concerns escrow :=
  ⟨rfl, rfl, rfl⟩

theorem entry_subjects (entry : Entry good kept start db phase next (Write.to .escrows writes)
    (Write.to .transactions writes)) : SubjectsKept db (Storage.view writes db) := by
  generalize escrowsIs : Write.to .escrows writes = escrows at entry
  generalize transactionsIs : Write.to .transactions writes = transactions at entry
  cases entry with
  | created => exact subjectsKept_put transactionsIs (.inr ⟨_, escrow_written escrowsIs, concerns_new ..⟩)
  | locked valid fresh owner stored booked => exact subjectsKept_booked (by intros; rfl) (transactionsIs ▸ booked)
  | @discarded req reserved error _ _ escrow transaction =>
    cases transaction with
    | missed => exact subjectsKept_nil transactionsIs
    | @row old met stored =>
      intro row member
      rw [stored_transactions.others, transactionsIs] at member
      exact .inl ⟨row, (Table.mem_remove.mp member).1, rfl⟩
  | fundedAlready => exact subjectsKept_nil transactionsIs
  | funded seen owner unfunded verified moved booked =>
    cases booked with
    | none => exact subjectsKept_nil transactionsIs
    | lock belongs type seen booked => exact subjectsKept_booked (by intros; rfl) (transactionsIs ▸ booked)
  | reserved => exact subjectsKept_put transactionsIs (.inr ⟨_, escrow_written escrowsIs, concerns_new ..⟩)
  | failed pending owner stored booked => exact subjectsKept_booked (by intros; rfl) (transactionsIs ▸ booked)
  | settled nextIs pending owner stored booked => exact subjectsKept_booked (by intros; rfl) (transactionsIs ▸ booked)
  | reconciled read moved booked => exact subjectsKept_booked (by intros; rfl) (transactionsIs ▸ booked)
  | aside => exact subjectsKept_nil transactionsIs

/-- The escrow of a transaction is there. -/
theorem custody_escrow (holds : custody.holds db) {row : Transaction} (member : row ∈ db.transactions) :
    ∃ escrow : Escrow, db.escrows.get escrow.id = some escrow ∧ row.escrowId = some escrow.id := by
  by_cases lock : row.type = .lock
  · obtain ⟨_, escrow, key, stored, locks⟩ := holds.2.owner holds.1.typed member lock
    exact ⟨escrow, key ▸ stored, locks.belongs⟩
  · obtain ⟨escrow, backs⟩ := holds.1.backed row member lock
    exact ⟨escrow, backs.stored, backs.belongs⟩

theorem Concerns.moved {row old : Transaction} {escrow new : Escrow} (concerns : old.Concerns escrow)
    (same : subject row = subject old) (key : new.id = escrow.id) (terms : new.terms = escrow.terms) :
    row.Concerns new := by
  obtain ⟨belongs, app, scope⟩ := concerns
  have sameScope : new.transactionScope = escrow.transactionScope := by
    obtain ⟨scopes, amount, currency, rail, network⟩ := EscrowTerms.mk.inj terms
    obtain ⟨_, agreement, milestone⟩ := Scope.mk.inj scopes
    unfold Escrow.transactionScope
    rw [agreement, milestone, rail, network, amount, currency]
  refine ⟨?_, ?_, ?_⟩
  · rw [key, ← belongs]
    exact congrArg Subject.escrowId same
  · rw [show new.appId = escrow.appId from congrArg (fun terms => terms.scope.appId) terms, ← app]
    exact congrArg Subject.appId same
  · rw [sameScope, ← scope]
    exact congrArg Subject.scope same

theorem concerned_kept (terms : TermsKept db (Storage.view writes db)) (subjects : SubjectsKept db (Storage.view writes db))
    (holds : custody.holds (Storage.view writes db)) (concerned : Concerned db) : Concerned (Storage.view writes db) := by
  intro row member
  rcases subjects row member with ⟨old, oldIn, same⟩ | fresh
  · obtain ⟨escrow, stored, concerns⟩ := concerned old oldIn
    obtain ⟨new, there, belongs⟩ := custody_escrow holds member
    have named : row.escrowId = old.escrowId := congrArg Subject.escrowId same
    have key : new.id = escrow.id := by
      rw [named, concerns.belongs] at belongs
      exact (Option.some.inj belongs).symm
    refine ⟨new, there, Concerns.moved concerns same key (terms escrow.id escrow new stored (key ▸ there))⟩
  · exact fresh

end Transactions

section Runs
variable {settings : Settings}

/-- References on top of custody. -/
def references : Assertions Db Query Phase Env :=
  custody.extend (fun db => Linked db ∧ Concerned db) (fun _ _ _ _ => True) (fun _ _ _ => True) (fun _ _ => trivial)
    (fun _ _ _ _ _ _ => trivial)

theorem references_preserved : Preserved (app settings) references (fun _ _ => True) := by
  apply custody_preserved.extend
  case implies => intros; trivial
  case arrive => intros; trivial
  case caught => intros; trivial
  case outside => exact fun _ _ _ _ _ _ _ _ _ _ _ _ _ => ⟨trivial, fun _ _ _ _ => trivial⟩
  case commit =>
    intro state id phase next log writes _ base holds _ known _ commits after
    obtain ⟨start, _, _, entry⟩ := commits_entry keeping_keeps (fun _ _ keeping => keeping.1) commits.below
    have own : phase.Owned id := known.1.1
    have keeps : Keeps (references.rely id phase) Steady :=
      ⟨.refl, fun _ _ _ => .trans, fun _ _ _ relied => relied.1.1⟩
    refine ⟨⟨?_, ?_⟩, trivial, fun _ _ _ _ _ _ _ => ⟨trivial, trivial⟩⟩
    · exact linked_view (commits_chain own commits) (commits_fits own keeps commits) holds.1
    · exact concerned_kept (entry_terms entry) (entry_subjects entry) after holds.2

theorem references_empty : references.holds Db.empty :=
  ⟨custody_empty, linked_empty, fun _ member => absurd member (Table.not_mem_empty _)⟩

theorem references_reached {actions : List Action} {state : State}
    (reached : run (step settings) initial actions = some state) : Linked state.db ∧ Concerned state.db :=
  (Sound.always references_preserved references_empty actions reached).holds.2

def rowCounts (state : State) : List Nat :=
  [state.db.milestones.rows.length, state.db.proofs.rows.length, state.db.reviews.rows.length,
    state.db.escrows.rows.length, state.db.transactions.rows.length]

end Runs

end PactAgent.Server
