import PactAgent.Foundation.Knowledge
import PactAgent.Server.Custody
import PactAgent.Server.Samples

/-! The outbox of the chain: in the transaction that records the hash of a transaction, a job
is enqueued that reconciles it. -/

namespace PactAgent.Server
open PactAgent.Common PactAgent.Foundation PactAgent.Lifecycle PactAgent.Store PactAgent.Escrow
open PactAgent.Foundation.Execution PactAgent.Foundation.ReadCommitted
open PactAgent.Idempotency.Repository PactAgent.Rail.Builder PactAgent.Rail.Node PactAgent.Rail.Script

section Jobs
variable {request : Nat} {writes : List Write} {db : Db}

/-- Jobs stay as they were enqueued; they are worked on elsewhere. -/
def JobsKept (before after : Db) : Prop := ∀ job ∈ before.jobs, job ∈ after.jobs

theorem JobsKept.trans {first second third : Db} (earlier : JobsKept first second) (later : JobsKept second third) :
    JobsKept first third :=
  fun job member => later job (earlier job member)

theorem jobsKept_write {write : Write} (lawful : Lawful request db write) : JobsKept db (applyWrite write db) := by
  intro job member
  cases write with
  | job row =>
    refine Table.mem_put.mpr (.inr ⟨member, ?_⟩)
    intro same
    have stored : db.jobs.get row.id = some job := (show job.id = row.id from same) ▸ Table.get_of_mem member
    simp only [Lawful, stored, RowRule] at lawful
  | _ => exact member

theorem jobsKept_view (chain : Storage.Chain (Lawful request) writes db) : JobsKept db (Storage.view writes db) := by
  induction writes generalizing db with
  | nil => exact fun _ member => member
  | cons write writes ih => exact (jobsKept_write chain.1).trans (ih chain.2)

/-- A written job is there afterwards. -/
theorem job_written (chain : Storage.Chain (Lawful request) writes db) {job : Job} (member : Write.job job ∈ writes) :
    job ∈ (Storage.view writes db).jobs := by
  induction writes generalizing db with
  | nil => cases member
  | cons write writes ih =>
    rcases List.mem_cons.mp member with rfl | later
    · exact jobsKept_view chain.2 job (Table.mem_put.mpr (.inl rfl))
    · exact ih chain.2 later

theorem mem_view_jobs {job : Job} (member : job ∈ (Storage.view writes db).jobs) :
    job ∈ db.jobs ∨ Write.job job ∈ writes := by
  induction writes generalizing db with
  | nil => exact .inl member
  | cons write writes ih =>
    rcases ih member with before | written
    · cases write with
      | job row =>
        rcases Table.mem_put.mp before with rfl | ⟨old, _⟩
        · exact .inr List.mem_cons_self
        · exact .inl old
      | _ => exact .inl before
    · exact .inr (List.mem_cons_of_mem _ written)

/-- The job of a transaction is under its key. -/
def JobsKeyed (db : Db) : Prop := ∀ job ∈ db.jobs, job.dedupeKey = some job.transactionId

theorem keyed_view (chain : Storage.Chain (Lawful request) writes db) (keyed : JobsKeyed db) : JobsKeyed (Storage.view writes db) := by
  apply chain.invariant _ keyed
  intro db write lawful keyed
  cases write with
  | job row =>
    intro job member
    rcases Table.mem_put.mp member with rfl | ⟨before, _⟩
    · cases stored : db.jobs.get job.id with
      | none =>
        simp only [Lawful, stored, RowRule] at lawful
        exact lawful.2.2
      | some old => simp only [Lawful, stored, RowRule] at lawful
    · exact keyed job before
  | _ => exact keyed

end Jobs

section Enqueueing
variable {rely : List Query → Db → Db → Prop} {good : Db → Prop} {first second : Point Db Write Query}

/-- After it has been asked for on the chain, a job is there or is written. -/
theorem enqueue_job {jobId transactionId : RowId} {escrow : Escrow} (ckb : escrow.rail = .ckb)
    (outcome : Outcome rely good (enqueueCkbReconciliation jobId escrow transactionId) first () second) :
    ∃ job : Job, job.dedupeKey = some transactionId ∧
      ((∃ here, good here ∧ job ∈ here.jobs) ∨ Write.job job ∈ second.writes) := by
  unfold enqueueCkbReconciliation at outcome
  rw [if_neg (not_not.mpr ckb)] at outcome
  obtain ⟨_, middle, enqueued, rest⟩ := outcome_bind.mp outcome
  obtain ⟨_, rfl⟩ := rest
  obtain ⟨existing, read, reading, rest⟩ := outcome_bind.mp enqueued
  obtain ⟨here, later, existingIs, readIs⟩ := outcome_read.mp reading
  cases existing with
  | some job =>
    obtain ⟨_, rfl⟩ := rest
    obtain ⟨member, passed⟩ := Table.first_some existingIs.symm
    simp only [Bool.and_eq_true, decide_eq_true_eq] at passed
    refine ⟨job, passed.1, ?_⟩
    rcases mem_view_jobs member with stored | written
    · exact .inl ⟨here.db, later.good, stored⟩
    · rw [readIs, Point.record]
      exact .inr (List.mem_append_left _ written)
  | none =>
    obtain ⟨there, _, _, _, written⟩ := outcome_insert rest
    rw [written, Point.record]
    exact ⟨_, rfl, .inr (List.mem_append_right _ (List.mem_singleton_self _))⟩

end Enqueueing

section Commits
variable {settings : Settings} {claims : Assertions Db Query Phase Env} {id : Nat} {phase next : Phase}
variable {writes : List Write} {db start : Db}

/-- Every transaction that was sent to the chain has its job. -/
def Enqueued (db : Db) : Prop :=
  ∀ row ∈ db.transactions, row.rail = .ckb → row.txHash ≠ none → ∃ job ∈ db.jobs, job.dedupeKey = some row.id

/-- What others keep for a process, and the jobs. -/
def Watching (id : Nat) (before after : Db) : Prop := Keeping id before after ∧ JobsKept before after

/-- The transaction that a finalization records. -/
inductive Finalizes : Phase → RowId → Prop
  | creation {req : RequestContext} {reserved : ReservedEscrowCreation} {result : EscrowAdapterResult}
      {first : Option Failure} : Finalizes (.finalizingCreation req reserved result first) reserved.transactionId
  | settlement {req : RequestContext} {operation : SettlementOperation} {reserved : ReservedEscrowSettlement}
      {result : EscrowAdapterResult} {first : Option Failure} :
      Finalizes (.finalizingSettlement req operation reserved result first) reserved.transactionId

/-- A finalization that commits has a job for its transaction, when its escrow is on the chain. -/
theorem finalized_job (own : phase.Owned id) (watches : Keeps (claims.rely id phase) (Watching id))
    (commits : Commits (app settings) claims id phase next writes db) {transactionId : RowId}
    (finalizes : Finalizes phase transactionId) {row : Escrow} (written : Write.to .escrows writes = [.escrow row])
    (ckb : row.rail = .ckb) : ∃ job ∈ (Storage.view writes db).jobs, job.dedupeKey = some transactionId := by
  have chain := commits_chain own commits
  obtain ⟨program, start, last, runs, initially, outcome, later⟩ := commits
  have strict := outcome.toward watches (later.keeps watches)
  have ends : Write.to .escrows last.writes = [.escrow row] := by
    rw [← written]
    exact congrArg (Write.to .escrows) later.writes.symm
  have done : ∀ {jobId : RowId} {escrow : Escrow} {first second : Point Db Write Query},
      Outcome (claims.rely id phase) (fun here => claims.holds here ∧ Watching id here db)
        (enqueueCkbReconciliation jobId escrow transactionId) first () second → second.writes <+: last.writes →
      escrow.rail = .ckb → ∃ job ∈ (Storage.view writes db).jobs, job.dedupeKey = some transactionId := by
    intro jobId escrow first second enqueues within onChain
    obtain ⟨job, key, ⟨here, good, member⟩ | member⟩ := enqueue_job onChain enqueues
    · exact ⟨job, jobsKept_view chain job (good.2.2 job member), key⟩
    · refine ⟨job, job_written chain ?_, key⟩
      rw [show writes = last.writes from later.writes]
      exact within.subset member
  cases finalizes with
  | creation =>
    cases runs
    obtain ⟨reply, middle, outcome, rfl, rfl⟩ := outcome_bind.mp strict
    obtain ⟨old, first, second, _, _, _, escrows, _, enqueues, follows, _⟩ :=
      finalizeEscrowCreation_commits watches outcome
    rw [escrows] at ends
    cases ends
    exact done enqueues follows.writes ckb
  | settlement =>
    cases runs
    obtain ⟨reply, middle, outcome, rfl, rfl⟩ := outcome_bind.mp strict
    obtain ⟨old, nextStatus, first, second, third, _, _, _, escrows, _, enqueues, follows, _⟩ :=
      finalizeSuccessfulEscrowSettlement_commits watches (fun _ _ watching => watching.1.1) outcome
    rw [escrows] at ends
    cases ends
    exact done enqueues follows.writes ckb

theorem enqueued_nil (chain : Storage.Chain (Lawful id) writes db) (enqueued : Enqueued db)
    (unwritten : Write.to .transactions writes = []) : Enqueued (Storage.view writes db) := by
  intro row member ckb hash
  rw [stored_transactions.untouched unwritten] at member
  obtain ⟨job, there, key⟩ := enqueued row member ckb hash
  exact ⟨job, jobsKept_view chain job there, key⟩

theorem enqueued_put (chain : Storage.Chain (Lawful id) writes db) (enqueued : Enqueued db) {new : Transaction}
    (written : Write.to .transactions writes = [.transaction new])
    (fresh : new.rail = .ckb → new.txHash ≠ none → ∃ job ∈ (Storage.view writes db).jobs, job.dedupeKey = some new.id) :
    Enqueued (Storage.view writes db) := by
  intro row member ckb hash
  rcases (stored_transactions.mem_put written).mp member with rfl | ⟨before, _⟩
  · exact fresh ckb hash
  · obtain ⟨job, there, key⟩ := enqueued row before ckb hash
    exact ⟨job, jobsKept_view chain job there, key⟩

/-- An update of a transaction that was sent already, or is not sent by it. -/
theorem enqueued_over (chain : Storage.Chain (Lawful id) writes db) (enqueued : Enqueued db) {key : RowId}
    {new old : Transaction} (written : Write.to .transactions writes = [.transaction new])
    (stored : db.transactions.get key = some old) (own : new.id = old.id) (rail : new.rail = old.rail)
    (hash : new.txHash ≠ none → old.txHash ≠ none) : Enqueued (Storage.view writes db) := by
  apply enqueued_put chain enqueued written
  intro ckb sent
  obtain ⟨job, there, dedupe⟩ := enqueued old (Table.mem_of_get stored) (rail.symm.trans ckb) (hash sent)
  exact ⟨job, jobsKept_view chain job there, own ▸ dedupe⟩

/-- Every commit leaves a job for each transaction that was sent. -/
theorem entry_enqueued (own : phase.Owned id) (initially : Initially custody id phase start)
    (holds : custody.holds db) (knows : Knows id phase db) (chain : Storage.Chain (Lawful id) writes db)
    (finalized : ∀ transactionId, Finalizes phase transactionId → ∀ row, Write.to .escrows writes = [.escrow row] →
      row.rail = .ckb → ∃ job ∈ (Storage.view writes db).jobs, job.dedupeKey = some transactionId)
    (entry : Entry custody.holds (Keeping id) start db phase next (Write.to .escrows writes)
      (Write.to .transactions writes)) (enqueued : Enqueued db) : Enqueued (Storage.view writes db) := by
  generalize escrowsIs : Write.to .escrows writes = escrows at entry
  generalize transactionsIs : Write.to .transactions writes = transactions at entry
  cases entry with
  | created | reserved =>
    apply enqueued_put chain enqueued transactionsIs
    intro _ sent
    exact absurd rfl sent
  | @locked req reserved result first reply old _ valid fresh owner stored booked =>
    cases booked with
    | missed => exact enqueued_nil chain enqueued transactionsIs
    | @row row now _ found =>
      apply enqueued_put chain enqueued transactionsIs
      intro ckb _
      have key : row.id = reserved.transactionId := Table.key_of_get found
      have rows := knows.creation reserved rfl
      have slot := holds.2.slots id
      rw [← rows.key, stored, ← own.creation reserved rfl, found] at slot
      cases slot with
      | taken locks =>
        obtain ⟨job, there, dedupe⟩ := finalized _ .creation _ escrowsIs (locks.rail.symm.trans ckb)
        exact ⟨job, there, by rw [dedupe, ← key]; rfl⟩
  | @discarded req reserved error _ _ escrow transaction =>
    cases transaction with
    | missed => exact enqueued_nil chain enqueued transactionsIs
    | @row old met stored =>
      intro row member ckb hash
      rw [stored_transactions.others, transactionsIs] at member
      obtain ⟨job, there, dedupe⟩ := enqueued row (Table.mem_remove.mp member).1 ckb hash
      exact ⟨job, jobsKept_view chain job there, dedupe⟩
  | fundedAlready => exact enqueued_nil chain enqueued transactionsIs
  | funded seen owner unfunded verified moved booked =>
    rcases fundingBooked_row initially knows holds (transactionsIs ▸ booked) with none |
      ⟨now, old, escrow, written, stored, some, _⟩
    · exact enqueued_nil chain enqueued none
    · exact enqueued_over chain enqueued written stored rfl rfl fun _ => some
  | failed pending owner stored booked =>
    cases booked with
    | missed => exact enqueued_nil chain enqueued transactionsIs
    | row _ found => exact enqueued_over chain enqueued transactionsIs found rfl rfl fun sent => sent
  | @settled req operation reserved result first reply old nextStatus _ nextIs pending owner stored booked =>
    cases booked with
    | missed => exact enqueued_nil chain enqueued transactionsIs
    | @row row now _ found =>
      apply enqueued_put chain enqueued transactionsIs
      intro ckb _
      have key : row.id = reserved.transactionId := Table.key_of_get found
      have mine := knows.settlement operation reserved rfl
      rw [← own.settlement reserved rfl, found] at mine
      obtain ⟨_, standing, there, held, _⟩ := knows.subject reserved.pending rfl
      rw [stored] at there
      cases there
      have railRow : row.rail = reserved.pending.rail := congrArg Transaction.rail (Option.some.inj mine)
      have railOld : old.rail = reserved.pending.rail := congrArg EscrowTerms.rail held
      have railNew : (escrowSettledBy operation nextStatus result.txHash old).rail = old.rail := by
        cases operation <;> rfl
      obtain ⟨job, inside, dedupe⟩ := finalized _ .settlement _ escrowsIs
        (railNew.trans (railOld.trans (railRow.symm.trans ckb)))
      exact ⟨job, inside, by rw [dedupe, ← key]; rfl⟩
  | reconciled read moved booked =>
    cases booked with
    | missed => exact enqueued_nil chain enqueued transactionsIs
    | row _ found => exact enqueued_over chain enqueued transactionsIs found rfl rfl fun sent => sent
  | aside => exact enqueued_nil chain enqueued transactionsIs

end Commits

section Runs
variable {settings : Settings}

/-- The outbox, on top of custody. -/
def outbox : Assertions Db Query Phase Env :=
  custody.extend (fun db => Enqueued db ∧ JobsKeyed db) (fun _ _ _ _ => True) (fun _ => JobsKept) (fun _ _ _ member => member)
    (fun _ _ _ _ earlier later => earlier.trans later)

theorem outbox_preserved : Preserved (app settings) outbox (fun _ _ => True) := by
  apply custody_preserved.extend
  case implies => intros; trivial
  case arrive => intros; trivial
  case caught => intros; trivial
  case outside => exact fun _ _ _ _ _ _ _ _ _ _ _ _ _ => ⟨trivial, fun _ _ _ _ => trivial⟩
  case commit =>
    intro state id phase next log writes _ base holds _ known _ commits _
    obtain ⟨start, initially, _, entry⟩ := commits_entry keeping_keeps (fun _ _ keeping => keeping.1) commits.below
    have own : phase.Owned id := known.1.1
    have chain := commits_chain own commits
    have watches : Keeps (outbox.rely id phase) (Watching id) :=
      ⟨fun db => ⟨⟨.refl db, .refl id db⟩, fun _ member => member⟩,
        fun _ _ _ earlier later => ⟨⟨earlier.1.1.trans later.1.1, earlier.1.2.trans later.1.2⟩, earlier.2.trans later.2⟩,
        fun _ _ _ relied => relied⟩
    have finalized := fun transactionId finalizes row written ckb =>
      @finalized_job settings outbox id phase next writes state.db own watches commits transactionId finalizes row written ckb
    refine ⟨⟨?_, keyed_view chain holds.2⟩, trivial, fun _ _ _ _ _ _ _ => ⟨trivial, jobsKept_view chain⟩⟩
    exact entry_enqueued own initially base known.2 chain finalized entry holds.1

theorem outbox_empty : outbox.holds Db.empty :=
  ⟨custody_empty, fun _ member => absurd member (Table.not_mem_empty _), fun _ member => absurd member (Table.not_mem_empty _)⟩

/-- The transactions of a state that were sent to the chain, by the hashes they have. -/
def sentView (state : State) : List (RowId × Rail × Option String) :=
  state.db.transactions.rows.map fun row => (row.id, row.rail, row.txHash)

theorem opening_sent : (run (step testnet) initial opening).map sentView = some [(⟨4, 1⟩, .ckb, some lockHash)] := by
  rw [quickStep_eq]
  decide +kernel

end Runs

end PactAgent.Server
