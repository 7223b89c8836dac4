import PactAgent.Store.Repository

/-! What the statements of the repositories do to the tables: the outcome of each
kind of statement, the tables that a list of writes leaves alone, and the rows that
a lock carries unchanged to the end of a transaction. -/

namespace PactAgent.Store
open PactAgent.Foundation PactAgent.Common PactAgent.Lifecycle PactAgent.Idempotency.Repository

inductive Relation where
  | agreements
  | milestones
  | proofs
  | reviews
  | disputes
  | escrows
  | transactions
  | jobs
  | idempotencyKeys
  deriving DecidableEq

/-- The table that a write changes. -/
def Write.relation : Write → Relation
  | .agreement _ | .lockAgreement _ => .agreements
  | .milestone _ => .milestones
  | .proof _ => .proofs
  | .review _ => .reviews
  | .dispute _ => .disputes
  | .escrow _ | .deleteEscrow _ => .escrows
  | .transaction _ | .deleteTransaction _ => .transactions
  | .job _ => .jobs
  | .idempotencyKey _ _ => .idempotencyKeys

section Views

/-- A table depends only on the writes to it. -/
theorem view_field_filter {α : Type} (field : Db → α) (relation : Relation)
    (own : ∀ write db, write.relation ≠ relation → field (applyWrite write db) = field db)
    (local' : ∀ write first second, field first = field second →
      field (applyWrite write first) = field (applyWrite write second))
    (writes : List Write) (first second : Db) (same : field first = field second) :
    field (Storage.view writes first) =
      field (Storage.view (writes.filter fun write => write.relation = relation) second) := by
  induction writes generalizing first second with
  | nil => exact same
  | cons write writes ih =>
    by_cases mine : write.relation = relation
    · rw [List.filter_cons_of_pos (by simpa using mine)]
      exact ih _ _ (local' write first second same)
    · rw [List.filter_cons_of_neg (by simpa using mine)]
      exact ih _ _ ((own write first mine).trans same)

/-- The writes to one table. -/
def Write.to (relation : Relation) (writes : List Write) : List Write :=
  writes.filter fun write => write.relation = relation

theorem Write.to_append (relation : Relation) (first second : List Write) :
    Write.to relation (first ++ second) = Write.to relation first ++ Write.to relation second :=
  List.filter_append ..

@[simp] theorem Write.to_nil (relation : Relation) : Write.to relation [] = [] := rfl

@[simp] theorem Write.to_cons (relation : Relation) (write : Write) (writes : List Write) :
    Write.to relation (write :: writes) =
      if write.relation = relation then write :: Write.to relation writes else Write.to relation writes := by
  simp [Write.to, List.filter_cons]

theorem Write.to_eq_nil {relation : Relation} {writes : List Write}
    (others : ∀ write ∈ writes, write.relation ≠ relation) : Write.to relation writes = [] :=
  List.filter_eq_nil_iff.mpr fun write member => by simpa using others write member

variable {writes : List Write} {db : Db}

theorem view_escrows : (Storage.view writes db).escrows = (Storage.view (Write.to .escrows writes) db).escrows := by
  refine view_field_filter Db.escrows .escrows ?_ ?_ writes db db rfl
  · intro write db other
    cases write <;> first | rfl | exact absurd rfl other
  · intro write first second same
    cases write <;> simp only [applyWrite, same]

theorem view_transactions :
    (Storage.view writes db).transactions = (Storage.view (Write.to .transactions writes) db).transactions := by
  refine view_field_filter Db.transactions .transactions ?_ ?_ writes db db rfl
  · intro write db other
    cases write <;> first | rfl | exact absurd rfl other
  · intro write first second same
    cases write <;> simp only [applyWrite, same]

theorem view_milestones :
    (Storage.view writes db).milestones = (Storage.view (Write.to .milestones writes) db).milestones := by
  refine view_field_filter Db.milestones .milestones ?_ ?_ writes db db rfl
  · intro write db other
    cases write <;> first | rfl | exact absurd rfl other
  · intro write first second same
    cases write <;> simp only [applyWrite, same]

theorem view_proofs : (Storage.view writes db).proofs = (Storage.view (Write.to .proofs writes) db).proofs := by
  refine view_field_filter Db.proofs .proofs ?_ ?_ writes db db rfl
  · intro write db other
    cases write <;> first | rfl | exact absurd rfl other
  · intro write first second same
    cases write <;> simp only [applyWrite, same]

theorem view_reviews : (Storage.view writes db).reviews = (Storage.view (Write.to .reviews writes) db).reviews := by
  refine view_field_filter Db.reviews .reviews ?_ ?_ writes db db rfl
  · intro write db other
    cases write <;> first | rfl | exact absurd rfl other
  · intro write first second same
    cases write <;> simp only [applyWrite, same]

theorem view_disputes :
    (Storage.view writes db).disputes = (Storage.view (Write.to .disputes writes) db).disputes := by
  refine view_field_filter Db.disputes .disputes ?_ ?_ writes db db rfl
  · intro write db other
    cases write <;> first | rfl | exact absurd rfl other
  · intro write first second same
    cases write <;> simp only [applyWrite, same]

end Views

section Outcomes
variable {rely : List Query → Db → Db → Prop} {good : Db → Prop} {Row Answer : Type}
variable {before after : Point Db Write Query} {query : Query}

theorem outcome_read {read : Db → Answer} {result : Answer} :
    Outcome rely good (readStatement query read) before result after ↔
      ∃ here, Later rely good before here ∧ result = read here.view ∧ after = here.record query [] := by
  unfold readStatement
  rw [outcome_statement]
  constructor
  · intro outcome
    obtain ⟨here, now, writes, later, executed, ended⟩ := outcome
    cases executed
    exact ⟨here, later, rfl, ended⟩
  · intro outcome
    obtain ⟨here, later, rfl, ended⟩ := outcome
    exact ⟨here, 0, [], later, rfl, ended⟩

theorem outcome_readOrThrow {read : Db → Option Answer} {result : Answer}
    (outcome : Outcome rely good (readOrThrow query read) before result after) :
    ∃ here, Later rely good before here ∧ read here.view = some result ∧ after = here.record query [] := by
  obtain ⟨here, now, writes, later, executed, ended⟩ := outcome_statement.mp outcome
  split at executed
  next found =>
    cases executed
    exact ⟨here, later, found, ended⟩
  next => cases executed

/-- An update changed the one row it found, or no row. -/
theorem outcome_update {find : Db → Option Row} {condition : Row → Bool} {change : Nat → Row → Row}
    {clashes : Row → Db → Bool} {write : Row → Write} {count : Nat}
    (outcome : Outcome rely good (updateStatement query find condition change clashes write) before count after) :
    ∃ here, Later rely good before here ∧
      ((∃ row now, find here.view = some row ∧ condition row = true ∧ count = 1 ∧
          clashes (change now row) here.view = false ∧ after = here.record query [write (change now row)]) ∨
        (count = 0 ∧ after = here.record query [])) := by
  obtain ⟨here, now, writes, later, executed, ended⟩ := outcome_statement.mp outcome
  refine ⟨here, later, ?_⟩
  split at executed
  next row found =>
    split at executed
    next met =>
      split at executed
      next => cases executed
      next free =>
        cases executed
        exact .inl ⟨row, now, found, met, rfl, by simpa using free, ended⟩
    next =>
      cases executed
      exact .inr ⟨rfl, ended⟩
  next =>
    cases executed
    exact .inr ⟨rfl, ended⟩

theorem outcome_insert {row result : Row} {clashes : Row → Db → Bool} {write : Row → Write}
    (outcome : Outcome rely good (insertStatement query row clashes write) before result after) :
    ∃ here, Later rely good before here ∧ result = row ∧ clashes row here.view = false ∧
      after = here.record query [write row] := by
  obtain ⟨here, now, writes, later, executed, ended⟩ := outcome_statement.mp outcome
  split at executed
  next => cases executed
  next free =>
    cases executed
    exact ⟨here, later, rfl, by simpa using free, ended⟩

theorem outcome_createMilestone {row result : Milestone}
    (outcome : Outcome rely good (createMilestone row) before result after) :
    ∃ here, Later rely good before here ∧ result = row ∧ membershipFrozen row here.view = false ∧
      milestoneClashes row here.view = false ∧ after = here.record .createMilestone [.milestone row] := by
  obtain ⟨here, now, writes, later, executed, ended⟩ := outcome_statement.mp outcome
  split at executed
  next => cases executed
  next thawed =>
    split at executed
    next => cases executed
    next free =>
      cases executed
      exact ⟨here, later, rfl, by simpa using thawed, by simpa using free, ended⟩

theorem outcome_delete {find : Db → Option Row} {condition : Row → Bool} {write : Row → Write}
    (outcome : Outcome rely good (deleteStatement query find condition write) before () after) :
    ∃ here, Later rely good before here ∧
      ((∃ row, find here.view = some row ∧ condition row = true ∧ after = here.record query [write row]) ∨
        after = here.record query []) := by
  obtain ⟨here, now, writes, later, executed, ended⟩ := outcome_statement.mp outcome
  refine ⟨here, later, ?_⟩
  split at executed
  next row found =>
    split at executed
    next met =>
      cases executed
      exact .inl ⟨row, found, met, ended⟩
    next =>
      cases executed
      exact .inr ended
  next =>
    cases executed
    exact .inr ended

section Emits
variable {allowed : Db → Write → Prop}

theorem emits_read (read : Db → Answer) : (readStatement query read).Emits allowed := by
  apply Program.emits_statement
  intro now db answer writes executed
  cases executed
  trivial

theorem emits_readOrThrow (read : Db → Option Answer) : (readOrThrow query read).Emits allowed := by
  apply Program.emits_statement
  intro now db answer writes executed
  split at executed
  next =>
    cases executed
    trivial
  next => cases executed

theorem emits_update {find : Db → Option Row} {condition : Row → Bool} {change : Nat → Row → Row}
    {clashes : Row → Db → Bool} {write : Row → Write}
    (each : ∀ now db row, find db = some row → condition row = true → clashes (change now row) db = false →
      allowed db (write (change now row))) :
    (updateStatement query find condition change clashes write).Emits allowed := by
  apply Program.emits_statement
  intro now db answer writes executed
  split at executed
  next row found =>
    split at executed
    next met =>
      split at executed
      next => cases executed
      next free =>
        cases executed
        exact ⟨each now db row found met (by simpa using free), trivial⟩
    next =>
      cases executed
      trivial
  next =>
    cases executed
    trivial

theorem emits_insert {row : Row} {clashes : Row → Db → Bool} {write : Row → Write}
    (each : ∀ db, clashes row db = false → allowed db (write row)) :
    (insertStatement query row clashes write).Emits allowed := by
  apply Program.emits_statement
  intro now db answer writes executed
  split at executed
  next => cases executed
  next free =>
    cases executed
    exact ⟨each db (by simpa using free), trivial⟩

theorem emits_createMilestone {row : Milestone}
    (each : ∀ db, membershipFrozen row db = false → milestoneClashes row db = false → allowed db (.milestone row)) :
    (createMilestone row).Emits allowed := by
  apply Program.emits_statement
  intro now db answer writes executed
  split at executed
  next => cases executed
  next thawed =>
    split at executed
    next => cases executed
    next free =>
      cases executed
      exact ⟨each db (by simpa using thawed) (by simpa using free), trivial⟩

theorem emits_delete {find : Db → Option Row} {condition : Row → Bool} {write : Row → Write}
    (each : ∀ db row, find db = some row → condition row = true → allowed db (write row)) :
    (deleteStatement query find condition write).Emits allowed := by
  apply Program.emits_statement
  intro now db answer writes executed
  split at executed
  next row found =>
    split at executed
    next met =>
      cases executed
      exact ⟨each db row found met, trivial⟩
    next =>
      cases executed
      trivial
  next =>
    cases executed
    trivial

theorem emits_reserveIdempotentRequest (config : IdempotencyConfig) (id : Nat) (appKey : AppKey)
    (requestHash : String)
    (each : ∀ db row, row.status = .pending → row.id = id → row.requestHash = requestHash →
      allowed db (.idempotencyKey appKey (some row))) :
    (reserveIdempotentRequest config id appKey requestHash).Emits allowed := by
  apply Program.emits_statement
  intro now db answer writes executed
  split at executed
  next row table reserved =>
    cases executed
    unfold reserveIdempotencyKey at reserved
    split at reserved
    next => cases reserved
    next =>
      cases reserved
      exact ⟨each db _ rfl rfl rfl, trivial⟩
  next => cases executed

theorem emits_completeIdempotentRequest (config : IdempotencyConfig) (appKey : AppKey)
    (requestHash : String) (responseStatus : Nat) (body : StoredBody Reply) (responseBytes : Nat)
    (each : ∀ db row, row.status = .completed → row.responseBodyJson = some body →
      allowed db (.idempotencyKey appKey (some row))) :
    (completeIdempotentRequest config appKey requestHash responseStatus body responseBytes).Emits allowed := by
  apply Program.emits_statement
  intro now db answer writes executed
  split at executed
  next row table completed =>
    cases executed
    unfold completeIdempotencyKey at completed
    split at completed
    next => cases completed
    next =>
      cases completed
      exact ⟨each db _ rfl rfl, trivial⟩
  next => cases executed

theorem emits_findIdempotentRequest (appKey : AppKey) : (findIdempotentRequest appKey).Emits allowed := by
  apply Program.emits_statement
  intro now db answer writes executed
  cases executed
  trivial

theorem emits_deleteIdempotentRequest (appKey : AppKey) (test : Nat → IdempotencyRow Reply → Bool)
    (each : ∀ db, allowed db (.idempotencyKey appKey none)) :
    (deleteIdempotentRequest appKey test).Emits allowed := by
  apply Program.emits_statement
  intro now db answer writes executed
  split at executed
  next =>
    split at executed
    next =>
      cases executed
      exact ⟨each db, trivial⟩
    next =>
      cases executed
      trivial
  next =>
    cases executed
    trivial

end Emits

/-- A body that never writes to a table adds no write to it. -/
theorem outcome_to_eq {ε α : Type} {relation : Relation} {body : Program Db Write Query ε α} {result : α}
    (outcome : Outcome rely good body before result after)
    (emits : body.Emits fun _ write => write.relation ≠ relation) :
    Write.to relation after.writes = Write.to relation before.writes := by
  obtain ⟨added, same, each⟩ := outcome.writes emits
  have others : ∀ write ∈ added, write.relation ≠ relation := by
    intro write member
    obtain ⟨_, other⟩ := each write member
    exact other
  rw [same, Write.to_append, Write.to_eq_nil others, List.append_nil]

end Outcomes

section Rows
variable {rely : List Query → Db → Db → Prop} {good : Db → Prop}
variable {before after : Point Db Write Query} {appId : String} {id : RowId}

theorem escrowForApp_some {db : Db} {row : Escrow} :
    db.escrowForApp appId id = some row ↔ db.escrows.get id = some row ∧ row.appId = appId := by
  simp [Db.escrowForApp, Option.filter_eq_some_iff]

theorem transactionForApp_some {db : Db} {row : Transaction} :
    db.transactionForApp appId id = some row ↔ db.transactions.get id = some row ∧ row.appId = appId := by
  simp [Db.transactionForApp, Option.filter_eq_some_iff]

/-- A transaction that has written a row keeps the committed one until it ends. -/
theorem keeps_escrow {row : Escrow} (follows : Follows before after) (written : .escrow row ∈ before.writes) :
    before.db.escrows.get row.id = after.db.escrows.get row.id :=
  follows.locked _ written (.escrow row.id) List.mem_cons_self

theorem keeps_transaction {row : Transaction} (follows : Follows before after)
    (written : .transaction row ∈ before.writes) :
    before.db.transactions.get row.id = after.db.transactions.get row.id :=
  follows.locked _ written (.transaction row.id) List.mem_cons_self

/-- A compare-and-swap of an escrow that moved its row: the row is the committed
one until the transaction ends. -/
theorem escrow_moved {fromStatus : EscrowStatus} {change : Escrow → Escrow}
    (sameId : ∀ row, (change row).id = row.id) (untouched : Write.to .escrows before.writes = [])
    (outcome : Outcome rely good (transitionEscrowStatus appId id fromStatus change) before 1 after) :
    ∃ row : Escrow, row.status = fromStatus ∧ row.appId = appId ∧
      after.writes = before.writes ++ [.escrow (change row)] ∧
      ∀ final, Follows after final → final.db.escrows.get id = some row := by
  obtain ⟨here, later, moved | unmoved⟩ := outcome_update outcome
  · obtain ⟨row, now, found, met, _, _, rfl⟩ := moved
    obtain ⟨stored, owner⟩ := escrowForApp_some.mp found
    have committed : here.db.escrows.get id = some row := by
      rw [Point.view, view_escrows, later.writes, untouched] at stored
      exact stored
    refine ⟨row, by simpa using met, owner, by rw [Point.record, later.writes], ?_⟩
    intro final follows
    have written : .escrow (change row) ∈ (here.record .transitionEscrowStatus [.escrow (change row)]).writes := by
      simp [Point.record]
    have kept := keeps_escrow follows written
    have key : row.id = id := Table.key_of_get committed
    rw [sameId, key] at kept
    exact kept ▸ committed
  · cases unmoved.1

/-- An update of a transaction row changed the committed row, or found none. -/
theorem transaction_updated {change : Nat → Transaction → Transaction} {count : Nat}
    (sameId : ∀ now row, (change now row).id = row.id) (untouched : Write.to .transactions before.writes = [])
    (outcome : Outcome rely good (updateTransaction appId id change) before count after) :
    (∃ row now, row.appId = appId ∧ after.writes = before.writes ++ [.transaction (change now row)] ∧
      ∀ final, Follows after final → final.db.transactions.get id = some row) ∨
    after.writes = before.writes := by
  obtain ⟨here, later, moved | unmoved⟩ := outcome_update outcome
  · obtain ⟨row, now, found, met, _, _, rfl⟩ := moved
    obtain ⟨stored, owner⟩ := transactionForApp_some.mp found
    have committed : here.db.transactions.get id = some row := by
      rw [Point.view, view_transactions, later.writes, untouched] at stored
      exact stored
    refine .inl ⟨row, now, owner, by rw [Point.record, later.writes], ?_⟩
    intro final follows
    have written : .transaction (change now row) ∈
        (here.record .updateTransaction [.transaction (change now row)]).writes := by
      simp [Point.record]
    have kept := keeps_transaction follows written
    have key : row.id = id := Table.key_of_get committed
    rw [sameId, key] at kept
    exact kept ▸ committed
  · rw [unmoved.2, Point.record, later.writes, List.append_nil]
    exact .inr rfl

/-- Reading an escrow back that the transaction has written. -/
theorem escrow_reread {row : Escrow} {result : Option Escrow} (owner : row.appId = appId)
    (written : Write.to .escrows before.writes = [.escrow row])
    (outcome : Outcome rely good (findEscrowForApp appId row.id) before result after) :
    result = some row ∧ after.writes = before.writes ∧ Follows before after := by
  have follows := outcome.follows
  obtain ⟨here, later, rfl, rfl⟩ := outcome_read.mp outcome
  refine ⟨?_, by rw [Point.record, later.writes, List.append_nil], follows⟩
  rw [escrowForApp_some]
  refine ⟨?_, owner⟩
  rw [Point.view, view_escrows, later.writes, written]
  exact Table.get_put_self row here.db.escrows

/-- Reading an escrow that the transaction has not written. -/
theorem escrow_read {result : Option Escrow} (untouched : Write.to .escrows before.writes = [])
    (outcome : Outcome rely good (findEscrowForApp appId id) before result after) :
    ∃ db, good db ∧ rely before.log before.db db ∧ result = db.escrowForApp appId id ∧ after.db = db ∧
      after.writes = before.writes := by
  obtain ⟨here, later, rfl, rfl⟩ := outcome_read.mp outcome
  refine ⟨here.db, later.good, later.rely, ?_, rfl, by rw [Point.record, later.writes, List.append_nil]⟩
  have same : here.view.escrows = here.db.escrows := by
    rw [Point.view, view_escrows, later.writes, untouched]
    rfl
  simp only [Db.escrowForApp, same]

end Rows

end PactAgent.Store
