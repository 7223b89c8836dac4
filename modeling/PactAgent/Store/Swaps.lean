import PactAgent.Store.Lawful

/-! Compare-and-swaps: a swap that went through found its row in the expected status,
and the committed row is the one it found until the transaction ends. -/

namespace PactAgent.Store
open PactAgent.Foundation PactAgent.Common PactAgent.Lifecycle

section Stored
variable {Row : Type} [Keyed Row RowId]

/-- A table of the database and the writes that reach it. -/
structure Stored (table : Db → Foundation.Table Row) (relation : Relation) (write : Row → Write) : Prop where
  own : ∀ row, (write row).relation = relation
  others : ∀ writes db, table (Storage.view writes db) = table (Storage.view (Write.to relation writes) db)
  puts : ∀ row db, table (applyWrite (write row) db) = (table db).put row
  locked : ∀ row (before after : Point Db Write Query), Follows before after → write row ∈ before.writes →
    (table before.db).get (Keyed.key row) = (table after.db).get (Keyed.key row)

variable {table : Db → Foundation.Table Row} {relation : Relation} {write : Row → Write}

theorem Stored.untouched (stored : Stored table relation write) {writes : List Write}
    (none : Write.to relation writes = []) (db : Db) : table (Storage.view writes db) = table db := by
  rw [stored.others, none]
  rfl

theorem Stored.to_map (stored : Stored table relation write) (rows : List Row) :
    Write.to relation (rows.map write) = rows.map write := by
  apply List.filter_eq_self.mpr
  intro written member
  obtain ⟨row, _, rfl⟩ := List.mem_map.mp member
  simpa using stored.own row

theorem Stored.to_other (stored : Stored table relation write) {other : Relation} (different : relation ≠ other)
    (rows : List Row) : Write.to other (rows.map write) = [] := by
  apply Write.to_eq_nil
  intro written member
  obtain ⟨row, _, rfl⟩ := List.mem_map.mp member
  rw [stored.own]
  exact different

/-- Rows under other keys do not change. -/
theorem Stored.get_of_ne (stored : Stored table relation write) {writes : List Write} {rows : List Row}
    (written : Write.to relation writes = rows.map write) {key : RowId}
    (different : ∀ row ∈ rows, Keyed.key row ≠ key) (db : Db) :
    (table (Storage.view writes db)).get key = (table db).get key := by
  rw [stored.others, written]
  clear written
  induction rows generalizing db with
  | nil => rfl
  | cons row rows ih =>
    have first : (table (applyWrite (write row) db)).get key = (table db).get key := by
      rw [stored.puts]
      exact Table.get_put_of_ne (different row List.mem_cons_self).symm
    have rest := ih (fun other member => different other (List.mem_cons_of_mem _ member))
      (applyWrite (write row) db)
    exact rest.trans first

/-- The last write under a key is the one that stays. -/
theorem Stored.get_last (stored : Stored table relation write) {writes : List Write} {rows : List Row}
    (written : Write.to relation writes = rows.map write) {row : Row} (last : rows.getLast? = some row)
    (db : Db) : (table (Storage.view writes db)).get (Keyed.key row) = some row := by
  rw [stored.others, written]
  obtain ⟨earlier, rfl⟩ := List.getLast?_eq_some_iff.mp last
  rw [List.map_append, Storage.view_append]
  change (table (applyWrite (write row) _)).get _ = _
  rw [stored.puts]
  exact Table.get_put_self row _

theorem Stored.mem_put (stored : Stored table relation write) {writes : List Write} {row : Row}
    (written : Write.to relation writes = [write row]) {db : Db} {found : Row} :
    found ∈ table (Storage.view writes db) ↔ found = row ∨ found ∈ table db ∧ Keyed.key found ≠ Keyed.key row := by
  rw [stored.others, written]
  change found ∈ table (applyWrite (write row) db) ↔ _
  rw [stored.puts]
  exact Table.mem_put

variable {rely : List Query → Db → Db → Prop} {good : Db → Prop} {before after : Point Db Write Query}
variable {query : Query} {id : RowId} {owner condition : Row → Bool} {change : Nat → Row → Row}
variable {clashes : Row → Db → Bool}

/-- A row read from a table that the transaction has not written. -/
theorem Stored.read (stored : Stored table relation write) (none : Write.to relation before.writes = []) {row : Row}
    (outcome : Outcome rely good (readStatement query fun db => ((table db).get id).filter owner) before (some row)
      after) :
    after.writes = before.writes ∧ good after.db ∧ (table after.db).get id = some row ∧ owner row = true := by
  obtain ⟨here, later, found, rfl⟩ := outcome_read.mp outcome
  obtain ⟨found, owned⟩ := Option.filter_eq_some_iff.mp found.symm
  rw [Point.view, stored.untouched (later.writes ▸ none)] at found
  exact ⟨by rw [Point.record, List.append_nil, later.writes], later.good, found, owned⟩

/-- Reading back a row that the transaction has written last. -/
theorem Stored.reread (stored : Stored table relation write) {rows : List Row}
    (written : Write.to relation before.writes = rows.map write) {row : Row} (last : rows.getLast? = some row)
    {found : Option Row} (same : Keyed.key row = id) (owned : owner row = true)
    (outcome : Outcome rely good (readStatement query fun db => ((table db).get id).filter owner) before found
      after) :
    found = some row ∧ after.writes = before.writes := by
  obtain ⟨here, later, rfl, rfl⟩ := outcome_read.mp outcome
  have present := stored.get_last (later.writes ▸ written) last here.db
  rw [same] at present
  refine ⟨?_, by rw [Point.record, List.append_nil, later.writes]⟩
  rw [Point.view, present, Option.filter_some, if_pos owned]

theorem Stored.swapped (stored : Stored table relation write)
    (sameKey : ∀ now row, (Keyed.key (change now row) : RowId) = Keyed.key row)
    (outcome : Outcome rely good (updateStatement query (fun db => ((table db).get id).filter owner) condition
      change clashes write) before 1 after) :
    ∃ row now, condition row = true ∧ owner row = true ∧ Keyed.key row = id ∧
      after.writes = before.writes ++ [write (change now row)] ∧
      (Write.to relation before.writes = [] → ∀ final, Follows after final →
        (table final.db).get id = some row) := by
  obtain ⟨here, later, moved | unmoved⟩ := outcome_update outcome
  · obtain ⟨row, now, found, met, _, _, rfl⟩ := moved
    obtain ⟨found, owned⟩ := Option.filter_eq_some_iff.mp found
    have key : Keyed.key row = id := Table.key_of_get found
    refine ⟨row, now, met, owned, key, by rw [Point.record, later.writes], ?_⟩
    intro none final follows
    rw [Point.view, stored.untouched (later.writes ▸ none)] at found
    have kept := stored.locked (change now row) _ final follows (by simp [Point.record])
    rw [sameKey, key] at kept
    exact kept ▸ found
  · cases unmoved.1

end Stored

section Tables

theorem view_agreements : ∀ (writes : List Write) (db : Db), (Storage.view writes db).agreements =
    (Storage.view (Write.to .agreements writes) db).agreements := by
  intro writes db
  refine view_field_filter Db.agreements .agreements ?_ ?_ writes db db rfl
  · intro write db other
    cases write <;> first | rfl | exact absurd rfl other
  · intro write first second same
    cases write <;> simp only [applyWrite, same]

theorem stored_agreements : Stored Db.agreements .agreements .agreement where
  own _ := rfl
  others := view_agreements
  puts _ _ := rfl
  locked row _ _ follows written := follows.locked _ written (.agreement row.id) List.mem_cons_self

theorem stored_milestones : Stored Db.milestones .milestones .milestone where
  own _ := rfl
  others _ _ := view_milestones
  puts _ _ := rfl
  locked row _ _ follows written := follows.locked _ written (.milestone row.id) List.mem_cons_self

theorem stored_proofs : Stored Db.proofs .proofs .proof where
  own _ := rfl
  others _ _ := view_proofs
  puts _ _ := rfl
  locked row _ _ follows written := follows.locked _ written (.proof row.id) List.mem_cons_self

theorem stored_reviews : Stored Db.reviews .reviews .review where
  own _ := rfl
  others _ _ := view_reviews
  puts _ _ := rfl
  locked row _ _ follows written := follows.locked _ written (.review row.id) List.mem_cons_self

theorem stored_disputes : Stored Db.disputes .disputes .dispute where
  own _ := rfl
  others _ _ := view_disputes
  puts _ _ := rfl
  locked row _ _ follows written := follows.locked _ written (.dispute row.id) List.mem_cons_self

theorem stored_escrows : Stored Db.escrows .escrows .escrow where
  own _ := rfl
  others _ _ := view_escrows
  puts _ _ := rfl
  locked row _ _ follows written := follows.locked _ written (.escrow row.id) List.mem_cons_self

theorem stored_transactions : Stored Db.transactions .transactions .transaction where
  own _ := rfl
  others _ _ := view_transactions
  puts _ _ := rfl
  locked row _ _ follows written := follows.locked _ written (.transaction row.id) List.mem_cons_self

end Tables

section Swaps
variable {rely : List Query → Db → Db → Prop} {good : Db → Prop} {before after : Point Db Write Query}
variable {appId : String} {id : RowId}

theorem swap_once {Status : Type} [StatusName Status] {resource : String} {expected next : Status} {α : Type}
    {swap : Tx Nat} {reread : Tx α} {result : α}
    (outcome : Outcome rely good (do
      let count ← swap
      Program.ofExcept (assertLifecycleCompareAndSwap resource count expected next)
      reread) before result after) :
    ∃ middle, Outcome rely good swap before 1 middle ∧ Outcome rely good reread middle result after := by
  obtain ⟨count, middle, swapped, outcome⟩ := outcome_bind.mp outcome
  obtain ⟨_, checked, passed, rest⟩ := outcome_bind.mp outcome
  obtain ⟨once, rfl⟩ := outcome_ofExcept.mp passed
  rw [assertLifecycleCompareAndSwap_ok_iff.mp once] at swapped
  exact ⟨_, swapped, rest⟩

theorem agreement_moved {expected next : AgreementStatus} {result : Agreement}
    (outcome : Outcome rely good (transitionAgreementStatus appId id expected next) before result after) :
    ∃ row now, row.status = expected ∧ row.appId = appId ∧ row.id = id ∧
      after.writes = before.writes ++ [.agreement (row.transition next now)] ∧
      (Write.to .agreements before.writes = [] → ∀ final, Follows after final →
        final.db.agreements.get id = some row) := by
  obtain ⟨middle, swap, reread⟩ := swap_once outcome
  obtain ⟨row, now, met, owned, key, writes, committed⟩ :=
    stored_agreements.swapped (fun now row => transition_id next now row) swap
  obtain ⟨here, later, _, rfl⟩ := outcome_readOrThrow reread
  refine ⟨row, now, by simpa using met, by simpa using owned, key, ?_, ?_⟩
  · rw [Point.record, List.append_nil, later.writes, writes]
  · intro none final follows
    exact committed none final (reread.follows.trans follows)

theorem milestone_moved {expected next : MilestoneStatus} {result : Milestone}
    (outcome : Outcome rely good (transitionMilestoneStatus appId id expected next) before result after) :
    ∃ row : Milestone, row.status = expected ∧ row.appId = appId ∧ row.id = id ∧
      after.writes = before.writes ++ [.milestone { row with status := next }] ∧
      (Write.to .milestones before.writes = [] → ∀ final, Follows after final →
        final.db.milestones.get id = some row) := by
  obtain ⟨middle, swap, reread⟩ := swap_once outcome
  obtain ⟨row, now, met, owned, key, writes, committed⟩ := stored_milestones.swapped (by intros; rfl) swap
  obtain ⟨here, later, _, rfl⟩ := outcome_readOrThrow reread
  refine ⟨row, by simpa using met, by simpa using owned, key, ?_, ?_⟩
  · rw [Point.record, List.append_nil, later.writes, writes]
  · intro none final follows
    exact committed none final (reread.follows.trans follows)

theorem proof_moved {expected next : ProofStatus} {result : Proof}
    (outcome : Outcome rely good (transitionProofStatus appId id expected next) before result after) :
    ∃ row : Proof, row.status = expected ∧ row.appId = appId ∧ row.id = id ∧
      after.writes = before.writes ++ [.proof { row with status := next }] ∧
      (Write.to .proofs before.writes = [] → ∀ final, Follows after final →
        final.db.proofs.get id = some row) := by
  obtain ⟨middle, swap, reread⟩ := swap_once outcome
  obtain ⟨row, now, met, owned, key, writes, committed⟩ := stored_proofs.swapped (by intros; rfl) swap
  obtain ⟨here, later, _, rfl⟩ := outcome_readOrThrow reread
  refine ⟨row, by simpa using met, by simpa using owned, key, ?_, ?_⟩
  · rw [Point.record, List.append_nil, later.writes, writes]
  · intro none final follows
    exact committed none final (reread.follows.trans follows)

theorem dispute_resolved {expected : DisputeStatus} {input : ResolveDisputeInput} {result : Dispute}
    (outcome : Outcome rely good (resolveDispute appId id expected input) before result after) :
    ∃ (row : Dispute) (now : Nat), row.status = expected ∧ row.appId = appId ∧ row.id = id ∧
      after.writes = before.writes ++ [.dispute (row.resolvedBy input now)] ∧
      (Write.to .disputes before.writes = [] → ∀ final, Follows after final →
        final.db.disputes.get id = some row) := by
  obtain ⟨middle, swap, reread⟩ := swap_once outcome
  obtain ⟨row, now, met, owned, key, writes, committed⟩ := stored_disputes.swapped (by intros; rfl) swap
  obtain ⟨here, later, _, rfl⟩ := outcome_readOrThrow reread
  refine ⟨row, now, by simpa using met, by simpa using owned, key, ?_, ?_⟩
  · rw [Point.record, List.append_nil, later.writes, writes]
    rfl
  · intro none final follows
    exact committed none final (reread.follows.trans follows)

/-- An inserted transaction is the only one of its operation until the commit. -/
theorem transaction_inserted {row result : Transaction} {operation : OperationId}
    (own : row.operationId = some operation) (untouched : Write.to .transactions before.writes = [])
    (outcome : Outcome rely good (createTransaction row) before result after) :
    result = row ∧ after.writes = before.writes ++ [.transaction row] ∧
      ∀ final, Follows after final → final.db.transactions.get row.id = none ∧
        ∀ other ∈ final.db.transactions, other.appId = row.appId → other.operationId ≠ some operation := by
  obtain ⟨here, later, same, free, rfl⟩ := outcome_insert outcome
  refine ⟨same, by rw [Point.record, later.writes], ?_⟩
  intro final follows
  simp only [transactionClashes, Bool.or_eq_false_iff, Bool.and_eq_false_iff, own, Option.isSome_some] at free
  rw [Point.view, stored_transactions.untouched (later.writes ▸ untouched)] at free
  refine ⟨?_, ?_⟩
  · have kept := @keeps_transaction _ _ row follows (by simp [Point.record])
    rw [← kept]
    simpa [Point.record] using free.1
  intro other member app operationId
  have appeared : NoneAppeared (fun found => found.appId = row.appId ∧ found.operationId = some operation)
      here.db.transactions final.db.transactions := by
    apply follows.locked (.transaction row) (by simp [Point.record]) (.operation row.appId operation)
    simp [Storage.locks, writeLocks, own]
  have before' := appeared other member ⟨app, operationId⟩
  have none := free.2.resolve_left (by simp)
  have absent := List.any_eq_false.mp none other before'
  simp [app, operationId] at absent

end Swaps

end PactAgent.Store
