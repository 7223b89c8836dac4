import PactAgent.Foundation.Execution
import PactAgent.Store.Lawful

/-! What lasts: rows stay in their tables, their terms do not change, and their statuses
only move along the lifecycle tables. An escrow stays once it has left `notCreated`,
and a release or a refund stays in any case. -/

namespace PactAgent.Store
open PactAgent.Foundation PactAgent.Common PactAgent.Lifecycle
open PactAgent.Foundation.Execution (Leads)

structure AgreementTerms where
  appId : String
  amount : String
  currency : String

def Agreement.terms (row : Agreement) : AgreementTerms := ⟨row.appId, row.amount, row.currency⟩

def Agreement.Follows (old new : Agreement) : Prop :=
  new.terms = old.terms ∧ Leads canTransitionAgreement old.status new.status

def Milestone.Follows (old new : Milestone) : Prop :=
  ∃ status, new = { old with status := status } ∧ Leads canTransitionMilestone old.status status

def Proof.Follows (old new : Proof) : Prop :=
  ∃ status, new = { old with status := status } ∧ Leads proofMoves old.status status

/-- A resolved dispute is final. -/
def Dispute.Follows (old new : Dispute) : Prop :=
  new.appId = old.appId ∧ new.agreementId = old.agreementId ∧ new.milestoneId = old.milestoneId ∧
    (old.status.unresolved = false → new = old)

/-- The row of a release or of a refund; a lock has index 1. -/
def Transaction.Lasting (row : Transaction) : Prop := row.id.index ≠ 1

def Transaction.Follows (old new : Transaction) : Prop := new.id = old.id ∧ new.terms = old.terms

def Escrow.Follows (old new : Escrow) : Prop :=
  new.terms = old.terms ∧ (old.status = .notCreated ∨ new.status ≠ .notCreated)

structure Steady (before after : Db) : Prop where
  agreements : Table.Kept (fun _ => True) Agreement.Follows before.agreements after.agreements
  milestones : Table.Kept (fun _ => True) Milestone.Follows before.milestones after.milestones
  proofs : Table.Kept (fun _ => True) Proof.Follows before.proofs after.proofs
  reviews : Table.Kept (fun _ => True) Eq before.reviews after.reviews
  disputes : Table.Kept (fun _ => True) Dispute.Follows before.disputes after.disputes
  escrows : Table.Kept (fun row => row.status ≠ .notCreated) Escrow.Follows before.escrows after.escrows
  transactions : Table.Kept Transaction.Lasting Transaction.Follows before.transactions after.transactions

section Follows

theorem Agreement.Follows.refl (row : Agreement) : row.Follows row := ⟨rfl, .refl _⟩

theorem Agreement.Follows.trans {first second third : Agreement} (earlier : first.Follows second)
    (later : second.Follows third) : first.Follows third :=
  ⟨later.1.trans earlier.1, earlier.2.trans later.2⟩

theorem Agreement.follows_transition {row : Agreement} {next : AgreementStatus} (now : Nat)
    (valid : canTransitionAgreement row.status next = true) : row.Follows (row.transition next now) := by
  refine ⟨?_, ?_⟩
  · cases next <;> rfl
  · rw [transition_status]
    exact .single valid

theorem Milestone.Follows.refl (row : Milestone) : row.Follows row := ⟨row.status, rfl, .refl _⟩

theorem Milestone.Follows.trans {first second third : Milestone} (earlier : first.Follows second)
    (later : second.Follows third) : first.Follows third := by
  obtain ⟨middle, rfl, leads⟩ := earlier
  obtain ⟨last, rfl, further⟩ := later
  exact ⟨last, rfl, leads.trans further⟩

theorem Proof.Follows.refl (row : Proof) : row.Follows row := ⟨row.status, rfl, .refl _⟩

theorem Proof.Follows.trans {first second third : Proof} (earlier : first.Follows second)
    (later : second.Follows third) : first.Follows third := by
  obtain ⟨middle, rfl, leads⟩ := earlier
  obtain ⟨last, rfl, further⟩ := later
  exact ⟨last, rfl, leads.trans further⟩

theorem Dispute.Follows.refl (row : Dispute) : row.Follows row := ⟨rfl, rfl, rfl, fun _ => rfl⟩

theorem Dispute.Follows.trans {first second third : Dispute} (earlier : first.Follows second)
    (later : second.Follows third) : first.Follows third := by
  obtain ⟨app, agreement, milestone, final⟩ := earlier
  obtain ⟨app', agreement', milestone', final'⟩ := later
  refine ⟨app'.trans app, agreement'.trans agreement, milestone'.trans milestone, ?_⟩
  intro resolved
  have same := final resolved
  rw [final' (same ▸ resolved), same]

theorem Escrow.Follows.refl (row : Escrow) : row.Follows row := ⟨rfl, em _⟩

theorem Escrow.Follows.trans {first second third : Escrow} (earlier : first.Follows second)
    (later : second.Follows third) : first.Follows third := by
  refine ⟨later.1.trans earlier.1, ?_⟩
  cases earlier.2 with
  | inl fresh => exact .inl fresh
  | inr stored =>
    cases later.2 with
    | inl fresh => exact absurd fresh stored
    | inr kept => exact .inr kept

theorem Transaction.Follows.refl (row : Transaction) : row.Follows row := ⟨rfl, rfl⟩

theorem Transaction.Follows.trans {first second third : Transaction} (earlier : first.Follows second)
    (later : second.Follows third) : first.Follows third :=
  ⟨later.1.trans earlier.1, later.2.trans earlier.2⟩

theorem canTransitionEscrow_stored {old new : EscrowStatus} (valid : canTransitionEscrow old new = true) :
    new ≠ .notCreated := by
  intro fresh
  rw [fresh] at valid
  cases old <;> simp [canTransitionEscrow] at valid

end Follows

theorem Steady.refl (db : Db) : Steady db db where
  agreements := .refl Agreement.Follows.refl _
  milestones := .refl Milestone.Follows.refl _
  proofs := .refl Proof.Follows.refl _
  reviews := .refl (fun _ => rfl) _
  disputes := .refl Dispute.Follows.refl _
  escrows := .refl Escrow.Follows.refl _
  transactions := .refl Transaction.Follows.refl _

theorem Steady.trans {first second third : Db} (earlier : Steady first second) (later : Steady second third) :
    Steady first third where
  agreements := earlier.agreements.trans (fun _ _ _ => .trans) (fun _ _ _ _ => trivial) later.agreements
  milestones := earlier.milestones.trans (fun _ _ _ => .trans) (fun _ _ _ _ => trivial) later.milestones
  proofs := earlier.proofs.trans (fun _ _ _ => .trans) (fun _ _ _ _ => trivial) later.proofs
  reviews := earlier.reviews.trans (fun _ _ _ first second => first.trans second) (fun _ _ _ _ => trivial)
    later.reviews
  disputes := earlier.disputes.trans (fun _ _ _ => .trans) (fun _ _ _ _ => trivial) later.disputes
  escrows := earlier.escrows.trans (fun _ _ _ => .trans)
    (fun _ _ stored follows => follows.2.resolve_left stored) later.escrows
  transactions := earlier.transactions.trans (fun _ _ _ => .trans)
    (fun _ _ lasting follows => by rw [Transaction.Lasting, follows.1]; exact lasting) later.transactions

/-- A lawful write keeps what lasts. -/
theorem steady_write {request : Nat} {db : Db} {write : Write} (lawful : Lawful request db write) :
    Steady db (applyWrite write db) := by
  have same := Steady.refl db
  cases write with
  | agreement row =>
    refine { same with agreements := .put Agreement.Follows.refl ?_ }
    intro old stored _
    rw [Lawful, show db.agreements.get row.id = some old from stored] at lawful
    obtain ⟨next, now, valid, rfl⟩ := lawful
    exact Agreement.follows_transition now valid
  | milestone row =>
    refine { same with milestones := .put Milestone.Follows.refl ?_ }
    intro old stored _
    rw [Lawful, show db.milestones.get row.id = some old from stored] at lawful
    obtain ⟨next, valid, rfl⟩ := lawful
    exact ⟨next, rfl, .single valid⟩
  | proof row =>
    refine { same with proofs := .put Proof.Follows.refl ?_ }
    intro old stored _
    rw [Lawful, show db.proofs.get row.id = some old from stored] at lawful
    obtain ⟨next, valid, rfl⟩ := lawful
    exact ⟨next, rfl, .single valid⟩
  | review row =>
    refine { same with reviews := .put (fun _ => rfl) ?_ }
    intro old stored _
    rw [Lawful, show db.reviews.get row.id = some old from stored] at lawful
    exact lawful.elim
  | dispute row =>
    refine { same with disputes := .put Dispute.Follows.refl ?_ }
    intro old stored _
    rw [Lawful, show db.disputes.get row.id = some old from stored] at lawful
    obtain ⟨input, now, unresolved, rfl⟩ := lawful
    exact ⟨rfl, rfl, rfl, fun resolved => by rw [unresolved] at resolved; cases resolved⟩
  | escrow row =>
    refine { same with escrows := .put Escrow.Follows.refl ?_ }
    intro old stored _
    rw [Lawful, show db.escrows.get row.id = some old from stored] at lawful
    obtain ⟨equal | valid, terms⟩ := lawful
    · exact ⟨terms, equal ▸ em _⟩
    · exact ⟨terms, .inr (canTransitionEscrow_stored valid)⟩
  | deleteEscrow row =>
    refine { same with escrows := .remove Escrow.Follows.refl ?_ }
    intro old stored stays
    rw [lawful.1] at stored
    cases stored
    exact stays lawful.2
  | transaction row =>
    refine { same with transactions := .put Transaction.Follows.refl ?_ }
    intro old stored _
    rw [Lawful, show db.transactions.get row.id = some old from stored] at lawful
    exact ⟨(Table.key_of_get stored).symm, lawful⟩
  | deleteTransaction row =>
    refine { same with transactions := .remove Transaction.Follows.refl ?_ }
    intro old stored stays
    rw [lawful.1] at stored
    cases stored
    exact stays lawful.2
  | _ => exact { same with }

theorem steady_view {request : Nat} {writes : List Write} {db : Db}
    (lawful : Storage.Chain (Lawful request) writes db) : Steady db (Storage.view writes db) := by
  induction writes generalizing db with
  | nil => exact .refl db
  | cons write writes ih => exact (steady_write lawful.1).trans (ih lawful.2)

section Statuses
variable {request : Nat} {writes : List Write} {db : Db} {id : RowId}

/-- Statuses of an agreement that no allowed move leaves. -/
theorem agreement_stays {moves : AgreementStatus → AgreementStatus → Prop} {inside : AgreementStatus → Prop}
    (closed : ∀ old new, inside old → canTransitionAgreement old new = true → moves old new → inside new)
    (chain : Storage.Chain (fun db write => Lawful request db write ∧ AgreementMoves moves db write) writes db)
    {old : Agreement} (stored : db.agreements.get id = some old) (start : inside old.status) :
    ∃ new, (Storage.view writes db).agreements.get id = some new ∧ inside new.status := by
  induction writes generalizing db old with
  | nil => exact ⟨old, stored, start⟩
  | cons write writes ih =>
    cases write with
    | agreement row =>
      by_cases same : id = row.id
      · obtain ⟨⟨lawful, moved⟩, rest⟩ := chain
        subst same
        have allowed := moved old stored
        simp only [Lawful, stored] at lawful
        obtain ⟨next, now, valid, rfl⟩ := lawful
        rw [transition_status] at allowed
        refine ih rest (Table.get_put_self _ _) ?_
        rw [transition_status]
        exact closed _ _ start valid allowed
      · exact ih chain.2 ((Table.get_put_of_ne same).trans stored) start
    | _ => exact ih chain.2 stored start

theorem milestone_stays {moves : MilestoneStatus → MilestoneStatus → Prop} {inside : MilestoneStatus → Prop}
    (closed : ∀ old new, inside old → canTransitionMilestone old new = true → moves old new → inside new)
    (chain : Storage.Chain (fun db write => Lawful request db write ∧ MilestoneMoves moves db write) writes db)
    {old : Milestone} (stored : db.milestones.get id = some old) (start : inside old.status) :
    ∃ new, (Storage.view writes db).milestones.get id = some new ∧ inside new.status := by
  induction writes generalizing db old with
  | nil => exact ⟨old, stored, start⟩
  | cons write writes ih =>
    cases write with
    | milestone row =>
      by_cases same : id = row.id
      · obtain ⟨⟨lawful, moved⟩, rest⟩ := chain
        subst same
        have allowed := moved old stored
        simp only [Lawful, stored] at lawful
        obtain ⟨next, valid, same⟩ := lawful
        have status : row.status = next := by rw [same]
        refine ih rest (Table.get_put_self row _) ?_
        rw [status]
        exact closed _ _ start valid (status ▸ allowed)
      · exact ih chain.2 ((Table.get_put_of_ne same).trans stored) start
    | _ => exact ih chain.2 stored start

/-- Statuses of a milestone that no insert and no allowed move reaches from outside. -/
theorem milestone_inherits {moves : MilestoneStatus → MilestoneStatus → Prop} {inside : MilestoneStatus → Prop}
    (fresh : ¬inside .pending)
    (closed : ∀ old new, moves old new → inside new → inside old)
    (chain : Storage.Chain (fun db write => Lawful request db write ∧ MilestoneMoves moves db write) writes db)
    {row : Milestone} (stored : (Storage.view writes db).milestones.get id = some row) (holds : inside row.status) :
    ∃ old, db.milestones.get id = some old ∧ inside old.status := by
  induction writes generalizing db with
  | nil => exact ⟨row, stored, holds⟩
  | cons write writes ih =>
    obtain ⟨middle, found, within⟩ := ih chain.2 stored
    cases write with
    | milestone written =>
      by_cases same : id = written.id
      · obtain ⟨⟨lawful, moved⟩, _⟩ := chain
        subst same
        have equal : written = middle := Option.some.inj ((Table.get_put_self written _).symm.trans found)
        subst equal
        cases before : db.milestones.get written.id with
        | none =>
          simp only [Lawful, before] at lawful
          exact absurd (lawful.2 ▸ within) fresh
        | some old => exact ⟨old, rfl, closed _ _ (moved old before) within⟩
      · exact ⟨middle, (Table.get_put_of_ne same).symm.trans found, within⟩
    | _ => exact ⟨middle, found, within⟩

/-- The same for escrows, which also keep their terms. -/
theorem escrow_inherits {moves : EscrowStatus → EscrowStatus → Prop} {inside : EscrowStatus → Prop}
    (fresh : ¬inside .notCreated)
    (closed : ∀ old new, moves old new → inside new → inside old)
    (chain : Storage.Chain (fun db write => Lawful request db write ∧ EscrowMoves moves db write) writes db)
    {row : Escrow} (stored : (Storage.view writes db).escrows.get id = some row) (holds : inside row.status) :
    ∃ old, db.escrows.get id = some old ∧ inside old.status ∧ row.terms = old.terms := by
  induction writes generalizing db with
  | nil => exact ⟨row, stored, holds, rfl⟩
  | cons write writes ih =>
    obtain ⟨middle, found, within, terms⟩ := ih chain.2 stored
    cases write with
    | escrow written =>
      by_cases same : id = written.id
      · obtain ⟨⟨lawful, moved⟩, _⟩ := chain
        subst same
        have equal : written = middle := Option.some.inj ((Table.get_put_self written _).symm.trans found)
        subst equal
        cases before : db.escrows.get written.id with
        | none =>
          simp only [Lawful, before] at lawful
          exact absurd (lawful.2 ▸ within) fresh
        | some old =>
          simp only [Lawful, before] at lawful
          exact ⟨old, rfl, closed _ _ (moved old before) within, terms.trans lawful.2⟩
      · exact ⟨middle, (Table.get_put_of_ne same).symm.trans found, within, terms⟩
    | deleteEscrow written =>
      by_cases same : id = written.id
      · subst same
        cases (Table.get_remove_self written.id db.escrows).symm.trans found
      · exact ⟨middle, (Table.get_remove_of_ne same).symm.trans found, within, terms⟩
    | _ => exact ⟨middle, found, within, terms⟩

/-- A transaction after the writes was there before under the same terms, or is of an
inserted type. -/
theorem mem_view_transactions {types : List TransactionType}
    (chain : Storage.Chain (fun db write => Lawful request db write ∧ Introduces types db write) writes db)
    {row : Transaction} (member : row ∈ (Storage.view writes db).transactions) :
    (∃ old ∈ db.transactions, old.id = row.id ∧ row.terms = old.terms) ∨ row.type ∈ types := by
  induction writes generalizing db with
  | nil => exact .inl ⟨row, member, rfl, rfl⟩
  | cons write writes ih =>
    rcases ih chain.2 member with ⟨old, oldIn, same, terms⟩ | inserted
    · cases write with
      | transaction written =>
        rcases Table.mem_put.mp oldIn with rfl | ⟨stored, _⟩
        · obtain ⟨lawful, introduces⟩ := chain.1
          cases found : db.transactions.get old.id with
          | none =>
            right
            have type : row.type = old.type := congrArg TransactionTerms.type terms
            rw [type]
            exact introduces found
          | some earlier =>
            simp only [Lawful, found] at lawful
            left
            refine ⟨earlier, Table.mem_of_get found, ?_, terms.trans lawful⟩
            exact (Table.key_of_get found).trans same
        · exact .inl ⟨old, stored, same, terms⟩
      | deleteTransaction written => exact .inl ⟨old, (Table.mem_remove.mp oldIn).1, same, terms⟩
      | _ => exact .inl ⟨old, oldIn, same, terms⟩
    · exact .inr inserted

/-- A milestone after the writes follows one that was there, or one that they inserted. -/
theorem mem_view_milestones (chain : Storage.Chain (Lawful request) writes db) {row : Milestone}
    (member : row ∈ (Storage.view writes db).milestones) :
    (∃ old ∈ db.milestones, old.Follows row) ∨
      ∃ fresh : Milestone, .milestone fresh ∈ writes ∧ fresh.status = .pending ∧ fresh.Follows row := by
  induction writes generalizing db with
  | nil => exact .inl ⟨row, member, .refl row⟩
  | cons write writes ih =>
    rcases ih chain.2 member with ⟨old, oldIn, follows⟩ | ⟨fresh, written, pending, follows⟩
    · cases write with
      | milestone written =>
        rcases Table.mem_put.mp oldIn with rfl | ⟨stored, _⟩
        · have lawful := chain.1
          cases found : db.milestones.get old.id with
          | none =>
            simp only [Lawful, found] at lawful
            exact .inr ⟨old, List.mem_cons_self, lawful.2, follows⟩
          | some earlier =>
            simp only [Lawful, found] at lawful
            obtain ⟨next, valid, same⟩ := lawful
            exact .inl ⟨earlier, Table.mem_of_get found, .trans ⟨next, same, .single valid⟩ follows⟩
        · exact .inl ⟨old, stored, follows⟩
      | _ => exact .inl ⟨old, oldIn, follows⟩
    · exact .inr ⟨fresh, List.mem_cons_of_mem _ written, pending, follows⟩

/-- A written agreement ends in a status that no allowed move leaves. -/
theorem written_agreement_stays {inside : AgreementStatus → Prop}
    (closed : ∀ old new, inside old → canTransitionAgreement old new = true → inside new)
    (chain : Storage.Chain (Lawful request) writes db) {row : Agreement} (written : .agreement row ∈ writes)
    (start : inside row.status) :
    ∃ new, (Storage.view writes db).agreements.get row.id = some new ∧ inside new.status := by
  induction writes generalizing db with
  | nil => cases written
  | cons write writes ih =>
    cases List.mem_cons.mp written with
    | inl same =>
      subst same
      obtain ⟨new, found, _, leads⟩ := (steady_view chain.2).agreements row.id row (Table.get_put_self row _) trivial
      exact ⟨new, found, leads.closed closed start⟩
    | inr later => exact ih chain.2 later

/-- An escrow after a commit was there before, or was written. -/
theorem mem_view_escrows {row : Escrow} (member : row ∈ (Storage.view writes db).escrows) :
    row ∈ db.escrows ∨ .escrow row ∈ writes := by
  induction writes generalizing db with
  | nil => exact .inl member
  | cons write writes ih =>
    cases ih member with
    | inr written => exact .inr (List.mem_cons_of_mem _ written)
    | inl earlier =>
      cases write with
      | escrow other =>
        cases Table.mem_put.mp earlier with
        | inl same => exact .inr (same ▸ List.mem_cons_self)
        | inr kept => exact .inl kept.1
      | deleteEscrow other => exact .inl (Table.mem_remove.mp earlier).1
      | _ => exact .inl earlier

/-- A transaction after a commit was there before, or was written. -/
theorem mem_view_transaction {row : Transaction} (member : row ∈ (Storage.view writes db).transactions) :
    row ∈ db.transactions ∨ .transaction row ∈ writes := by
  induction writes generalizing db with
  | nil => exact .inl member
  | cons write writes ih =>
    cases ih member with
    | inr written => exact .inr (List.mem_cons_of_mem _ written)
    | inl earlier =>
      cases write with
      | transaction other =>
        cases Table.mem_put.mp earlier with
        | inl same => exact .inr (same ▸ List.mem_cons_self)
        | inr kept => exact .inl kept.1
      | deleteTransaction other => exact .inl (Table.mem_remove.mp earlier).1
      | _ => exact .inl earlier

/-- Locks, and they alone, have the index 1. -/
def Typed (db : Db) : Prop := ∀ row ∈ db.transactions, row.type = .lock ↔ row.id.index = 1

theorem typed_view (chain : Storage.Chain (Lawful request) writes db) (typed : Typed db) :
    Typed (Storage.view writes db) := by
  induction writes generalizing db with
  | nil => exact typed
  | cons write writes ih =>
    apply ih chain.2
    intro row member
    cases write with
    | transaction written =>
      rcases Table.mem_put.mp member with rfl | ⟨stored, _⟩
      · have lawful := chain.1
        cases found : db.transactions.get row.id with
        | none =>
          simp only [Lawful, found] at lawful
          exact lawful.2.2.2
        | some old =>
          simp only [Lawful, found] at lawful
          have type : row.type = old.type := congrArg TransactionTerms.type lawful
          have key : old.id = row.id := Table.key_of_get found
          rw [type, ← key]
          exact typed old (Table.mem_of_get found)
      · exact typed row stored
    | deleteTransaction written => exact typed row (Table.mem_remove.mp member).1
    | _ => exact typed row member

end Statuses

/-- No two active escrows have one scope. -/
def ActiveUnique (db : Db) : Prop :=
  ∀ first ∈ db.escrows, ∀ second ∈ db.escrows, first.scope = second.scope → first.status.terminal = false →
    second.status.terminal = false → first = second

theorem activeScopeClashes_iff {row : Escrow} : activeScopeClashes row db = true ↔ row.status.terminal = false ∧
    ∃ other ∈ db.escrows, other.id ≠ row.id ∧ other.scope = row.scope ∧ other.status.terminal = false := by
  simp only [activeScopeClashes, Bool.and_eq_true, Bool.not_eq_true', List.any_eq_true, decide_eq_true_eq, and_assoc]
  exact Iff.rfl

theorem activeUnique_put {row : Escrow} (free : activeScopeClashes row db = false) (unique : ActiveUnique db) :
    ActiveUnique { db with escrows := db.escrows.put row } := by
  have alone : ∀ other ∈ db.escrows, other.id ≠ row.id → other.scope = row.scope → row.status.terminal = false →
      other.status.terminal = false → False := by
    intro other member different scope active otherActive
    have clash := activeScopeClashes_iff.mpr ⟨active, other, member, different, scope, otherActive⟩
    rw [free] at clash
    cases clash
  intro first firstIn second secondIn scope firstActive secondActive
  rcases Table.mem_put.mp firstIn with rfl | ⟨firstOld, firstKey⟩ <;>
    rcases Table.mem_put.mp secondIn with rfl | ⟨secondOld, secondKey⟩
  · rfl
  · exact (alone second secondOld secondKey scope.symm firstActive secondActive).elim
  · exact (alone first firstOld firstKey scope secondActive firstActive).elim
  · exact unique first firstOld second secondOld scope firstActive secondActive

theorem activeUnique_view (chain : Storage.Chain Indexed writes db) (unique : ActiveUnique db) :
    ActiveUnique (Storage.view writes db) := by
  apply chain.invariant _ unique
  intro db write indexed unique
  cases write with
  | escrow row => exact activeUnique_put indexed unique
  | deleteEscrow row =>
    intro first firstIn second secondIn
    exact unique first (Table.mem_remove.mp firstIn).1 second (Table.mem_remove.mp secondIn).1
  | _ => exact unique

/-- An active escrow is the one of its scope, whatever its status becomes. -/
theorem ActiveUnique.free (unique : ActiveUnique db) {escrow : Escrow} (member : escrow ∈ db.escrows)
    (active : escrow.status.terminal = false) (toStatus : EscrowStatus) :
    activeScopeClashes { escrow with status := toStatus } db = false := by
  rw [← Bool.not_eq_true, activeScopeClashes_iff]
  rintro ⟨_, other, otherIn, different, scope, otherActive⟩
  have same : other = escrow := unique other otherIn escrow member scope otherActive active
  subst same
  exact different rfl

end PactAgent.Store
