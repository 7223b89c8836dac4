import PactAgent.Common.FinancialInvariants
import PactAgent.Foundation.Knowledge
import PactAgent.Store.Steady

/-! References between rows: what a row names is there, belongs to the same app and to the
same agreement, and is in its currency. A reference that was read once lasts, so that a
later write of the same transaction may rest on it. -/

namespace PactAgent.Store
open PactAgent.Foundation PactAgent.Foundation.ReadCommitted
open PactAgent.Common PactAgent.Common.Amounts PactAgent.Lifecycle

section Refers

/-- The agreement of the app, in this currency. -/
def UnderAgreement (db : Db) (appId : String) (agreementId : RowId) (currency : String) : Prop :=
  ∃ agreement, db.agreements.get agreementId = some agreement ∧ agreement.appId = appId ∧ agreement.currency = currency

/-- The milestone of the app, under this agreement. -/
def InMilestone (db : Db) (appId : String) (agreementId milestoneId : RowId) : Prop :=
  ∃ milestone, db.milestones.get milestoneId = some milestone ∧ milestone.appId = appId ∧
    milestone.agreementId = agreementId

def Milestone.Refers (db : Db) (row : Milestone) : Prop := UnderAgreement db row.appId row.agreementId row.currency

def Proof.Refers (db : Db) (row : Proof) : Prop := InMilestone db row.appId row.agreementId row.milestoneId

def Review.Refers (db : Db) (row : Review) : Prop :=
  ∃ proof, db.proofs.get row.proofSubmissionId = some proof ∧ proof.appId = row.appId ∧
    proof.agreementId = row.agreementId ∧ proof.milestoneId = row.milestoneId

def Dispute.Refers (db : Db) (row : Dispute) : Prop := InMilestone db row.appId row.agreementId row.milestoneId

/-- The amount fits in that of the milestone, or of the agreement where there is none. -/
def EscrowTerms.Fits (db : Db) (terms : EscrowTerms) : Prop :=
  match terms.scope.milestoneId with
  | some milestoneId => ∃ milestone, db.milestones.get milestoneId = some milestone ∧
      milestone.appId = terms.scope.appId ∧ milestone.agreementId = terms.scope.agreementId ∧
      assertEscrowAmountWithinScope terms.amount milestone.amount .milestone (terms.rail = .ckb) = .ok ()
  | none => ∃ agreement, db.agreements.get terms.scope.agreementId = some agreement ∧
      assertEscrowAmountWithinScope terms.amount agreement.amount .agreement (terms.rail = .ckb) = .ok ()

structure Escrow.Refers (db : Db) (row : Escrow) : Prop where
  agreement : UnderAgreement db row.appId row.agreementId row.currency
  fits : row.terms.Fits db

end Refers

section Lasting
variable {first second : Db}

theorem UnderAgreement.later {appId currency : String} {agreementId : RowId} (steady : Steady first second)
    (under : UnderAgreement first appId agreementId currency) : UnderAgreement second appId agreementId currency := by
  obtain ⟨agreement, stored, owner, same⟩ := under
  obtain ⟨new, found, terms, _⟩ := steady.agreements agreementId agreement stored trivial
  exact ⟨new, found, (congrArg AgreementTerms.appId terms).trans owner,
    (congrArg AgreementTerms.currency terms).trans same⟩

theorem InMilestone.later {appId : String} {agreementId milestoneId : RowId} (steady : Steady first second)
    (inside : InMilestone first appId agreementId milestoneId) : InMilestone second appId agreementId milestoneId := by
  obtain ⟨milestone, stored, owner, under⟩ := inside
  obtain ⟨new, found, status, rfl, _⟩ := steady.milestones milestoneId milestone stored trivial
  exact ⟨_, found, owner, under⟩

theorem Review.Refers.later {row : Review} (steady : Steady first second) (refers : row.Refers first) :
    row.Refers second := by
  obtain ⟨proof, stored, same⟩ := refers
  obtain ⟨new, found, status, rfl, _⟩ := steady.proofs row.proofSubmissionId proof stored trivial
  exact ⟨_, found, same⟩

theorem EscrowTerms.Fits.later {terms : EscrowTerms} (steady : Steady first second) (fits : terms.Fits first) :
    terms.Fits second := by
  unfold EscrowTerms.Fits at fits ⊢
  cases named : terms.scope.milestoneId with
  | some milestoneId =>
    rw [named] at fits
    obtain ⟨milestone, stored, same⟩ := fits
    obtain ⟨new, found, status, rfl, _⟩ := steady.milestones milestoneId milestone stored trivial
    exact ⟨_, found, same⟩
  | none =>
    rw [named] at fits
    obtain ⟨agreement, stored, within⟩ := fits
    obtain ⟨new, found, kept, _⟩ := steady.agreements _ agreement stored trivial
    have amount : new.amount = agreement.amount := congrArg AgreementTerms.amount kept
    exact ⟨new, found, amount ▸ within⟩

theorem Escrow.Refers.later {row : Escrow} (steady : Steady first second) (refers : row.Refers first) :
    row.Refers second :=
  ⟨refers.agreement.later steady, refers.fits.later steady⟩

/-- An update keeps what the row refers to. -/
theorem Milestone.Refers.follow {db : Db} {old new : Milestone} (follows : old.Follows new) (refers : old.Refers db) :
    new.Refers db := by
  obtain ⟨status, rfl, _⟩ := follows
  exact refers

theorem Proof.Refers.follow {db : Db} {old new : Proof} (follows : old.Follows new) (refers : old.Refers db) :
    new.Refers db := by
  obtain ⟨status, rfl, _⟩ := follows
  exact refers

theorem Dispute.Refers.follow {db : Db} {old new : Dispute} (follows : old.Follows new) (refers : old.Refers db) :
    new.Refers db := by
  obtain ⟨app, agreement, milestone, _⟩ := follows
  unfold Dispute.Refers
  rw [app, agreement, milestone]
  exact refers

theorem Escrow.Refers.follow {db : Db} {old new : Escrow} (terms : new.terms = old.terms) (refers : old.Refers db) :
    new.Refers db := by
  obtain ⟨agreement, fits⟩ := refers
  refine ⟨?_, terms ▸ fits⟩
  have app : new.appId = old.appId := congrArg (fun terms => terms.scope.appId) terms
  have under : new.agreementId = old.agreementId := congrArg (fun terms => terms.scope.agreementId) terms
  have currency : new.currency = old.currency := congrArg EscrowTerms.currency terms
  rw [app, under, currency]
  exact agreement

end Lasting

section Linked

/-- The rows of one database refer to rows of another. -/
structure Refer (rows db : Db) : Prop where
  milestones : ∀ row ∈ rows.milestones, row.Refers db
  proofs : ∀ row ∈ rows.proofs, row.Refers db
  reviews : ∀ row ∈ rows.reviews, row.Refers db
  disputes : ∀ row ∈ rows.disputes, row.Refers db
  escrows : ∀ row ∈ rows.escrows, row.Refers db

/-- Every row refers to what is there. -/
def Linked (db : Db) : Prop := Refer db db

/-- A new row refers to what is there. -/
def Fits (db : Db) : Write → Prop
  | .milestone row => db.milestones.get row.id = none → row.Refers db
  | .proof row => db.proofs.get row.id = none → row.Refers db
  | .review row => db.reviews.get row.id = none → row.Refers db
  | .dispute row => db.disputes.get row.id = none → row.Refers db
  | .escrow row => db.escrows.get row.id = none → row.Refers db
  | _ => True

theorem Refer.later {rows first second : Db} (refer : Refer rows first) (steady : Steady first second) :
    Refer rows second where
  milestones row member := (refer.milestones row member).later steady
  proofs row member := (refer.proofs row member).later steady
  reviews row member := (refer.reviews row member).later steady
  disputes row member := (refer.disputes row member).later steady
  escrows row member := (refer.escrows row member).later steady

/-- A written row refers to what is there when it is new, or follows one that does. -/
theorem refers_put {Row : Type} [Keyed Row RowId] {table : Foundation.Table Row} {row : Row} {refers : Row → Prop}
    (fits : table.get (Keyed.key row) = none → refers row)
    (follows : ∀ old, table.get (Keyed.key row) = some old → refers old → refers row)
    (each : ∀ old ∈ table, refers old) : ∀ stored ∈ table.put row, refers stored := by
  intro stored member
  rcases Table.mem_put.mp member with rfl | ⟨before, _⟩
  · cases found : table.get (Keyed.key stored) with
    | none => exact fits found
    | some old => exact follows old found (each old (Table.mem_of_get found))
  · exact each stored before

variable {request : Nat} {db : Db}

theorem linked_write {write : Write} (lawful : Lawful request db write) (fits : Fits db write) (linked : Linked db) :
    Linked (applyWrite write db) := by
  have steady := steady_write lawful
  have refer := Refer.later linked steady
  cases write with
  | milestone row =>
    refine { refer with milestones := refers_put (fun absent => (fits absent).later steady) ?_ refer.milestones }
    intro old stored
    rw [Lawful, show db.milestones.get row.id = some old from stored] at lawful
    obtain ⟨next, valid, same⟩ := lawful
    exact Milestone.Refers.follow ⟨next, same, .single valid⟩
  | proof row =>
    refine { refer with proofs := refers_put (fun absent => (fits absent).later steady) ?_ refer.proofs }
    intro old stored
    rw [Lawful, show db.proofs.get row.id = some old from stored] at lawful
    obtain ⟨next, valid, same⟩ := lawful
    exact Proof.Refers.follow ⟨next, same, .single valid⟩
  | review row =>
    refine { refer with reviews := refers_put (fun absent => (fits absent).later steady) ?_ refer.reviews }
    intro old stored
    rw [Lawful, show db.reviews.get row.id = some old from stored] at lawful
    exact lawful.elim
  | dispute row =>
    refine { refer with disputes := refers_put (fun absent => (fits absent).later steady) ?_ refer.disputes }
    intro old stored refers
    rw [Lawful, show db.disputes.get row.id = some old from stored] at lawful
    obtain ⟨input, now, _, same⟩ := lawful
    rw [same]
    exact refers
  | escrow row =>
    refine { refer with escrows := refers_put (fun absent => (fits absent).later steady) ?_ refer.escrows }
    intro old stored
    rw [Lawful, show db.escrows.get row.id = some old from stored] at lawful
    exact Escrow.Refers.follow lawful.2
  | deleteEscrow row =>
    refine { refer with escrows := ?_ }
    intro stored member
    exact refer.escrows stored (Table.mem_remove.mp member).1
  | _ => exact { refer with }

theorem linked_view {writes : List Write} (lawful : Storage.Chain (Lawful request) writes db)
    (fits : Storage.Chain Fits writes db) (linked : Linked db) : Linked (Storage.view writes db) := by
  induction writes generalizing db with
  | nil => exact linked
  | cons write writes ih => exact ih lawful.2 fits.2 (linked_write lawful.1 fits.1 linked)

theorem linked_empty : Linked Db.empty :=
  ⟨fun _ member => absurd member (Table.not_mem_empty _), fun _ member => absurd member (Table.not_mem_empty _),
    fun _ member => absurd member (Table.not_mem_empty _), fun _ member => absurd member (Table.not_mem_empty _),
    fun _ member => absurd member (Table.not_mem_empty _)⟩

end Linked

section Layers

theorem kept_put {Row : Type} [Keyed Row RowId] {stays : Row → Prop} {follows : Row → Row → Prop}
    {first second : Foundation.Table Row} (reflexive : ∀ row, follows row row) (kept : Table.Kept stays follows first second)
    (row : Row) : Table.Kept stays follows (first.put row) (second.put row) := by
  intro key old found stay
  by_cases same : key = Keyed.key row
  · rw [same] at found ⊢
    rw [Table.get_put_self] at found ⊢
    exact ⟨row, rfl, Option.some.inj found ▸ reflexive row⟩
  · rw [Table.get_put_of_ne same] at found ⊢
    exact kept key old found stay

theorem kept_remove {Row : Type} [Keyed Row RowId] {stays : Row → Prop} {follows : Row → Row → Prop}
    {first second : Foundation.Table Row} (kept : Table.Kept stays follows first second) (key : RowId) :
    Table.Kept stays follows (first.remove key) (second.remove key) := by
  intro other old found stay
  by_cases same : other = key
  · rw [same, Table.get_remove_self] at found
    cases found
  · rw [Table.get_remove_of_ne same] at found ⊢
    exact kept other old found stay

theorem steady_layered : Layered Steady where
  refl := .refl
  trans _ _ _ := .trans
  congr write first second steady := by
    cases write with
    | agreement row => exact { steady with agreements := kept_put Agreement.Follows.refl steady.agreements row }
    | milestone row => exact { steady with milestones := kept_put Milestone.Follows.refl steady.milestones row }
    | proof row => exact { steady with proofs := kept_put Proof.Follows.refl steady.proofs row }
    | review row => exact { steady with reviews := kept_put (fun _ => rfl) steady.reviews row }
    | dispute row => exact { steady with disputes := kept_put Dispute.Follows.refl steady.disputes row }
    | escrow row => exact { steady with escrows := kept_put Escrow.Follows.refl steady.escrows row }
    | deleteEscrow row => exact { steady with escrows := kept_remove steady.escrows row.id }
    | transaction row => exact { steady with transactions := kept_put Transaction.Follows.refl steady.transactions row }
    | deleteTransaction row => exact { steady with transactions := kept_remove steady.transactions row.id }
    | _ => exact { steady with }

/-- What a new row refers to lasts, and that it is new is locked. -/
theorem fits_grounded : Grounded Steady Fits := by
  intro write first second steady agree fits
  cases write with
  | milestone row | proof row | review row | dispute row | escrow row =>
    have same := agree _ List.mem_cons_self
    change _ = _ at same
    intro absent
    exact (fits (same.trans absent)).later steady
  | _ => trivial

end Layers

end PactAgent.Store
