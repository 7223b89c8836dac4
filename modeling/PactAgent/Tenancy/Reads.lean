import PactAgent.Common.Errors
import PactAgent.Foundation.Pages

/-! What a tenant reads of its agreements and escrows: one row by its id, and pages of
rows behind a cursor. -/

namespace PactAgent.Tenancy
open Common Foundation Foundation.Pages

structure Agreement where
  id : String
  appId : String
  externalReferenceId : Option String
  title : String
  description : String
  clientExternalId : Option String
  workerExternalId : Option String
  amount : String
  currency : String
  deadlineAt : Int
  releaseMode : String
  disputeMode : String
  sourceType : Option String
  sourceUrl : Option String
  metadataJson : Option String
  settlementStatus : String
  fundingConfirmedAt : Option Int
  status : String
  createdAt : Int
  updatedAt : Int
  deriving DecidableEq, Repr

structure Milestone where
  id : String
  appId : String
  agreementId : String
  amount : String
  sortOrder : Int
  status : String
  deriving DecidableEq, Repr

structure Escrow where
  id : String
  appId : String
  agreementId : String
  milestoneId : Option String
  amount : String
  currency : String
  rail : String
  network : String
  status : String
  lockAddress : Option String
  lockTxHash : Option String
  lockOutputIndex : Option Int
  lockScriptJson : Option String
  clientLockScriptJson : Option String
  workerLockScriptJson : Option String
  cellData : Option String
  contractVersion : Option Int
  refundTimeoutSince : Option String
  releaseTxHash : Option String
  refundTxHash : Option String
  createdAt : Int
  updatedAt : Int
  deriving DecidableEq, Repr

instance : Keyed Agreement String := ⟨Agreement.id⟩
instance : Keyed Milestone String := ⟨Milestone.id⟩
instance : Keyed Escrow String := ⟨Escrow.id⟩

structure Database where
  agreements : Table Agreement
  milestones : Table Milestone
  escrows : Table Escrow

/-- `orderBy: [{ createdAt: 'desc' }, { id: 'desc' }]`. -/
def Agreement.position (agreement : Agreement) : Int ×ₗ String := toLex (agreement.createdAt, agreement.id)

def Escrow.position (escrow : Escrow) : Int ×ₗ String := toLex (escrow.createdAt, escrow.id)

/-- The part of a milestone that an agreement includes. -/
structure MilestoneSummary where
  id : String
  amount : String
  status : String
  deriving DecidableEq, Repr

/-- The milestones of an agreement. The relation joins on the id and on the app. -/
def Agreement.milestones (agreement : Agreement) (database : Database) : List Milestone :=
  database.milestones.rows.filter fun milestone =>
    milestone.agreementId = agreement.id && milestone.appId = agreement.appId

def Milestone.summary (milestone : Milestone) : MilestoneSummary := ⟨milestone.id, milestone.amount, milestone.status⟩

/-- An agreement with the milestones that are included. -/
structure AgreementRecord where
  agreement : Agreement
  milestones : List MilestoneSummary
  deriving DecidableEq, Repr

/-- An optional parameter; JavaScript takes `''` for none. -/
def given (parameter : Option String) : Option String := parameter.filter (· ≠ "")

/-- A filter of the `where` clause that is there only when its parameter is given. -/
def matches' (parameter : Option String) (value : Option String) : Bool :=
  match given parameter with
  | some wanted => value = some wanted
  | none => true

/-- `escrowListQuerySchema`. -/
structure EscrowListQuery where
  agreementId : Option String
  status : Option String
  limit : Nat
  cursor : Option String
  positive : 1 ≤ limit
  bounded : limit ≤ 100

/-- `agreementListQuerySchema`. -/
structure AgreementListQuery where
  status : Option String
  externalReferenceId : Option String
  limit : Nat
  cursor : Option String
  positive : 1 ≤ limit
  bounded : limit ≤ 100

namespace Repository

def findEscrowForApp (app escrowId : String) (database : Database) : Option Escrow :=
  database.escrows.first fun escrow => escrow.id = escrowId && escrow.appId = app

def escrowPasses (app : String) (query : EscrowListQuery) (escrow : Escrow) : Bool :=
  escrow.appId = app && matches' query.agreementId (some escrow.agreementId) && matches' query.status (some escrow.status)

/-- The cursor is passed with `skip: 1`. -/
def listEscrowsForApp (app : String) (query : EscrowListQuery) (database : Database) : List Escrow :=
  findMany Escrow.position (escrowPasses app query) (given query.cursor) (query.limit + 1) database.escrows

/-- The `include` of `findAgreementForApp` is ordered. -/
def findAgreementForApp (app agreementId : String) (database : Database) : Option AgreementRecord :=
  (database.agreements.first fun agreement => agreement.id = agreementId && agreement.appId = app).map fun agreement =>
    ⟨agreement, ((agreement.milestones database).mergeSort fun one other => one.sortOrder ≤ other.sortOrder).map
      Milestone.summary⟩

def agreementPasses (app : String) (query : AgreementListQuery) (agreement : Agreement) : Bool :=
  agreement.appId = app && matches' query.status (some agreement.status)
    && matches' query.externalReferenceId agreement.externalReferenceId

/-- The `include` of a list has no order: its rows come as the table has them. -/
def listAgreementsForApp (app : String) (query : AgreementListQuery) (database : Database) : List AgreementRecord :=
  (findMany Agreement.position (agreementPasses app query) (given query.cursor) (query.limit + 1)
    database.agreements).map fun agreement => ⟨agreement, (agreement.milestones database).map Milestone.summary⟩

end Repository

/-- A page as the service returns it, before its rows are serialized. -/
structure Page (Row : Type) where
  data : List Row
  limit : Nat
  cursor : Option String
  deriving DecidableEq, Repr

/-- The cursor of the next page is the last row of this one when one more row has been read. -/
def page {Row : Type} (id : Row → String) (limit : Nat) (rows : List Row) : Page Row :=
  ⟨rows.take limit, limit, if limit < rows.length then (rows.take limit).getLast?.map id else none⟩

def getEscrowForApp (app escrowId : String) (database : Database) : Except AppError Escrow :=
  match Repository.findEscrowForApp app escrowId database with
  | some escrow => pure escrow
  | none => throw (notFound "Escrow not found." "escrow_not_found")

def listEscrowsForApp (app : String) (query : EscrowListQuery) (database : Database) : Page Escrow :=
  page Escrow.id query.limit (Repository.listEscrowsForApp app query database)

def listAgreementsForApp (app : String) (query : AgreementListQuery) (database : Database) : Page AgreementRecord :=
  page (fun record => record.agreement.id) query.limit (Repository.listAgreementsForApp app query database)

/-- Databases with the same rows of an app; of milestones, in the same order. -/
structure SameRows (app : String) (database other : Database) : Prop where
  agreements : Agree (fun agreement => agreement.appId = app) database.agreements other.agreements
  milestones : other.milestones.rows.filter (fun milestone => milestone.appId = app) =
    database.milestones.rows.filter (fun milestone => milestone.appId = app)
  escrows : Agree (fun escrow => escrow.appId = app) database.escrows other.escrows

section Reads
variable {app : String} {database other : Database}

theorem SameRows.milestonesOf (same : SameRows app database other) {agreement : Agreement} (own : agreement.appId = app) :
    agreement.milestones other = agreement.milestones database := by
  have narrowed : ∀ given : Database, agreement.milestones given =
      (given.milestones.rows.filter fun milestone => milestone.appId = app).filter fun milestone =>
        milestone.agreementId = agreement.id := by
    intro given
    rw [List.filter_filter, Agreement.milestones, own]
  rw [narrowed, narrowed, same.milestones]

/-- The first row of the app under an id is the only one. -/
theorem first_agree {Row : Type} [Keyed Row String] {owner : Row → String} {table table' : Table Row}
    (same : Agree (fun row => owner row = app) table table') (id : String) :
    (table'.first fun row => Keyed.key row = id && owner row = app) =
      table.first fun row => Keyed.key row = id && owner row = app := by
  have passed : ∀ {row : Row}, (decide (Keyed.key row = id) && decide (owner row = app)) = true →
      Keyed.key row = id ∧ owner row = app := by
    intro row both
    simpa using both
  cases found : table.first fun row => Keyed.key row = id && owner row = app with
  | none =>
    apply List.find?_eq_none.mpr
    intro row member passes
    have earlier := (same row (passed passes).2).mpr member
    rw [Table.first_none found earlier] at passes
    cases passes
  | some row =>
    obtain ⟨member, passes⟩ := Table.first_some found
    obtain ⟨keyed, own⟩ := passed passes
    have there : row ∈ table' := (same row own).mp member
    cases found' : table'.first fun row => Keyed.key row = id && owner row = app with
    | none =>
      rw [Table.first_none found' there] at passes
      cases passes
    | some row' =>
      obtain ⟨member', passes'⟩ := Table.first_some found'
      rw [Table.eq_of_key_eq member' there ((passed passes').1.trans keyed.symm)]

theorem findEscrowForApp_agree (same : SameRows app database other) (escrowId : String) :
    Repository.findEscrowForApp app escrowId other = Repository.findEscrowForApp app escrowId database :=
  first_agree same.escrows escrowId

theorem findAgreementForApp_agree (same : SameRows app database other) (agreementId : String) :
    Repository.findAgreementForApp app agreementId other = Repository.findAgreementForApp app agreementId database := by
  have found : (other.agreements.first fun agreement => agreement.id = agreementId && agreement.appId = app) =
      database.agreements.first fun agreement => agreement.id = agreementId && agreement.appId = app :=
    first_agree same.agreements agreementId
  unfold Repository.findAgreementForApp
  rw [found]
  cases read : database.agreements.first fun agreement => agreement.id = agreementId && agreement.appId = app with
  | none => rfl
  | some agreement =>
    have own := (Table.first_some read).2
    rw [Bool.and_eq_true, decide_eq_true_eq, decide_eq_true_eq] at own
    rw [Option.map_some, Option.map_some, same.milestonesOf own.2]

theorem escrowPasses_own {query : EscrowListQuery} (escrow : Escrow)
    (passes : Repository.escrowPasses app query escrow = true) : escrow.appId = app := by
  simp only [Repository.escrowPasses, Bool.and_eq_true, decide_eq_true_eq] at passes
  exact passes.1.1

theorem agreementPasses_own {query : AgreementListQuery} (agreement : Agreement)
    (passes : Repository.agreementPasses app query agreement = true) : agreement.appId = app := by
  simp only [Repository.agreementPasses, Bool.and_eq_true, decide_eq_true_eq] at passes
  exact passes.1.1

/-- Some time is before and some time is after all of a list. -/
theorem exists_bound {Row : Type} (time : Row → Int) (rows : List Row) :
    ∃ bound, ∀ row ∈ rows, -bound < time row ∧ time row < bound := by
  induction rows with
  | nil => exact ⟨0, nofun⟩
  | cons first rows ih =>
    obtain ⟨bound, within⟩ := ih
    refine ⟨max bound (|time first| + 1), ?_⟩
    intro row member
    rcases List.mem_cons.mp member with rfl | member
    · have first := neg_abs_le (time row)
      have last := le_abs_self (time row)
      omega
    · have bounds := within row member
      omega

theorem before_of_time {first second : Int} (earlier : first < second) (id id' : String) :
    (toLex (first, id) : Int ×ₗ String) < toLex (second, id') :=
  Prod.Lex.toLex_lt_toLex.mpr (.inl earlier)

/-- An app that is not this one. -/
theorem exists_foreign (app : String) : ∃ foreign : String, foreign ≠ app := by
  refine ⟨app ++ "x", ?_⟩
  intro same
  have letters := congrArg String.length same
  rw [String.length_append] at letters
  have one : "x".length = 1 := rfl
  omega

def blankEscrow (id appId : String) (createdAt : Int) : Escrow :=
  ⟨id, appId, "agreement", none, "1", "CKB", "mock", "sandbox", "funded", none, none, none, none, none, none, none, none,
    none, none, none, createdAt, createdAt⟩

def blankAgreement (id appId : String) (createdAt : Int) : Agreement :=
  ⟨id, appId, none, "title", "description", none, none, "1", "CKB", createdAt, "manual", "app_managed", none, none, none,
    "UNFUNDED", none, "draft", createdAt, createdAt⟩

theorem escrow_ends (app : String) (key : String) (rows : List Escrow) : ∃ early late : Escrow,
    Keyed.key early = key ∧ Keyed.key late = key ∧ ¬early.appId = app ∧ ¬late.appId = app ∧
      ∀ row ∈ rows, early.position < row.position ∧ row.position < late.position := by
  obtain ⟨bound, within⟩ := exists_bound Escrow.createdAt rows
  obtain ⟨foreign, different⟩ := exists_foreign app
  refine ⟨blankEscrow key foreign (-bound), blankEscrow key foreign bound, rfl, rfl, different, different, ?_⟩
  intro row member
  exact ⟨before_of_time (within row member).1 _ _, before_of_time (within row member).2 _ _⟩

theorem agreement_ends (app : String) (key : String) (rows : List Agreement) : ∃ early late : Agreement,
    Keyed.key early = key ∧ Keyed.key late = key ∧ ¬early.appId = app ∧ ¬late.appId = app ∧
      ∀ row ∈ rows, early.position < row.position ∧ row.position < late.position := by
  obtain ⟨bound, within⟩ := exists_bound Agreement.createdAt rows
  obtain ⟨foreign, different⟩ := exists_foreign app
  refine ⟨blankAgreement key foreign (-bound), blankAgreement key foreign bound, rfl, rfl, different, different, ?_⟩
  intro row member
  exact ⟨before_of_time (within row member).1 _ _, before_of_time (within row member).2 _ _⟩

theorem escrow_separates (one other : Escrow) (same : one.position = other.position) : one.id = other.id :=
  congrArg (fun position : Int ×ₗ String => (ofLex position).2) same

theorem agreement_separates (one other : Agreement) (same : one.position = other.position) : one.id = other.id :=
  congrArg (fun position : Int ×ₗ String => (ofLex position).2) same

theorem listEscrows_iff (query : EscrowListQuery) :
    (∀ other, SameRows app database other →
      Repository.listEscrowsForApp app query other = Repository.listEscrowsForApp app query database) ↔
      Anchored (fun escrow => escrow.appId = app) (Repository.escrowPasses app query) (given query.cursor)
        database.escrows := by
  refine Iff.trans ?_ (agree_iff escrowPasses_own escrow_separates (escrow_ends app) (Nat.succ_pos query.limit))
  constructor
  · intro same escrows agree
    exact same { database with escrows := escrows } ⟨fun _ _ => Iff.rfl, rfl, agree⟩
  · intro same other rows
    exact same other.escrows rows.escrows

theorem listAgreements_iff (query : AgreementListQuery) :
    (∀ other, SameRows app database other →
      Repository.listAgreementsForApp app query other = Repository.listAgreementsForApp app query database) ↔
      Anchored (fun agreement => agreement.appId = app) (Repository.agreementPasses app query) (given query.cursor)
        database.agreements := by
  refine Iff.trans ?_
    (agree_iff agreementPasses_own agreement_separates (agreement_ends app) (Nat.succ_pos query.limit))
  constructor
  · intro same agreements agree
    have records := same { database with agreements := agreements } ⟨agree, rfl, fun _ _ => Iff.rfl⟩
    have rows := congrArg (List.map AgreementRecord.agreement) records
    unfold Repository.listAgreementsForApp at rows
    rw [List.map_map, List.map_map] at rows
    exact (List.map_id _).symm.trans (rows.trans (List.map_id _))
  · intro same other rows
    unfold Repository.listAgreementsForApp
    rw [same other.agreements rows.agreements]
    apply List.map_congr_left
    intro agreement member
    rw [rows.milestonesOf (agreementPasses_own agreement (passes_of_mem member))]

end Reads

/-- A tenant's reads are a function of its own rows, but for a cursor that is no row of the tenant. -/
theorem reads_confined_iff (app : String) (database : Database) :
    (∀ other, SameRows app database other → ∀ id,
      Repository.findEscrowForApp app id other = Repository.findEscrowForApp app id database ∧
      getEscrowForApp app id other = getEscrowForApp app id database ∧
      Repository.findAgreementForApp app id other = Repository.findAgreementForApp app id database) ∧
    (∀ query : EscrowListQuery,
      (∀ other, SameRows app database other →
        Repository.listEscrowsForApp app query other = Repository.listEscrowsForApp app query database) ↔
        Anchored (fun escrow => escrow.appId = app) (Repository.escrowPasses app query) (given query.cursor)
          database.escrows) ∧
    ∀ query : AgreementListQuery,
      (∀ other, SameRows app database other →
        Repository.listAgreementsForApp app query other = Repository.listAgreementsForApp app query database) ↔
        Anchored (fun agreement => agreement.appId = app) (Repository.agreementPasses app query) (given query.cursor)
          database.agreements :=
  ⟨fun _ same id => ⟨findEscrowForApp_agree same id, by rw [getEscrowForApp, getEscrowForApp, findEscrowForApp_agree same],
      findAgreementForApp_agree same id⟩,
    fun query => listEscrows_iff query, fun query => listAgreements_iff query⟩

/-- One escrow of the app, and one of another app that is made at the time. -/
def neighbouring (time : Int) : Database :=
  ⟨Table.empty, Table.empty, ⟨[blankEscrow "mine" "app" 5, blankEscrow "theirs" "other" time],
    by simp [Keyed.key, blankEscrow]⟩⟩

/-- The first page behind the other app's escrow. -/
def probe : EscrowListQuery := ⟨none, none, 20, some "theirs", by decide, by decide⟩

/-- The pages tell when another app's escrow has been made. -/
theorem probe_tells : SameRows "app" (neighbouring 4) (neighbouring 6) ∧
    (listEscrowsForApp "app" probe (neighbouring 4)).data.map Escrow.id = [] ∧
    (listEscrowsForApp "app" probe (neighbouring 6)).data.map Escrow.id = ["mine"] := by
  refine ⟨⟨fun _ _ => Iff.rfl, rfl, ?_⟩, by decide +kernel, by decide +kernel⟩
  intro escrow own
  simp only [Table.mem_def, neighbouring, List.mem_cons, List.not_mem_nil, or_false]
  have foreign : ∀ time, escrow ≠ blankEscrow "theirs" "other" time := by
    rintro time rfl
    exact absurd (show "other" = "app" from own) (by decide)
  constructor
  · rintro (mine | theirs)
    · exact .inl mine
    · exact absurd theirs (foreign 4)
  · rintro (mine | theirs)
    · exact .inl mine
    · exact absurd theirs (foreign 6)

end PactAgent.Tenancy
