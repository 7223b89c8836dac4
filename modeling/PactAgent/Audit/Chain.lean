import PactAgent.Foundation.ReadCommitted

/-! The audit log. A trigger links each new row to an earlier one by a hash, a second
trigger refuses to change rows, and a script checks the links. Transactions that write the
log run next to each other. -/

namespace PactAgent.Audit
open PactAgent.Foundation PactAgent.Foundation.Execution PactAgent.Foundation.ReadCommitted

/-- The functions of the database: `encode(digest(text, 'sha256'), 'hex')` and the text of
a timestamp, which is in milliseconds here. -/
structure Functions where
  sha256Hex : String → String
  timestampText : Int → String

structure AuditLog where
  id : String
  appId : Option String
  agreementId : Option String
  actorAddress : Option String
  actorType : String
  actorId : Option String
  action : String
  resourceType : String
  resourceId : String
  targetType : Option String
  targetId : Option String
  metadataJson : Option String
  beforeJson : Option String
  afterJson : Option String
  ipAddress : Option String
  userAgent : Option String
  requestId : Option String
  previousHash : Option String
  recordHash : Option String
  createdAt : Int
deriving DecidableEq, Repr

section Repository

inductive ActorType where
  | apiKey
  | user
  | system
  | agent

def ActorType.text : ActorType → String
  | .apiKey => "api_key"
  | .user => "user"
  | .system => "system"
  | .agent => "agent"

/-- The values before and after are given by their JSON texts. -/
structure CreateInfrastructureAuditLogInput where
  appId : Option String
  agreementId : Option String
  actorType : ActorType
  actorId : Option String
  actorAddress : Option String
  action : String
  targetType : String
  targetId : String
  before : Option String
  after : Option String
  ipAddress : Option String
  userAgent : Option String
  requestId : Option String

/-- The row as the repository inserts it, with the defaults of its id and its time. -/
def createInfrastructureAuditLog (id : String) (createdAt : Int) (input : CreateInfrastructureAuditLogInput) :
    AuditLog where
  id := id
  appId := input.appId
  agreementId := input.agreementId
  actorAddress := input.actorAddress
  actorType := input.actorType.text
  actorId := input.actorId
  action := input.action
  resourceType := input.targetType
  resourceId := input.targetId
  targetType := some input.targetType
  targetId := some input.targetId
  metadataJson := none
  beforeJson := input.before
  afterJson := input.after
  ipAddress := input.ipAddress
  userAgent := input.userAgent
  requestId := input.requestId
  previousHash := none
  recordHash := none
  createdAt := createdAt

end Repository

section Hash
variable (functions : Functions)

/-- `concat_ws('|', ...)` of texts none of which is NULL. -/
def concatWs (texts : List String) : String := String.ofList (List.intercalate ['|'] (texts.map String.toList))

/-- The columns between the previous hash and the time, with `''` for NULL. -/
def AuditLog.columns (row : AuditLog) : List String :=
  [row.id, row.appId.getD "", row.actorType, row.action, row.resourceType, row.resourceId,
    row.beforeJson.getD "", row.afterJson.getD ""]

def hashedText (priorHash : Option String) (row : AuditLog) : String :=
  concatWs (priorHash.getD "" :: row.columns ++ [functions.timestampText row.createdAt])

def recordHashOf (priorHash : Option String) (row : AuditLog) : String :=
  functions.sha256Hex (hashedText functions priorHash row)

/-- Whether the row comes before the other in `ORDER BY "createdAt" DESC, "id" DESC`. -/
def AuditLog.newer (row other : AuditLog) : Bool :=
  other.createdAt < row.createdAt || other.createdAt = row.createdAt && decide (other.id < row.id)

/-- The first row of the order, if there is one. -/
def newest : List AuditLog → Option AuditLog
  | [] => none
  | row :: rows =>
      match newest rows with
      | none => some row
      | some other => if other.newer row then some other else some row

/-- The trigger's query. -/
def priorHash (visible : List AuditLog) : Option String :=
  (newest (visible.filter fun row => row.recordHash.isSome)).bind AuditLog.recordHash

/-- What `pactagent_hash_audit_log` makes of the new row after its query. -/
def pactagentHashAuditLog (prior : Option String) (row : AuditLog) : AuditLog :=
  { row with previousHash := prior, recordHash := some (recordHashOf functions prior row) }

/-- The condition of the script's query on one row. -/
def isBroken (rows : List AuditLog) (current : AuditLog) : Bool :=
  current.recordHash.isSome &&
    (current.previousHash.any (fun hash => !rows.any fun previous => previous.recordHash = some hash)
      || current.recordHash ≠ some (recordHashOf functions current.previousHash current))

def verifyAuditChain (rows : List AuditLog) : Except String Unit :=
  let broken := (rows.filter (isBroken functions rows)).length
  if broken > 0 then .error s!"Audit chain verification failed for {broken} row(s)."
  else .ok ()

end Hash

section System
variable (functions : Functions)

inductive Write where
  | insert (row : AuditLog)

/-- The entries of the unique indexes. -/
inductive Lock where
  | id (id : String)
  | recordHash (hash : Option String)
deriving DecidableEq

def Lock.covers : Lock → AuditLog → Bool
  | .id value, row => row.id = value
  | .recordHash value, row => row.recordHash = value

instance : Storage (List AuditLog) Write Lock where
  apply := fun ⟨row⟩ rows => rows ++ [row]
  locks := fun ⟨row⟩ => [.id row.id, .recordHash row.recordHash]
  agree lock first second := first.filter lock.covers = second.filter lock.covers
  agree_refl _ _ := rfl
  agree_trans _ _ _ _ first second := first.trans second
  agree_apply := by
    rintro ⟨row⟩ lock rows free
    have outside : lock.covers row = false := by
      simp only [List.mem_cons, List.not_mem_nil, or_false, not_or] at free
      cases lock with
      | id value =>
        apply decide_eq_false
        intro same
        exact free.1 (congrArg Lock.id same.symm)
      | recordHash value =>
        apply decide_eq_false
        intro same
        exact free.2 (congrArg Lock.recordHash same.symm)
    rw [List.filter_append, List.filter_cons, outside]
    simp
  agree_congr := by
    rintro ⟨row⟩ lock first second agree
    rw [List.filter_append, List.filter_append, agree]

inductive Query where
  /-- The query of the trigger. -/
  | head
  /-- The insertion of the row into the table and its indexes. -/
  | insert
  /-- An UPDATE or a DELETE. -/
  | mutate

abbrev Tx := Program (List AuditLog) Write Query String

inductive Statement where
  | insert (row : AuditLog)
  | mutate (id : String)

def clashes (row : AuditLog) (rows : List AuditLog) : Bool :=
  rows.any fun other => other.id = row.id || other.recordHash = row.recordHash

/-- A statement on the log. The trigger of an insertion reads before the indexes are
checked, and others may commit in between. -/
def Statement.run : Statement → Tx Unit
  | .insert row => do
      let prior ← Program.statement .head fun _ visible => .ok (priorHash visible, [])
      let stored := pactagentHashAuditLog functions prior row
      Program.statement .insert fun _ visible =>
        if clashes stored visible then .error "duplicate key value violates unique constraint"
        else .ok ((), [.insert stored])
  | .mutate id =>
      Program.statement .mutate fun _ visible =>
        if visible.any fun row => row.id = id then .error "AuditLog is append-only"
        else .ok ((), [])

def runAll : List Statement → Tx Unit
  | [] => pure ()
  | statement :: statements => do
      statement.run functions
      runAll statements

/-- A process is one transaction. -/
inductive Phase where
  | writing (statements : List Statement)
  | committed
  | rolledBack

def app : App (List AuditLog) Write Query String Phase Unit Empty (List Statement) where
  arrival _ statements := .writing statements
  body _ phase :=
    match phase with
    | .writing statements => some do
        runAll functions statements
        return .committed
    | .committed | .rolledBack => none
  caught _ _ := .rolledBack
  outside _ _ _ _ := none

abbrev State := ReadCommitted.State (List AuditLog) Write Lock Query String Phase Unit

abbrev Action := ReadCommitted.Action String Empty (List Statement)

end System

section Sealed
variable (functions : Functions)

/-- The row carries its own hash, and its predecessor is there. -/
structure Linked (rows : List AuditLog) (row : AuditLog) : Prop where
  previous : ∀ hash, row.previousHash = some hash → ∃ previous ∈ rows, previous.recordHash = some hash
  own : row.recordHash = some (recordHashOf functions row.previousHash row)

def Sealed (rows : List AuditLog) : Prop := ∀ row ∈ rows, Linked functions rows row

/-- Every row stays. -/
def Grows (before after : List AuditLog) : Prop := ∀ row ∈ before, row ∈ after

/-- The committed rows are linked, and they stay. -/
def chain : Assertions (List AuditLog) Query Phase Unit where
  holds := Sealed functions
  knows _ _ _ _ := True
  rely _ _ _ before after := Grows before after
  rely_refl _ _ _ _ _ member := member
  rely_trans _ _ _ _ _ _ earlier later row member := later row (earlier row member)

variable {functions} {rows more : List AuditLog} {row : AuditLog}

theorem Linked.mono (linked : Linked functions rows row) (grows : Grows rows more) : Linked functions more row where
  previous hash previous := by
    obtain ⟨found, member, same⟩ := linked.previous hash previous
    exact ⟨found, grows found member, same⟩
  own := linked.own

theorem linked_iff (hashed : row.recordHash.isSome = true) :
    isBroken functions rows row = false ↔ Linked functions rows row := by
  simp only [isBroken, hashed, Bool.true_and, Bool.or_eq_false_iff, decide_eq_false_iff_not, not_not]
  constructor
  · rintro ⟨found, own⟩
    refine ⟨?_, own⟩
    intro hash previous
    rw [previous, Option.any_some, Bool.not_eq_false'] at found
    obtain ⟨row, member, same⟩ := List.any_eq_true.mp found
    exact ⟨row, member, of_decide_eq_true same⟩
  · intro linked
    refine ⟨?_, linked.own⟩
    cases previous : row.previousHash with
    | none => rfl
    | some hash =>
      obtain ⟨found, member, same⟩ := linked.previous hash previous
      rw [Option.any_some, Bool.not_eq_false', List.any_eq_true]
      exact ⟨found, member, decide_eq_true same⟩

theorem verify_ok : verifyAuditChain functions rows = .ok () ↔ ∀ row ∈ rows, isBroken functions rows row = false := by
  unfold verifyAuditChain
  simp only [gt_iff_lt, List.length_pos_iff, ne_eq, ite_not]
  split
  · next none =>
    refine iff_of_true rfl ?_
    intro row member
    exact Bool.not_eq_true _ ▸ List.filter_eq_nil_iff.mp none row member
  · next found =>
    refine iff_of_false (by simp) ?_
    intro each
    apply found
    rw [List.filter_eq_nil_iff]
    intro row member
    rw [each row member]
    exact Bool.false_ne_true

theorem Sealed.verify (sealing : Sealed functions rows) : verifyAuditChain functions rows = .ok () := by
  rw [verify_ok]
  intro row member
  have linked := sealing row member
  apply (linked_iff _).mpr linked
  rw [linked.own]
  rfl

theorem newest_mem (found : newest rows = some row) : row ∈ rows := by
  induction rows generalizing row with
  | nil => cases found
  | cons first rest ih =>
    simp only [newest] at found
    split at found
    · cases found
      exact List.mem_cons_self
    · next other later =>
      split at found
      · cases found
        exact List.mem_cons_of_mem _ (ih later)
      · cases found
        exact List.mem_cons_self

/-- The query of the trigger answers with the hash of a row that it sees. -/
theorem priorHash_seen {hash : String} (prior : priorHash rows = some hash) :
    ∃ previous ∈ rows, previous.recordHash = some hash := by
  obtain ⟨previous, found, same⟩ := Option.bind_eq_some_iff.mp prior
  exact ⟨previous, (List.mem_filter.mp (newest_mem found)).1, same⟩

theorem Sealed.insert (sealing : Sealed functions rows) {prior : Option String}
    (seen : ∀ hash, prior = some hash → ∃ previous ∈ rows, previous.recordHash = some hash) :
    Sealed functions (rows ++ [pactagentHashAuditLog functions prior row]) := by
  have grows : Grows rows (rows ++ [pactagentHashAuditLog functions prior row]) :=
    fun _ member => List.mem_append_left _ member
  intro stored member
  rcases List.mem_append.mp member with old | new
  · exact (sealing stored old).mono grows
  · cases List.mem_singleton.mp new
    refine ⟨?_, rfl⟩
    intro hash same
    obtain ⟨previous, found, own⟩ := seen hash same
    exact ⟨previous, grows previous found, own⟩

end Sealed

section Transactions
variable {functions : Functions} {before after : Point (List AuditLog) Write Query}

theorem view_eq (writes : List Write) (rows : List AuditLog) :
    Storage.view writes rows = rows ++ writes.map fun ⟨row⟩ => row := by
  induction writes generalizing rows with
  | nil => rw [Storage.view_nil, List.map_nil, List.append_nil]
  | cons write writes ih =>
    rw [Storage.view_cons, ih, List.map_cons]
    exact List.append_assoc rows [write.1] _

/-- Commits of others leave what the transaction sees linked, and take nothing from it. -/
theorem later_sealed {rely : List Query → List AuditLog → List AuditLog → Prop}
    (keeps : ∀ log first second, rely log first second → Grows first second)
    (later : Later rely (Sealed functions) before after) (sealing : Sealed functions before.view) :
    Sealed functions after.view ∧ Grows before.view after.view := by
  have grows : Grows before.view after.view := by
    intro row member
    rw [Point.view, view_eq] at member ⊢
    rw [later.writes]
    rcases List.mem_append.mp member with stored | own
    · exact List.mem_append_left _ (keeps _ _ _ later.rely row stored)
    · exact List.mem_append_right _ own
  refine ⟨?_, grows⟩
  intro row member
  have seen := member
  rw [Point.view, view_eq] at seen
  rcases List.mem_append.mp seen with stored | own
  · apply (later.good row stored).mono
    intro other member
    rw [Point.view, view_eq]
    exact List.mem_append_left _ member
  · apply (sealing row _).mono grows
    rw [Point.view, view_eq, ← later.writes]
    exact List.mem_append_right _ own

variable {id : Nat} {phase : Phase}

theorem statement_sealed {statement : Statement}
    (outcome : Outcome ((chain functions).rely id phase) (Sealed functions) (statement.run functions) before () after)
    (sealing : Sealed functions before.view) : Sealed functions after.view := by
  have keeps : ∀ log first second, (chain functions).rely id phase log first second → Grows first second :=
    fun _ _ _ grows => grows
  cases statement with
  | insert row =>
    obtain ⟨prior, middle, asked, inserted⟩ := outcome_bind.mp outcome
    obtain ⟨here, _, writes, later, read, rfl⟩ := outcome_statement.mp asked
    obtain ⟨there, _, added, later', executed, rfl⟩ := outcome_statement.mp inserted
    cases read
    have first := later_sealed keeps later sealing
    have unchanged : (here.record Query.head []).view = here.view := by
      simp only [Point.view, Point.record, List.append_nil]
    have second := later_sealed keeps later' (unchanged ▸ first.1)
    split at executed
    · cases executed
    · cases executed
      have seen : ∀ hash, priorHash here.view = some hash → ∃ previous ∈ there.view, previous.recordHash = some hash := by
        intro hash prior
        obtain ⟨previous, member, same⟩ := priorHash_seen prior
        exact ⟨previous, second.2 previous (unchanged.symm ▸ member), same⟩
      have inserted : (there.record .insert [.insert (pactagentHashAuditLog functions (priorHash here.view) row)]).view =
          there.view ++ [pactagentHashAuditLog functions (priorHash here.view) row] := by
        simp only [Point.view, Point.record, Storage.view_append]
        rfl
      rw [inserted]
      exact second.1.insert seen
  | mutate target =>
    obtain ⟨here, _, writes, later, executed, rfl⟩ := outcome_statement.mp outcome
    split at executed
    · cases executed
    · cases executed
      have unchanged : (here.record Query.mutate []).view = here.view := by
        simp only [Point.view, Point.record, List.append_nil]
      rw [unchanged]
      exact (later_sealed keeps later sealing).1

theorem runAll_sealed {statements : List Statement}
    (outcome : Outcome ((chain functions).rely id phase) (Sealed functions) (runAll functions statements) before () after)
    (sealing : Sealed functions before.view) : Sealed functions after.view := by
  induction statements generalizing before with
  | nil =>
    obtain ⟨-, rfl⟩ := outcome
    exact sealing
  | cons statement statements ih =>
    obtain ⟨_, middle, first, rest⟩ := outcome_bind.mp outcome
    exact ih rest (statement_sealed first sealing)

theorem chain_preserved (functions : Functions) : Preserved (app functions) (chain functions)
    (fun (_ : State) (_ : Action) => True) where
  arrive _ _ _ _ := trivial
  caught _ _ _ _ _ _ := trivial
  outside _ _ _ external := external.elim
  commit := by
    intro state id phase next log writes _ good _ _ commits
    obtain ⟨body, start, last, runs, ⟨begun, -⟩, outcome, later⟩ := commits
    have sealing : Sealed functions (Storage.view writes state.db) := by
      cases phase with
      | writing statements =>
        cases runs
        obtain ⟨_, middle, ran, -, rfl⟩ := outcome_bind.mp outcome
        have ended := runAll_sealed ran begun
        exact (later_sealed (fun _ _ _ grows => grows) later ended).1
      | committed => cases runs
      | rolledBack => cases runs
    refine ⟨sealing, trivial, ?_⟩
    intro _ _ _ _ _ _
    refine ⟨trivial, ?_⟩
    intro _ _ row member
    rw [view_eq]
    exact List.mem_append_left _ member

/-- After every run the rows of the log are linked. -/
theorem run_sealed {actions : List Action} {state : State}
    (reached : run (ReadCommitted.step (app functions)) (State.initial [] ()) actions = some state) :
    Sealed functions state.db := by
  have sound := Sound.always (chain_preserved functions) (fun _ member => by cases member) actions reached
  exact sound.holds

end Transactions

end PactAgent.Audit
