import PactAgent.Foundation.Queues
import PactAgent.Idempotency.Repository
import PactAgent.Jobs.Queue
import PactAgent.Webhooks.Deliveries

/-! The retention of old rows: class by class and batch by batch, the oldest rows first. The
rows of the audit log are not deleted but copied to an archive. Nothing else writes to the
tables during a run. -/

namespace PactAgent.Jobs.Retention
open PactAgent.Foundation PactAgent.Foundation.Queues

section Rows

structure IdempotencyKey where
  id : String
  status : Idempotency.Repository.KeyStatus
  processingExpiresAt : Int
  expiresAt : Int
deriving DecidableEq

structure WebhookDelivery where
  id : String
  eventId : Option String
  status : Webhooks.DeliveryStatus
  updatedAt : Int
deriving DecidableEq

structure Event where
  id : String
  createdAt : Int
deriving DecidableEq

structure AgentJob where
  id : String
  status : JobStatus
  updatedAt : Int
deriving DecidableEq

structure AuditLog where
  id : String
  createdAt : Int
deriving DecidableEq

instance : Keyed IdempotencyKey String := ⟨IdempotencyKey.id⟩
instance : Keyed WebhookDelivery String := ⟨WebhookDelivery.id⟩
instance : Keyed Event String := ⟨Event.id⟩
instance : Keyed AgentJob String := ⟨AgentJob.id⟩
instance : Keyed AuditLog String := ⟨AuditLog.id⟩

/-- The columns that the statements read. -/
structure Db where
  idempotencyKeys : Table IdempotencyKey
  webhookDeliveries : Table WebhookDelivery
  events : Table Event
  jobs : Table AgentJob
  auditLogs : Table AuditLog
  auditLogArchive : Table AuditLog

/-- Rows stand by a time and, at one time, by their ids. -/
def position {Row : Type} [Keyed Row String] (time : Row → Int) (row : Row) : Int ×ₗ String :=
  toLex (time row, Keyed.key row)

theorem position_apart {Row : Type} [Keyed Row String] {time : Row → Int} (one other : Row)
    (same : position time one = position time other) : Keyed.key one = Keyed.key other :=
  congrArg (fun place => (ofLex place).2) same

/-- The rows that are due, the oldest first. -/
def oldest {Row : Type} [Keyed Row String] (time : Row → Int) (due : Row → Bool) (table : Table Row) : List Row :=
  queue (position time) due table

/-- A table of the database. -/
structure Shelf (Row : Type) [Keyed Row String] where
  table : Db → Table Row
  store : Db → Table Row → Db
  table_store : ∀ db rows, table (store db rows) = rows
  store_store : ∀ db first second, store (store db first) second = store db second
  store_table : ∀ db, store db (table db) = db

def IdempotencyKey.due (cutoff : Int) (row : IdempotencyKey) : Bool :=
  row.expiresAt ≤ cutoff || (row.status = .pending && row.processingExpiresAt ≤ cutoff)

def WebhookDelivery.due (cutoff : Int) (row : WebhookDelivery) : Bool :=
  (row.status = .delivered || row.status = .failed) && row.updatedAt < cutoff

/-- An event waits for its deliveries to be gone. -/
def Event.due (cutoff : Int) (deliveries : Table WebhookDelivery) (row : Event) : Bool :=
  row.createdAt < cutoff && !deliveries.rows.any fun delivery => delivery.eventId = some row.id

def AgentJob.due (cutoff : Int) (row : AgentJob) : Bool :=
  (row.status = .completed || row.status = .deadLetter) && row.updatedAt < cutoff

/-- An audit log that is not in the archive. -/
def AuditLog.due (cutoff : Int) (archive : Table AuditLog) (row : AuditLog) : Bool :=
  row.createdAt < cutoff && (archive.get row.id).isNone

end Rows

section Service

structure Settings where
  webhookRetentionDays : Nat
  eventRetentionDays : Nat
  jobRetentionDays : Nat
  auditArchiveAfterDays : Nat

structure RetentionOptions where
  dryRun : Bool
  batchSize : Nat
  maxBatches : Nat

inductive RetentionClass where
  | idempotency
  | webhookDelivery
  | event
  | job
  | auditArchive
deriving DecidableEq, Repr

structure RetentionResult where
  recordClass : RetentionClass
  eligible : Nat
  affected : Nat
  batches : Nat
  truncated : Bool
deriving DecidableEq, Repr

structure RetentionCutoffs where
  idempotency : Int
  webhookDelivery : Int
  event : Int
  job : Int
  auditArchive : Int

/-- Times are in milliseconds. -/
def retentionCutoffs (settings : Settings) (now : Int) : RetentionCutoffs :=
  let daysAgo (days : Nat) : Int := now - days * 86400000
  ⟨now, daysAgo settings.webhookRetentionDays, daysAgo settings.eventRetentionDays, daysAgo settings.jobRetentionDays,
    daysAgo settings.auditArchiveAfterDays⟩

/-- The two statements of a class, at its cutoff. The second one returns the ids of its rows. -/
structure Definition where
  recordClass : RetentionClass
  count : Db → Nat
  mutate : Nat → Db → List String × Db

/-- The statements that delete the oldest rows of a table. -/
def deletion {Row : Type} [Keyed Row String] (recordClass : RetentionClass) (shelf : Shelf Row) (time : Row → Int)
    (due : Db → Row → Bool) : Definition where
  recordClass := recordClass
  count db := (shelf.table db).rows.countP (due db)
  mutate limit db :=
    let candidates := (oldest time (due db) (shelf.table db)).take limit
    (candidates.map Keyed.key, shelf.store db ((shelf.table db).without candidates))

/-- A row is inserted under an id that is free. -/
def insertFree (archive : Table AuditLog) (row : AuditLog) : Table AuditLog :=
  if (archive.get row.id).isNone then archive.put row else archive

/-- The statements that copy the oldest rows of the audit log. Only a row that is inserted is returned. -/
def archiving (recordClass : RetentionClass) (cutoff : Int) : Definition where
  recordClass := recordClass
  count db := db.auditLogs.rows.countP (AuditLog.due cutoff db.auditLogArchive)
  mutate limit db :=
    let candidates := (oldest AuditLog.createdAt (AuditLog.due cutoff db.auditLogArchive) db.auditLogs).take limit
    let inserted := candidates.filter fun row => (db.auditLogArchive.get row.id).isNone
    (inserted.map AuditLog.id, { db with auditLogArchive := candidates.foldl insertFree db.auditLogArchive })

def idempotencyKeys : Shelf IdempotencyKey :=
  ⟨Db.idempotencyKeys, fun db table => { db with idempotencyKeys := table }, fun _ _ => rfl, fun _ _ _ => rfl,
    fun _ => rfl⟩

def webhookDeliveries : Shelf WebhookDelivery :=
  ⟨Db.webhookDeliveries, fun db table => { db with webhookDeliveries := table }, fun _ _ => rfl, fun _ _ _ => rfl,
    fun _ => rfl⟩

def events : Shelf Event :=
  ⟨Db.events, fun db table => { db with events := table }, fun _ _ => rfl, fun _ _ _ => rfl, fun _ => rfl⟩

def jobs : Shelf AgentJob :=
  ⟨Db.jobs, fun db table => { db with jobs := table }, fun _ _ => rfl, fun _ _ _ => rfl, fun _ => rfl⟩

def definitions (settings : Settings) (now : Int) : List Definition :=
  let cutoff := retentionCutoffs settings now
  [deletion .idempotency idempotencyKeys IdempotencyKey.expiresAt fun _ => IdempotencyKey.due cutoff.idempotency,
    deletion .webhookDelivery webhookDeliveries WebhookDelivery.updatedAt fun _ =>
      WebhookDelivery.due cutoff.webhookDelivery,
    deletion .event events Event.createdAt fun db => Event.due cutoff.event db.webhookDeliveries,
    deletion .job jobs AgentJob.updatedAt fun _ => AgentJob.due cutoff.job,
    archiving .auditArchive cutoff.auditArchive]

/-- The loop over the batches of a class, by the batches that are left. -/
def mutateBatches (mutate : Nat → Db → List String × Db) (batchSize eligible : Nat) :
    Nat → Nat → Nat → Db → Nat × Nat × Db
  | 0, affected, batches, db => (affected, batches, db)
  | left + 1, affected, batches, db =>
      if affected < eligible then
        let rows := (mutate batchSize db).1
        let next := (mutate batchSize db).2
        if rows.length < batchSize then (affected + rows.length, batches + 1, next)
        else mutateBatches mutate batchSize eligible left (affected + rows.length) (batches + 1) next
      else (affected, batches, db)

def runDefinition (options : RetentionOptions) (definition : Definition) (db : Db) : RetentionResult × Db :=
  let eligible := definition.count db
  let (affected, batches, final) :=
    if options.dryRun then (0, 0, db)
    else mutateBatches definition.mutate options.batchSize eligible options.maxBatches 0 0 db
  (⟨definition.recordClass, eligible, affected, batches, !options.dryRun && affected < eligible⟩, final)

def runDefinitions (options : RetentionOptions) : List Definition → Db → List RetentionResult × Db
  | [], db => ([], db)
  | definition :: rest, db =>
      let (result, next) := runDefinition options definition db
      let (results, final) := runDefinitions options rest next
      (result :: results, final)

def runRetention (settings : Settings) (options : RetentionOptions) (now : Int) (db : Db) : List RetentionResult × Db :=
  runDefinitions options (definitions settings now) db

/-- How the script that runs the retention exits. -/
def exitCode (results : List RetentionResult) : Nat := if results.any RetentionResult.truncated then 2 else 0

end Service

section Sweeps

/-- What the statements of a class do: so many rows wait, and the first of them go. -/
structure Sweeps (definition : Definition) (waiting : Db → Nat) (sweep : Nat → Db → Db) : Prop where
  count : ∀ db, definition.count db = waiting db
  rows : ∀ limit db, (definition.mutate limit db).1.length = min limit (waiting db)
  next : ∀ limit db, (definition.mutate limit db).2 = sweep limit db
  waiting_sweep : ∀ limit db, waiting (sweep limit db) = waiting db - limit
  sweep_sweep : ∀ first second db, sweep second (sweep first db) = sweep (first + second) db
  sweep_zero : ∀ db, sweep 0 db = db
  sweep_all : ∀ limit db, waiting db ≤ limit → sweep limit db = sweep (waiting db) db

variable {definition : Definition} {waiting : Db → Nat} {sweep : Nat → Db → Db} {batchSize : Nat}

/-- So many batches take all. -/
def enough (batchSize eligible : Nat) : Nat := (eligible + batchSize - 1) / batchSize

theorem enough_full {batches eligible : Nat} (positive : 0 < batchSize) (bounded : batches * batchSize ≤ eligible) :
    batches ≤ enough batchSize eligible := by
  apply (Nat.le_div_iff_mul_le positive).mpr
  omega

theorem enough_short {batches eligible : Nat} (positive : 0 < batchSize) (above : batches * batchSize < eligible)
    (last : eligible ≤ (batches + 1) * batchSize) : enough batchSize eligible = batches + 1 := by
  apply Nat.div_eq_of_lt_le
  · rw [Nat.add_mul, Nat.one_mul] at last ⊢
    omega
  · rw [Nat.add_mul, Nat.add_mul, Nat.one_mul]
    rw [Nat.add_mul, Nat.one_mul] at last
    omega

theorem enough_exact {batches : Nat} (positive : 0 < batchSize) : enough batchSize (batches * batchSize) = batches := by
  apply Nat.div_eq_of_lt_le
  · omega
  · rw [Nat.add_mul, Nat.one_mul]
    omega

/-- After some full batches, the loop comes to what is left of the queue, or to its limit. -/
theorem mutateBatches_eq (sweeps : Sweeps definition waiting sweep) (positive : 0 < batchSize) (db : Db)
    (left batches : Nat) (bounded : batches * batchSize ≤ waiting db) :
    mutateBatches definition.mutate batchSize (waiting db) left (batches * batchSize) batches
        (sweep (batches * batchSize) db) =
      (min (waiting db) ((batches + left) * batchSize), min (batches + left) (enough batchSize (waiting db)),
        sweep ((batches + left) * batchSize) db) := by
  induction left generalizing batches with
  | zero =>
    have full := enough_full positive bounded
    rw [mutateBatches, Nat.add_zero, Nat.min_eq_right bounded, Nat.min_eq_left full]
  | succ left ih =>
    have further : batches * batchSize + batchSize ≤ (batches + (left + 1)) * batchSize := by
      rw [← Nat.succ_mul]
      exact Nat.mul_le_mul_right _ (by omega)
    by_cases more : batches * batchSize < waiting db
    · have rows := sweeps.rows batchSize (sweep (batches * batchSize) db)
      have next := sweeps.next batchSize (sweep (batches * batchSize) db)
      rw [sweeps.waiting_sweep] at rows
      rw [sweeps.sweep_sweep] at next
      rw [mutateBatches, if_pos more]
      simp only [rows, next]
      by_cases short : min batchSize (waiting db - batches * batchSize) < batchSize
      · -- the batch was the last one, for it is not full
        have all : waiting db ≤ batches * batchSize + batchSize := by omega
        have number := enough_short positive more (by rwa [Nat.add_mul, Nat.one_mul])
        rw [if_pos short, sweeps.sweep_all _ db all, sweeps.sweep_all _ db (all.trans further), number]
        congr 1
        · omega
        · congr 1
          omega
      · rw [if_neg short]
        have full : batches * batchSize + min batchSize (waiting db - batches * batchSize) = (batches + 1) * batchSize := by
          rw [Nat.add_mul, Nat.one_mul]
          omega
        have bounded' : (batches + 1) * batchSize ≤ waiting db := by
          rw [Nat.add_mul, Nat.one_mul]
          omega
        have onwards := ih (batches + 1) bounded'
        rw [show batches + 1 + left = batches + (left + 1) by omega, Nat.add_mul, Nat.one_mul] at onwards
        rw [full, Nat.add_mul, Nat.one_mul]
        exact onwards
    · -- the full batches so far have taken all
      have drained : waiting db = batches * batchSize := by omega
      have all : waiting db ≤ (batches + (left + 1)) * batchSize := by omega
      have fewer : batches ≤ batches + (left + 1) := by omega
      rw [mutateBatches, if_neg more, sweeps.sweep_all _ db all, Nat.min_eq_left all, drained, enough_exact positive,
        Nat.min_eq_right fewer]

end Sweeps

section Classes
variable {Row : Type} [Keyed Row String]

theorem oldest_without {time : Row → Int} {due : Row → Bool} {table : Table Row} (count : Nat) :
    oldest time due (table.without ((oldest time due table).take count)) = (oldest time due table).drop count :=
  queue_without position_apart count

/-- Deleting the oldest rows again and again deletes the first rows of the whole queue. -/
theorem deletion_sweeps {recordClass : RetentionClass} {shelf : Shelf Row} {time : Row → Int} {due : Db → Row → Bool}
    (aside : ∀ db rows, due (shelf.store db rows) = due db) :
    Sweeps (deletion recordClass shelf time due) (fun db => (oldest time (due db) (shelf.table db)).length)
      fun limit db =>
        shelf.store db ((shelf.table db).without ((oldest time (due db) (shelf.table db)).take limit)) where
  count db := length_queue.symm
  rows limit db := by
    rw [deletion, List.length_map, List.length_take]
  next limit db := rfl
  waiting_sweep limit db := by
    rw [shelf.table_store, aside, oldest_without, List.length_drop]
  sweep_sweep first second db := by
    rw [shelf.table_store, aside, shelf.store_store, oldest_without, ← Table.without_append, List.take_add]
  sweep_zero db := by
    rw [List.take_zero, Table.without_nil, shelf.store_table]
  sweep_all limit db all := by
    rw [List.take_of_length_le all, List.take_length]

variable {archive : Table AuditLog}

theorem insertFree_isNone (archive : Table AuditLog) (row : AuditLog) (id : String) :
    ((insertFree archive row).get id).isNone = ((archive.get id).isNone && decide (id ≠ row.id)) := by
  unfold insertFree
  split
  next free =>
    by_cases same : id = row.id
    · have there : (archive.put row).get row.id = some row := Table.get_put_self row archive
      simp [same, there]
    · rw [Table.get_put_of_ne same]
      simp [same]
  next present =>
    by_cases same : id = row.id
    · subst same
      rw [Bool.not_eq_true] at present
      rw [present, Bool.false_and]
    · simp [same]

theorem insertAll_isNone (rows : List AuditLog) (id : String) : ((rows.foldl insertFree archive).get id).isNone = true ↔
    (archive.get id).isNone = true ∧ id ∉ rows.map AuditLog.id := by
  induction rows generalizing archive with
  | nil => simp
  | cons row rows ih =>
    rw [List.foldl_cons, ih, insertFree_isNone, List.map_cons, List.mem_cons, Bool.and_eq_true, decide_eq_true_iff, not_or,
      and_assoc]

/-- Rows under free and different ids come behind the archive. -/
theorem rows_insertAll {rows : List AuditLog} (distinct : (rows.map AuditLog.id).Nodup)
    (free : ∀ row ∈ rows, archive.get row.id = none) : (rows.foldl insertFree archive).rows = archive.rows ++ rows := by
  induction rows generalizing archive with
  | nil => exact (List.append_nil _).symm
  | cons row rows ih =>
    obtain ⟨fresh, distinct'⟩ := List.nodup_cons.mp distinct
    have here := free row List.mem_cons_self
    have inserted : insertFree archive row = archive.put row := if_pos (by rw [here]; rfl)
    rw [List.foldl_cons, inserted, ih distinct', Table.rows_put here, List.append_assoc]
    · rfl
    · intro other member
      have different : other.id ≠ row.id := fun same => fresh (same ▸ List.mem_map_of_mem member)
      exact (Table.get_put_of_ne different).trans (free other (List.mem_cons_of_mem _ member))

/-- The audit logs that a run copies, before its limit. -/
def unarchived (cutoff : Int) (db : Db) : List AuditLog :=
  oldest AuditLog.createdAt (AuditLog.due cutoff db.auditLogArchive) db.auditLogs

theorem unarchived_free {cutoff : Int} {db : Db} {limit : Nat} {row : AuditLog}
    (member : row ∈ (unarchived cutoff db).take limit) : (db.auditLogArchive.get row.id).isNone = true := by
  obtain ⟨_, due⟩ := mem_queue.mp (List.mem_of_mem_take member)
  rw [AuditLog.due, Bool.and_eq_true] at due
  exact due.2

theorem unarchived_ids {cutoff : Int} {db : Db} {limit : Nat} :
    (((unarchived cutoff db).take limit).map AuditLog.id).Nodup := by
  have distinct : ((unarchived cutoff db).take limit).Nodup := queue_nodup.sublist (List.take_sublist _ _)
  apply distinct.map_on
  intro one member other member' same
  exact Table.eq_of_key_eq (mem_queue.mp (List.mem_of_mem_take member)).1
    (mem_queue.mp (List.mem_of_mem_take member')).1 same

/-- What is left to copy when the first rows are in the archive. -/
theorem unarchived_later (cutoff : Int) (limit : Nat) (db : Db) :
    unarchived cutoff { db with
      auditLogArchive := ((unarchived cutoff db).take limit).foldl insertFree db.auditLogArchive } =
      (unarchived cutoff db).drop limit := by
  apply queue_narrowed position_apart
  intro row _
  rw [AuditLog.due, AuditLog.due, Bool.and_eq_true, Bool.and_eq_true, insertAll_isNone, and_assoc]
  rfl

/-- The archive takes the oldest rows of what it lacks. -/
theorem archiving_sweeps (recordClass : RetentionClass) (cutoff : Int) :
    Sweeps (archiving recordClass cutoff) (fun db => (unarchived cutoff db).length)
      fun limit db => { db with
        auditLogArchive := ((unarchived cutoff db).take limit).foldl insertFree db.auditLogArchive } where
  count db := length_queue.symm
  rows limit db := by
    -- a candidate is not in the archive, so each of them is returned
    have inserted : ((unarchived cutoff db).take limit).filter (fun row => (db.auditLogArchive.get row.id).isNone) =
        (unarchived cutoff db).take limit :=
      List.filter_eq_self.mpr fun _ member => unarchived_free member
    change ((((unarchived cutoff db).take limit).filter fun row => (db.auditLogArchive.get row.id).isNone).map
      AuditLog.id).length = _
    rw [inserted, List.length_map, List.length_take]
  next limit db := rfl
  waiting_sweep limit db := by
    rw [unarchived_later, List.length_drop]
  sweep_sweep first second db := by
    simp only [unarchived_later, ← List.foldl_append, ← List.take_add]
  sweep_zero db := rfl
  sweep_all limit db all := by
    rw [List.take_of_length_le all, List.take_length]

end Classes

section Runs
variable {settings : Settings} {options : RetentionOptions} {now : Int}

/-- The report on a class in which so many rows wait. -/
def report (options : RetentionOptions) (recordClass : RetentionClass) (waiting : Nat) : RetentionResult where
  recordClass := recordClass
  eligible := waiting
  affected := min waiting (options.maxBatches * options.batchSize)
  batches := min options.maxBatches (enough options.batchSize waiting)
  truncated := options.maxBatches * options.batchSize < waiting

/-- A dry run counts and writes nothing. -/
theorem runDefinitions_dry (dry : options.dryRun = true) (definitions : List Definition) (db : Db) :
    runDefinitions options definitions db =
      (definitions.map fun definition => ⟨definition.recordClass, definition.count db, 0, 0, false⟩, db) := by
  induction definitions with
  | nil => rfl
  | cons definition rest ih =>
    have counted : runDefinition options definition db =
        (⟨definition.recordClass, definition.count db, 0, 0, false⟩, db) := by
      rw [runDefinition, dry]
      rfl
    rw [runDefinitions, counted]
    dsimp only
    rw [ih]
    rfl

theorem runDefinition_live {definition : Definition} {waiting : Db → Nat} {sweep : Nat → Db → Db}
    (sweeps : Sweeps definition waiting sweep) (live : options.dryRun = false) (positive : 0 < options.batchSize)
    (db : Db) : runDefinition options definition db = (report options definition.recordClass (waiting db),
      sweep (options.maxBatches * options.batchSize) db) := by
  have drained := mutateBatches_eq sweeps positive db options.maxBatches 0 (by simp)
  rw [Nat.zero_mul, sweeps.sweep_zero, Nat.zero_add] at drained
  have truncated : decide (min (waiting db) (options.maxBatches * options.batchSize) < waiting db) =
      decide (options.maxBatches * options.batchSize < waiting db) := by
    apply decide_eq_decide.mpr
    omega
  simp only [runDefinition, sweeps.count, live, Bool.false_eq_true, if_false, drained, Bool.not_false, Bool.true_and,
    truncated]
  rfl

theorem deletion_live {Row : Type} [Keyed Row String] {recordClass : RetentionClass} {shelf : Shelf Row}
    {time : Row → Int} {due : Db → Row → Bool} (live : options.dryRun = false) (positive : 0 < options.batchSize)
    (aside : ∀ db rows, due (shelf.store db rows) = due db) (db : Db) :
    runDefinition options (deletion recordClass shelf time due) db =
      (report options recordClass (oldest time (due db) (shelf.table db)).length,
        shelf.store db ((shelf.table db).without
          ((oldest time (due db) (shelf.table db)).take (options.maxBatches * options.batchSize)))) :=
  runDefinition_live (deletion_sweeps aside) live positive db

/-- Deleting events leaves the deliveries that they wait for. -/
theorem events_live {cutoff : Int} (live : options.dryRun = false) (positive : 0 < options.batchSize) (db : Db) :
    runDefinition options (deletion .event events Event.createdAt fun db => Event.due cutoff db.webhookDeliveries) db =
      (report options .event (oldest Event.createdAt (Event.due cutoff db.webhookDeliveries) db.events).length,
        events.store db (db.events.without ((oldest Event.createdAt (Event.due cutoff db.webhookDeliveries) db.events).take
          (options.maxBatches * options.batchSize)))) :=
  deletion_live live positive (fun _ _ => rfl) db

/-- A run takes from each class the oldest rows that are due, as many as its batches hold, and
reports what it has left. Events go once their deliveries are gone, and no audit log goes. -/
theorem retention_exact (settings : Settings) (options : RetentionOptions) (now : Int) (db : Db)
    (live : options.dryRun = false) (positive : 0 < options.batchSize) :
    let cutoff := retentionCutoffs settings now
    let limit := options.maxBatches * options.batchSize
    let final := (runRetention settings options now db).2
    let dueKeys := oldest IdempotencyKey.expiresAt (IdempotencyKey.due cutoff.idempotency) db.idempotencyKeys
    let dueDeliveries := oldest WebhookDelivery.updatedAt (WebhookDelivery.due cutoff.webhookDelivery) db.webhookDeliveries
    let dueEvents := oldest Event.createdAt (Event.due cutoff.event final.webhookDeliveries) db.events
    let dueJobs := oldest AgentJob.updatedAt (AgentJob.due cutoff.job) db.jobs
    let dueLogs := oldest AuditLog.createdAt (AuditLog.due cutoff.auditArchive db.auditLogArchive) db.auditLogs
    final.idempotencyKeys = db.idempotencyKeys.without (dueKeys.take limit) ∧
    final.webhookDeliveries = db.webhookDeliveries.without (dueDeliveries.take limit) ∧
    final.events = db.events.without (dueEvents.take limit) ∧ final.jobs = db.jobs.without (dueJobs.take limit) ∧
    final.auditLogs = db.auditLogs ∧
    final.auditLogArchive.rows = db.auditLogArchive.rows ++ dueLogs.take limit ∧
    (runRetention settings options now db).1 = [report options .idempotency dueKeys.length,
      report options .webhookDelivery dueDeliveries.length, report options .event dueEvents.length,
      report options .job dueJobs.length, report options .auditArchive dueLogs.length] := by
  have archived : (((unarchived (retentionCutoffs settings now).auditArchive db).take
      (options.maxBatches * options.batchSize)).foldl insertFree db.auditLogArchive).rows =
      db.auditLogArchive.rows ++ (unarchived (retentionCutoffs settings now).auditArchive db).take
        (options.maxBatches * options.batchSize) :=
    rows_insertAll unarchived_ids fun row member => Option.isNone_iff_eq_none.mp (unarchived_free member)
  simp only [runRetention, definitions, runDefinitions, deletion_live live positive, events_live live positive,
    implies_true, runDefinition_live (archiving_sweeps _ _) live positive]
  exact ⟨rfl, rfl, rfl, rfl, rfl, archived, rfl⟩

/-- An event that was delivered long ago, and an audit log of its time. -/
def longAgo : Db where
  idempotencyKeys := Table.empty
  webhookDeliveries := Table.empty.put (WebhookDelivery.mk "delivery" (some "event") .delivered 0)
  events := Table.empty.put (Event.mk "event" 0)
  jobs := Table.empty
  auditLogs := Table.empty.put (AuditLog.mk "log" 0)
  auditLogArchive := Table.empty

/-- The configured days when nothing else is set. -/
def defaults : Settings := ⟨30, 90, 30, 365⟩

/-- Four hundred days later. -/
def muchLater : Int := 400 * 86400000

/-- The event goes in the run that deletes its delivery. -/
theorem longAgo_retained :
    let final := (runRetention defaults ⟨false, 1, 1⟩ muchLater longAgo).2
    final.webhookDeliveries.rows = [] ∧ final.events.rows = [] ∧ final.auditLogs = longAgo.auditLogs ∧
    final.auditLogArchive.rows = longAgo.auditLogs.rows := by
  intro final
  obtain ⟨_, deliveries, events, _, logs, archive, _⟩ :=
    retention_exact defaults ⟨false, 1, 1⟩ muchLater longAgo rfl Nat.one_pos
  have oldDelivery : oldest WebhookDelivery.updatedAt
      (WebhookDelivery.due (retentionCutoffs defaults muchLater).webhookDelivery) longAgo.webhookDeliveries =
      longAgo.webhookDeliveries.rows :=
    List.mergeSort_singleton _
  have noDelivery : final.webhookDeliveries.rows = [] := by
    rw [oldDelivery] at deliveries
    exact (congrArg Table.rows deliveries).trans (by decide)
  have waits : Event.due (retentionCutoffs defaults muchLater).event final.webhookDeliveries
      (Event.mk "event" 0) = true := by
    rw [Event.due, noDelivery]
    decide
  have oldEvent : oldest Event.createdAt (Event.due (retentionCutoffs defaults muchLater).event final.webhookDeliveries)
      longAgo.events = longAgo.events.rows := by
    have filtered : longAgo.events.rows.filter
        (Event.due (retentionCutoffs defaults muchLater).event final.webhookDeliveries) = longAgo.events.rows :=
      List.filter_cons_of_pos waits
    rw [oldest, queue, filtered]
    exact List.mergeSort_singleton _
  have oldLog : oldest AuditLog.createdAt
      (AuditLog.due (retentionCutoffs defaults muchLater).auditArchive longAgo.auditLogArchive) longAgo.auditLogs =
      longAgo.auditLogs.rows :=
    List.mergeSort_singleton _
  refine ⟨noDelivery, ?_, logs, ?_⟩
  · rw [oldEvent] at events
    exact (congrArg Table.rows events).trans (by decide)
  · rw [oldLog] at archive
    exact archive

theorem report_left (recordClass : RetentionClass) (waiting : Nat) :
    (report options recordClass waiting).eligible - (report options recordClass waiting).affected =
      waiting - options.maxBatches * options.batchSize := by
  rw [report]
  dsimp only
  omega

theorem oldest_left {Row : Type} [Keyed Row String] {time : Row → Int} {due : Row → Bool} {table : Table Row}
    (count : Nat) : (oldest time due (table.without ((oldest time due table).take count))).length =
      (oldest time due table).length - count := by
  rw [oldest_without, List.length_drop]

theorem deletion_count {Row : Type} [Keyed Row String] (recordClass : RetentionClass) (shelf : Shelf Row)
    (time : Row → Int) (due : Db → Row → Bool) (db : Db) :
    (deletion recordClass shelf time due).count db = (oldest time (due db) (shelf.table db)).length :=
  length_queue.symm

/-- What a class has left is what its report says. -/
theorem leftovers (live : options.dryRun = false) (positive : 0 < options.batchSize) (db : Db) :
    (definitions settings now).map (fun definition => definition.count (runRetention settings options now db).2) =
      (runRetention settings options now db).1.map fun result => result.eligible - result.affected := by
  simp only [runRetention, definitions, runDefinitions, deletion_live live positive, events_live live positive,
    implies_true, runDefinition_live (archiving_sweeps _ _) live positive, List.map_cons, List.map_nil, report_left,
    deletion_count, (archiving_sweeps _ _).count, unarchived_later, List.length_drop]
  rw [List.cons.injEq, List.cons.injEq, List.cons.injEq, List.cons.injEq]
  exact ⟨oldest_left _, oldest_left _, oldest_left _, oldest_left _, rfl⟩

/-- Only a live run can stop before it has taken all. -/
theorem runDefinitions_truncated (live : options.dryRun = false) (definitions : List Definition) (db : Db)
    {result : RetentionResult} (member : result ∈ (runDefinitions options definitions db).1) :
    result.truncated = true ↔ result.eligible - result.affected ≠ 0 := by
  induction definitions generalizing db with
  | nil => cases member
  | cons definition rest ih =>
    rcases List.mem_cons.mp member with here | later
    · subst here
      simp only [live, Bool.not_false, Bool.true_and, decide_eq_true_iff]
      omega
    · exact ih _ later

theorem exitCode_zero {results : List RetentionResult} :
    exitCode results = 0 ↔ ∀ result ∈ results, ¬ result.truncated = true := by
  unfold exitCode
  split
  next some =>
    rw [List.any_eq_true] at some
    obtain ⟨result, member, truncated⟩ := some
    exact iff_of_false (by decide) fun none => none result member truncated
  next none =>
    refine iff_of_true rfl ?_
    intro result member truncated
    exact none (List.any_eq_true.mpr ⟨result, member, truncated⟩)

/-- The script exits with 0 after a live run just when nothing that was due is left. -/
theorem exitCode_drained (settings : Settings) (options : RetentionOptions) (now : Int) (db : Db)
    (live : options.dryRun = false) (positive : 0 < options.batchSize) :
    exitCode (runRetention settings options now db).1 = 0 ↔
      ∀ definition ∈ definitions settings now, definition.count (runRetention settings options now db).2 = 0 := by
  calc exitCode (runRetention settings options now db).1 = 0
      ↔ ∀ result ∈ (runRetention settings options now db).1, ¬ result.truncated = true := exitCode_zero
    _ ↔ ∀ result ∈ (runRetention settings options now db).1, result.eligible - result.affected = 0 :=
        forall₂_congr fun result member => (runDefinitions_truncated live _ db member).not_left
    _ ↔ ∀ amount ∈ (runRetention settings options now db).1.map fun result => result.eligible - result.affected,
          amount = 0 := by simp only [List.forall_mem_map]
    _ ↔ ∀ amount ∈ (definitions settings now).map fun definition =>
          definition.count (runRetention settings options now db).2, amount = 0 := by rw [leftovers live positive]
    _ ↔ ∀ definition ∈ definitions settings now, definition.count (runRetention settings options now db).2 = 0 :=
        by simp only [List.forall_mem_map]

/-- One batch of one row a class is enough long after. -/
theorem longAgo_drained : exitCode (runRetention defaults ⟨false, 1, 1⟩ muchLater longAgo).1 = 0 ∧
    ∀ definition ∈ definitions defaults muchLater,
      definition.count (runRetention defaults ⟨false, 1, 1⟩ muchLater longAgo).2 = 0 := by
  have exits : exitCode (runRetention defaults ⟨false, 1, 1⟩ muchLater longAgo).1 = 0 := by decide +kernel
  exact ⟨exits, (exitCode_drained defaults ⟨false, 1, 1⟩ muchLater longAgo rfl Nat.one_pos).mp exits⟩

end Runs

end PactAgent.Jobs.Retention
