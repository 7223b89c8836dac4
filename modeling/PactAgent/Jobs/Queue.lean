import PactAgent.Foundation.Table
import PactAgent.Foundation.Execution

/-! The durable job queue: the table `AgentJob` with its constraints, the
statements of the queue's functions on it, and the system in which any number of
workers and requests take these statements in any order. An execution is one row
that a claim has returned to a worker. -/

namespace PactAgent.Jobs
open Foundation

inductive AgentJobKind
  | deliverWebhook
  | ckbReconcileTransaction
  deriving DecidableEq, Repr

inductive WorkerQueue
  | webhook
  | settlement
  deriving DecidableEq, Repr

def queueForJobKind : AgentJobKind → WorkerQueue
  | .ckbReconcileTransaction => .settlement
  | .deliverWebhook => .webhook

inductive JobStatus
  | queued
  | running
  | retry
  | completed
  | deadLetter
  deriving DecidableEq, Repr

/-- The statuses that `enqueueJob` looks for under a dedupe key. -/
def JobStatus.active : JobStatus → Bool
  | .queued | .running | .retry => true
  | .completed | .deadLetter => false

/-- The object that `payloadJson` spells; absent fields are `undefined`. -/
structure AgentJobPayload where
  agreementId : Option String := none
  deliveryId : Option String := none
  transactionId : Option String := none
  deriving DecidableEq, Repr

/-- A row of the table `AgentJob`. Times are in milliseconds. -/
structure AgentJob where
  id : String
  appId : String
  agreementId : Option String
  kind : AgentJobKind
  queue : WorkerQueue
  status : JobStatus
  dedupeKey : Option String
  payload : Option AgentJobPayload
  attempts : Nat
  maxAttempts : Nat
  availableAt : Int
  lockedAt : Option Int
  leaseExpiresAt : Option Int
  lockedBy : Option String
  lastError : Option String
  completedAt : Option Int
  deadLetteredAt : Option Int
  createdAt : Int
  deriving DecidableEq, Repr

instance : Keyed AgentJob String := ⟨AgentJob.id⟩

@[simp] theorem key_job (job : AgentJob) : Keyed.key job = job.id := rfl

/-- The constraint `AgentJob_lease_consistency_check`. -/
def AgentJob.leaseConsistent (job : AgentJob) : Bool :=
  if job.status = .running then job.lockedAt.isSome && job.lockedBy.isSome && job.leaseExpiresAt.isSome
  else job.lockedAt.isNone && job.lockedBy.isNone && job.leaseExpiresAt.isNone

inductive DatabaseError
  | leaseConsistency
  | integerRange
  /-- Prisma's code `P2002`. -/
  | uniqueViolation
  deriving DecidableEq, Repr

/-- Another row stands under the row's dedupe key. -/
def keyTaken (row : AgentJob) (jobs : Table AgentJob) : Bool :=
  row.dedupeKey.isSome && jobs.rows.any fun other => other.id ≠ row.id && other.dedupeKey = row.dedupeKey

/-- A row as the database takes it, with the table's constraints checked. -/
def store (row : AgentJob) (jobs : Table AgentJob) : Except DatabaseError (Table AgentJob) :=
  if row.leaseConsistent = false then throw .leaseConsistency
  else if 2147483647 < row.attempts then throw .integerRange
  else if keyTaken row jobs then throw .uniqueViolation
  else pure (jobs.put row)

def create (row : AgentJob) (jobs : Table AgentJob) : Except DatabaseError (Table AgentJob) :=
  if (jobs.get row.id).isSome then throw .uniqueViolation else store row jobs

/-- One statement writes all its rows or none. -/
def storeAll (rows : List AgentJob) (jobs : Table AgentJob) : Except DatabaseError (Table AgentJob) :=
  rows.foldlM (fun jobs row => store row jobs) jobs

structure EnqueueParams where
  appId : String
  agreementId : Option String := none
  kind : AgentJobKind
  payload : Option AgentJobPayload := none
  availableAt : Option Int := none
  maxAttempts : Option Nat := none
  dedupeKey : Option String := none
  deriving DecidableEq, Repr

def DEFAULT_MAX_ATTEMPTS : Nat := 5
def RETRY_BASE_MS : Nat := 5000
def RETRY_MAX_MS : Nat := 15 * 60000

/-- `Math.random()` is a multiple of `2⁻⁵³`; `random` counts these. -/
def getJobRetryDelayMs (attempt random : Nat) : Nat :=
  let exponential := min RETRY_MAX_MS (RETRY_BASE_MS * 2 ^ (attempt - 1))
  min RETRY_MAX_MS ((exponential * (2 ^ 52 + random) + 2 ^ 52) / 2 ^ 53)

/-- A key that the code takes for present: neither `null` nor the empty string. -/
def EnqueueParams.key (params : EnqueueParams) : Option String :=
  match params.dedupeKey with
  | some key => if key = "" then none else some key
  | none => none

/-- The row that `enqueueJob` inserts. -/
def EnqueueParams.row (params : EnqueueParams) (uuid : String) (now : Int) : AgentJob where
  id := uuid
  appId := params.appId
  agreementId := params.agreementId
  kind := params.kind
  queue := queueForJobKind params.kind
  status := .queued
  dedupeKey := params.dedupeKey
  payload := params.payload
  attempts := 0
  maxAttempts := params.maxAttempts.getD DEFAULT_MAX_ATTEMPTS
  availableAt := params.availableAt.getD now
  lockedAt := none
  leaseExpiresAt := none
  lockedBy := none
  lastError := none
  completedAt := none
  deadLetteredAt := none
  createdAt := now

/-- `findFirst` of a job under the key in one of the statuses. -/
def findActive (key : String) (jobs : Table AgentJob) : Option AgentJob :=
  jobs.first fun job => job.dedupeKey = some key && job.status.active

/-- `findUnique` by the dedupe key. -/
def findByKey (key : String) (jobs : Table AgentJob) : Option AgentJob :=
  jobs.first fun job => job.dedupeKey = some key

/-- The rows that a claim takes: those it may take and can lock, the earliest first.
Rows that other transactions have locked are skipped; which of several rows of one
instant come first is the database's choice, made by skipping the others. -/
def candidates (queues : List WorkerQueue) (limit : Int) (skipped : List String) (now : Int)
    (jobs : Table AgentJob) : List AgentJob :=
  let boundedLimit := (min (max limit 1) 100).toNat
  let available := jobs.rows.filter fun job =>
    queues.contains job.queue && (job.status = .queued || job.status = .retry) && job.availableAt ≤ now
      && (job.leaseExpiresAt.all fun expires => expires ≤ now) && !skipped.contains job.id
  let earlier := fun first second : AgentJob =>
    first.availableAt < second.availableAt ∨
      first.availableAt = second.availableAt ∧ first.createdAt ≤ second.createdAt
  (available.insertionSort earlier).take boundedLimit

/-- A row as a claim leaves it and returns it. -/
def AgentJob.claimedBy (job : AgentJob) (workerId : String) (leaseMs now : Int) : AgentJob :=
  let boundedLeaseMs := min (max leaseMs 10000) (15 * 60000)
  { job with
    status := .running
    lockedAt := some now
    lockedBy := some workerId
    leaseExpiresAt := some (now + boundedLeaseMs)
    attempts := job.attempts + 1 }

def claimAvailableJobs (workerId : String) (queues : List WorkerQueue) (limit leaseMs : Int)
    (skipped : List String) (now : Int) (jobs : Table AgentJob) :
    Except DatabaseError (List AgentJob × Table AgentJob) := do
  let claimed := (candidates queues limit skipped now jobs).map fun job => job.claimedBy workerId leaseMs now
  let jobs ← storeAll claimed jobs
  return (claimed, jobs)

inductive Failure
  | database (error : DatabaseError)
  /-- The call's `updateMany` has found no row. -/
  | leaseNotOwned (jobId workerId : String)
  | notFound (jobId : String)
  | cannotReplay (jobId : String) (status : JobStatus)
  deriving DecidableEq, Repr

/-- The clause `where: { id, status: 'RUNNING', lockedBy: workerId }`. -/
def leased (jobId workerId : String) (jobs : Table AgentJob) : Option AgentJob :=
  (jobs.get jobId).filter fun job => job.status = .running && job.lockedBy = some workerId

/-- An update of the row under the clause above; `count !== 1` is thrown. -/
def updateLeased (jobId workerId : String) (data : AgentJob → AgentJob) (jobs : Table AgentJob) :
    Except Failure (Table AgentJob) :=
  match leased jobId workerId jobs with
  | none => throw (.leaseNotOwned jobId workerId)
  | some job => (store (data job) jobs).mapError .database

/-- What the five updates that end a lease have in common. -/
def AgentJob.unlocked (job : AgentJob) : AgentJob :=
  { job with lockedAt := none, lockedBy := none, leaseExpiresAt := none }

def completeJob (jobId workerId : String) (now : Int) : Table AgentJob → Except Failure (Table AgentJob) :=
  updateLeased jobId workerId fun job =>
    { job.unlocked with status := .completed, dedupeKey := none, completedAt := some now, lastError := none }

def deferJob (jobId workerId : String) (delayMs now : Int) : Table AgentJob → Except Failure (Table AgentJob) :=
  let boundedDelayMs := min (max delayMs 1000) (15 * 60000)
  updateLeased jobId workerId fun job =>
    { job.unlocked with status := .retry, availableAt := now + boundedDelayMs, lastError := none }

/-- The branch of `failJob`, decided on the row that the claim has returned. -/
def AgentJob.shouldDeadLetter (job : AgentJob) : Bool := job.maxAttempts ≤ job.attempts

def failJob (job : AgentJob) (workerId error : String) (random : Nat) (now : Int) :
    Table AgentJob → Except Failure (Table AgentJob) :=
  let delayMs := getJobRetryDelayMs job.attempts random
  updateLeased job.id workerId fun row =>
    if job.shouldDeadLetter then
      { row.unlocked with
        status := .deadLetter, dedupeKey := none, lastError := some error, deadLetteredAt := some now }
    else { row.unlocked with status := .retry, lastError := some error, availableAt := now + delayMs }

def renewJobLease (jobId workerId : String) (leaseMs now : Int) :
    Table AgentJob → Except Failure (Table AgentJob) :=
  updateLeased jobId workerId fun job => { job with leaseExpiresAt := some (now + leaseMs) }

/-- The rows whose lease `releaseStaleLocks` takes back. Rows that another transaction
has changed before the statement came to them are missed. -/
def stale (staleMs : Int) (missed : List String) (now : Int) (jobs : Table AgentJob) : List AgentJob :=
  let staleBefore := now - staleMs
  jobs.rows.filter fun job =>
    job.status = .running && !missed.contains job.id &&
      match job.leaseExpiresAt with
      | some expires => decide (expires < now)
      | none => job.lockedAt.any fun locked => locked < staleBefore

def AgentJob.released (job : AgentJob) (now : Int) : AgentJob :=
  { job.unlocked with status := .retry, availableAt := now, lastError := some "Recovered stale worker lock." }

def releaseStaleLocks (staleMs : Int) (missed : List String) (now : Int) (jobs : Table AgentJob) :
    Except DatabaseError (Table AgentJob) :=
  storeAll ((stale staleMs missed now jobs).map fun job => job.released now) jobs

/-- The row that `replayJob` inserts. -/
def AgentJob.replayed (job : AgentJob) (uuid : String) (now : Int) : AgentJob :=
  { job with
    id := uuid
    status := .queued
    dedupeKey := none
    attempts := 0
    availableAt := now
    lockedAt := none
    leaseExpiresAt := none
    lockedBy := none
    lastError := none
    completedAt := none
    deadLetteredAt := none
    createdAt := now }

/-- The point that a call of `enqueueJob` outside a transaction has reached. -/
inductive EnqueueStage
  | find
  | create
  /-- After `P2002`: the row that holds the key is looked up. -/
  | holder
  /-- The holder has finished, its key is to be cleared. -/
  | clear (holder : AgentJob)
  | again
  deriving DecidableEq, Repr

/-- A call between two of its statements. -/
inductive Call
  | enqueueJob (params : EnqueueParams) (stage : EnqueueStage)
  | replayJob (job : AgentJob)
  deriving DecidableEq, Repr

/-- What a statement of a call does: the call goes on, or it ends. -/
inductive Progress
  | next (call : Call)
  | ended
  deriving DecidableEq, Repr

/-- The next statement of a call and what the call does with its answer. -/
def Call.advance (uuid : String) (now : Int) (jobs : Table AgentJob) :
    Call → Except DatabaseError (Table AgentJob) × Progress
  | .enqueueJob params .find =>
      match params.key with
      | none => (pure jobs, .next (.enqueueJob params .create))
      | some key =>
          match findActive key jobs with
          | some _ => (pure jobs, .ended)
          | none => (pure jobs, .next (.enqueueJob params .create))
  | .enqueueJob params .create =>
      let result := Jobs.create (params.row uuid now) jobs
      match result, params.key with
      | .error .uniqueViolation, some _ => (result, .next (.enqueueJob params .holder))
      | _, _ => (result, .ended)
  | .enqueueJob params .holder =>
      match params.key with
      | none => (pure jobs, .ended)
      | some key =>
          match findByKey key jobs with
          | some holder =>
              if holder.status.active then (pure jobs, .ended)
              else (pure jobs, .next (.enqueueJob params (.clear holder)))
          | none => (pure jobs, .ended)
  | .enqueueJob params (.clear holder) =>
      match jobs.get holder.id with
      | none => (pure jobs, .ended)
      | some row =>
          match store { row with dedupeKey := none } jobs with
          | .ok after => (pure after, .next (.enqueueJob params .again))
          | .error error => (throw error, .ended)
  | .enqueueJob params .again => (Jobs.create (params.row uuid now) jobs, .ended)
  | .replayJob job => (Jobs.create (job.replayed uuid now) jobs, .ended)

/-- One claim of one job: the worker that made it and the row that it was given. -/
structure Execution where
  workerId : String
  job : AgentJob
  deriving DecidableEq, Repr

/-- How a lease has ended. -/
inductive LeaseEnd
  | completed
  | deferred
  | failed
  | released
  deriving DecidableEq, Repr

/-- The table, the calls that are under way, the executions in the order of their
claims, and, for the proofs only, how the leases of each job have ended. -/
structure State where
  jobs : Table AgentJob
  calls : List Call
  executions : List Execution
  ends : List (String × LeaseEnd)

def initial : State := ⟨Table.empty, [], [], []⟩

/-- A call that an execution makes on the row of its job. -/
inductive LeaseCall
  | renewJobLease (leaseMs now : Int)
  | completeJob (now : Int)
  | deferJob (delayMs now : Int)
  | failJob (error : String) (random : Nat) (now : Int)
  deriving DecidableEq, Repr

def LeaseCall.ends : LeaseCall → Option LeaseEnd
  | .renewJobLease .. => none
  | .completeJob .. => some .completed
  | .deferJob .. => some .deferred
  | .failJob .. => some .failed

def Execution.call (execution : Execution) : LeaseCall → Table AgentJob → Except Failure (Table AgentJob)
  | .renewJobLease leaseMs now => Jobs.renewJobLease execution.job.id execution.workerId leaseMs now
  | .completeJob now => Jobs.completeJob execution.job.id execution.workerId now
  | .deferJob delayMs now => Jobs.deferJob execution.job.id execution.workerId delayMs now
  | .failJob error random now => Jobs.failJob execution.job execution.workerId error random now

/-- `enqueueJob` on the client of a transaction, whose statements no other one sees. A
violated constraint aborts the transaction, so that nothing follows it there. -/
def enqueueJob (params : EnqueueParams) (uuid : String) (now : Int) (jobs : Table AgentJob) :
    Except DatabaseError (AgentJob × Table AgentJob) :=
  match params.key.bind fun key => findActive key jobs with
  | some existing => pure (existing, jobs)
  | none => do
      let jobs ← create (params.row uuid now) jobs
      return (params.row uuid now, jobs)

/-- A step of a request or of a worker, with all choices of the environment: the
clock, random values, the rows that are locked elsewhere. -/
inductive Action
  | enqueueJob (params : EnqueueParams)
  | enqueueInTransaction (params : EnqueueParams) (uuid : String) (now : Int)
  | replayJob (jobId : String)
  /-- The next statement of a call. -/
  | advance (call : Nat) (uuid : String) (now : Int)
  /-- A call ends for a reason outside the table, such as a lost connection. -/
  | abandon (call : Nat)
  | claimAvailableJobs (workerId : String) (queues : List WorkerQueue) (limit leaseMs : Int)
      (skipped : List String) (now : Int)
  | leaseCall (execution : Nat) (call : LeaseCall)
  | releaseStaleLocks (staleMs : Int) (missed : List String) (now : Int)
  deriving DecidableEq, Repr

/-- A step together with the error that its statement has raised. -/
def perform (state : State) : Action → Option (Option Failure × State)
  | .enqueueJob params => some (none, { state with calls := state.calls ++ [.enqueueJob params .find] })
  | .enqueueInTransaction params uuid now =>
      match Jobs.enqueueJob params uuid now state.jobs with
      | .ok (_, jobs) => some (none, { state with jobs := jobs })
      | .error error => some (some (.database error), state)
  | .replayJob jobId =>
      match state.jobs.get jobId with
      | none => some (some (.notFound jobId), state)
      | some job =>
          if job.status.active then some (some (.cannotReplay jobId job.status), state)
          else some (none, { state with calls := state.calls ++ [.replayJob job] })
  | .advance index uuid now =>
      match state.calls[index]? with
      | none => none
      | some call =>
          let (result, progress) := call.advance uuid now state.jobs
          let calls := match progress with
            | .next later => state.calls.set index later
            | .ended => state.calls.eraseIdx index
          match result with
          | .ok jobs => some (none, { state with jobs := jobs, calls := calls })
          | .error error => some (some (.database error), { state with calls := calls })
  | .abandon index => if index < state.calls.length then
        some (none, { state with calls := state.calls.eraseIdx index })
      else none
  | .claimAvailableJobs workerId queues limit leaseMs skipped now =>
      match Jobs.claimAvailableJobs workerId queues limit leaseMs skipped now state.jobs with
      | .ok (claimed, jobs) =>
          some (none, { state with
            jobs := jobs
            executions := state.executions ++ claimed.map (Execution.mk workerId) })
      | .error error => some (some (.database error), state)
  | .leaseCall index call =>
      match state.executions[index]? with
      | none => none
      | some execution =>
          match execution.call call state.jobs with
          | .ok jobs =>
              some (none, { state with
                jobs := jobs
                ends := state.ends ++ call.ends.toList.map (Prod.mk execution.job.id) })
          | .error failure => some (some failure, state)
  | .releaseStaleLocks staleMs missed now =>
      match Jobs.releaseStaleLocks staleMs missed now state.jobs with
      | .ok jobs =>
          some (none, { state with
            jobs := jobs
            ends := state.ends ++ (stale staleMs missed now state.jobs).map fun job => (job.id, .released) })
      | .error error => some (some (.database error), state)

def step (state : State) (action : Action) : Option State := (perform state action).map Prod.snd

/-- The claims of a job, the earliest first. -/
def State.claimsOf (state : State) (jobId : String) : List Execution :=
  state.executions.filter fun execution => execution.job.id = jobId

/-- How the leases of a job have ended. -/
def State.endsOf (state : State) (jobId : String) : List LeaseEnd :=
  (state.ends.filter fun ended => ended.1 = jobId).map Prod.snd

end PactAgent.Jobs
