import PactAgent.Foundation.Text
import PactAgent.Idempotency.Repository

/-! Executions of `runIdempotentTransaction`, one database transaction a step.
Between two steps an execution may wait for any time while others proceed. -/

namespace PactAgent.Idempotency.Service
open PactAgent.Common PactAgent.Foundation PactAgent.Idempotency.Repository

structure IdempotencyContext where
  key : String
  requestHash : String
  deriving DecidableEq

/-- The key of a request, from its header. -/
def idempotencyKey (header : Option String) : Except Failure String :=
  match header.map Text.trim with
  | none | some "" => .error (.app (invalidRequest
      "Idempotency-Key header is required for this operation." "idempotency_key_required"))
  | some key =>
      if Text.utf16Length key > 200 then
        .error (.app (invalidRequest
          "Idempotency-Key must be 200 characters or fewer." "idempotency_key_too_long"))
      else .ok key

/-- Why the replay is looked up: at the start, or after an error of a transaction. -/
inductive Attempt where
  | first
  | afterRace (error : Failure) (reserved : Bool)

/-- The place an execution has reached. -/
inductive Phase (Data : Type) where
  | finding (attempt : Attempt)
  | checking (attempt : Attempt) (existing : IdempotencyRow Data)
  | deletingExpired (attempt : Attempt)
  | findingAgain (attempt : Attempt)
  | reserving
  /-- The row it created, which the code does not keep. -/
  | running (rowId : Nat)
  | clearing (error : Failure)
  | returned (data : Data)
  | failed (error : Failure)

structure Execution (Data : Type) where
  appId : String
  context : IdempotencyContext
  statusCode : Nat
  requestId : String
  phase : Phase Data

/-- A committed run transaction: whose, on which row, and what the row stores since. -/
structure Commit (Data : Type) where
  appKey : AppKey
  execution : Nat
  rowId : Nat
  data : Data
  committedAt : Nat
  expiresAt : Nat
  deriving DecidableEq

structure State (Data : Type) where
  table : Table Data
  now : Nat
  nextId : Nat
  executions : Nat → Option (Execution Data)
  commits : List (Commit Data)

inductive Action (Data : Type) where
  | arrive (execution : Nat) (appId : String) (context : IdempotencyContext) (statusCode : Nat)
      (requestId : String)
  | proceed (execution : Nat)
  | commit (execution : Nat) (data : Data)
  | fail (execution : Nat) (error : Failure)
  | cleanup
  | tick (elapsed : Nat)

variable {Data : Type}

def Execution.appKey (execution : Execution Data) : AppKey := ⟨execution.appId, execution.context.key⟩

/-- The end of `getIdempotencyReplay` and what its caller does with the answer. -/
def replay (attempt : Attempt) (context : IdempotencyContext) (existing : Option (IdempotencyRow Data)) :
    Phase Data :=
  match existing with
  | none =>
      match attempt with
      | .first => .reserving
      | .afterRace error true => .clearing error
      | .afterRace error false => .failed error
  | some row =>
      if row.requestHash ≠ context.requestHash then
        .failed (.app (conflict "Idempotency key was already used with a different request body."
          "idempotency_key_conflict"))
      else
        match row.status, row.responseStatus, row.responseBodyJson with
        | .completed, some _, some body => .returned body.data
        | _, _, _ => .failed (.app (conflict
            "Idempotency key is already processing. Retry the same request after the first request completes."
            "idempotency_key_in_progress"))

/-- The handler around the two transactions. -/
def caught (error : Failure) (reserved : Bool) : Phase Data :=
  if error = .uniqueConstraint then .finding (.afterRace error reserved)
  else if reserved then .clearing error
  else .failed error

def State.setPhase (state : State Data) (id : Nat) (execution : Execution Data) (phase : Phase Data) :
    State Data :=
  { state with executions := Function.update state.executions id (some { execution with phase }) }

section Step
variable (config : IdempotencyConfig) (byteLength : StoredBody Data → Nat)

/-- The next lookup, deletion or reservation of an execution. -/
def proceed (state : State Data) (id : Nat) (execution : Execution Data) : Option (State Data) :=
  match execution.phase with
  | .finding attempt =>
      match findIdempotencyKey state.table execution.appKey with
      | some existing => some (state.setPhase id execution (.checking attempt existing))
      | none => some (state.setPhase id execution (replay attempt execution.context none))
  | .checking attempt existing =>
      if expired existing state.now then some (state.setPhase id execution (.deletingExpired attempt))
      else some (state.setPhase id execution (replay attempt execution.context (some existing)))
  | .deletingExpired attempt =>
      let table := deleteExpiredIdempotencyKey state.table execution.appKey state.now
      some ({ state with table }.setPhase id execution (.findingAgain attempt))
  | .findingAgain attempt =>
      some (state.setPhase id execution
        (replay attempt execution.context (findIdempotencyKey state.table execution.appKey)))
  | .reserving =>
      match reserveIdempotencyKey config state.table execution.appKey execution.context.requestHash
          state.nextId state.now with
      | .ok (row, table) =>
          some ({ state with table, nextId := state.nextId + 1 }.setPhase id execution (.running row.id))
      | .error error => some (state.setPhase id execution (caught error false))
  | .clearing error =>
      let table := deletePendingIdempotencyKey state.table execution.appKey execution.context.requestHash
      some ({ state with table }.setPhase id execution (.failed error))
  | .running _ | .returned _ | .failed _ => none

/-- The run transaction: the run's own writes and the completion of the key, or neither. -/
def commitRun (state : State Data) (id : Nat) (execution : Execution Data) (data : Data) :
    Option (State Data) :=
  match execution.phase with
  | .running _ =>
      let body : StoredBody Data := ⟨data, execution.requestId⟩
      if byteLength body > config.idempotencyMaxResponseBytes then
        some (state.setPhase id execution (caught (.app (invalidRequest
          "Idempotent response exceeds the storage limit." "idempotency_response_too_large")) true))
      else
        match completeIdempotencyKey config state.table execution.appKey execution.context.requestHash
            execution.statusCode body (byteLength body) state.now with
        | .ok (row, table) =>
            let commit : Commit Data := ⟨execution.appKey, id, row.id, data, state.now, row.expiresAt⟩
            some ({ state with table, commits := state.commits ++ [commit] }.setPhase id execution
              (.returned data))
        | .error error => some (state.setPhase id execution (caught error true))
  | _ => none

/-- A statement or a transaction that throws, and leaves the table as it was. -/
def failStep (state : State Data) (id : Nat) (execution : Execution Data) (error : Failure) :
    Option (State Data) :=
  match execution.phase with
  | .finding _ | .deletingExpired _ | .findingAgain _ => some (state.setPhase id execution (.failed error))
  | .reserving => some (state.setPhase id execution (caught error false))
  | .running _ => some (state.setPhase id execution (caught error true))
  | .clearing original => some (state.setPhase id execution (.failed original))
  | .checking _ _ | .returned _ | .failed _ => none

def step (state : State Data) : Action Data → Option (State Data)
  | .arrive id appId context statusCode requestId =>
      match state.executions id with
      | none =>
          some (state.setPhase id ⟨appId, context, statusCode, requestId, .finding .first⟩ (.finding .first))
      | some _ => none
  | .proceed id => (state.executions id).bind (proceed config state id)
  | .commit id data => (state.executions id).bind (commitRun config byteLength state id · data)
  | .fail id error => (state.executions id).bind (failStep state id · error)
  | .cleanup => some { state with table := cleanupExpiredIdempotencyKeys state.table state.now }
  | .tick elapsed => some { state with now := state.now + elapsed }

end Step

/-- An empty table and no execution. -/
def State.initial : State Data := ⟨fun _ => none, 0, 0, fun _ => none, []⟩

end PactAgent.Idempotency.Service
