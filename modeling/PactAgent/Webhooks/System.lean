import PactAgent.Webhooks.Deliveries

/-! Runs of the webhook service: requests that create events, change endpoints and retry
deliveries, workers that claim jobs, and any number of runs of `deliverWebhookDelivery`,
at the granularity of transactions. -/

namespace PactAgent.Webhooks
open Foundation

/-- The point that a run of `deliverWebhookDelivery` has reached, with what it has read. -/
inductive Stage
  | reading
  /-- The request to the endpoint is under way. -/
  | requesting (delivery : WebhookDelivery)
  /-- A result waits to be recorded; `caught` inside the `try` block. -/
  | recording (delivery : WebhookDelivery) (record : Record) (caught : Bool)
  | returned
  | threw
  deriving DecidableEq

/-- A run, with the execution that it belongs to when a worker has started it for a job. -/
structure Run where
  claim : Option Nat
  deliveryId : String
  stage : Stage
  deriving DecidableEq

structure State where
  endpoints : Table WebhookEndpoint
  deliveries : Table WebhookDelivery
  events : Table Event
  queue : Jobs.State
  runs : List Run
  log : List Entry

def initial : State := ⟨Table.empty, Table.empty, Table.empty, Jobs.initial, [], []⟩

def State.tables (state : State) : Tables := ⟨state.endpoints, state.deliveries, state.events, state.queue.jobs⟩

/-- The state after a transaction. -/
def State.commit (state : State) (entries : List Entry) (tables : Tables) : State :=
  { state with
    endpoints := tables.endpoints
    deliveries := tables.deliveries
    events := tables.events
    queue := { state.queue with jobs := tables.jobs }
    log := state.log ++ entries }

/-- A transaction that may fail, and then changes nothing. -/
def State.transact (state : State) (transaction : Tables → Except Jobs.DatabaseError (List Entry × Tables)) : State :=
  match transaction state.tables with
  | .ok (entries, tables) => state.commit entries tables
  | .error _ => state

def State.reach (state : State) (run : Nat) (stage : Stage) : State :=
  { state with runs := state.runs.modify run fun before => { before with stage := stage } }

/-- What a run does on what it reads, until it asks the endpoint or has a result. -/
def readDelivery (deliveryId : String) (decrypts : Bool) (tables : Tables) : Stage :=
  match tables.deliveries.first fun delivery => delivery.id.text = deliveryId with
  | none => .threw
  | some delivery =>
      match (tables.endpoints.get delivery.endpointId).filter fun endpoint => endpoint.appId = delivery.appId with
      | none => .threw
      | some endpoint =>
          if delivery.status = .delivered then .returned
          else if endpoint.status ≠ .active ∨ endpoint.url = "" then
            .recording delivery (unavailable "Webhook endpoint is inactive.") false
          else if endpoint.secretCiphertext = none ∨ endpoint.secretCiphertext = some "" then
            .recording delivery (unavailable "Webhook endpoint signing secret is unavailable.") false
          -- `decryptWebhookSecret` throws on a secret whose key is not configured
          else if decrypts then .requesting delivery
          else .threw

/-- The end of the request to the endpoint. -/
inductive Outcome
  | response (status : Nat) (snippet : String)
  | failed (error : DeliveryError)
  deriving DecidableEq

def Outcome.record (delivery : WebhookDelivery) (now : Int) : Outcome → Record × Bool
  | .response status snippet =>
      if 200 ≤ status ∧ status ≤ 299 then (accepted status snippet now, true)
      else (rejected delivery (.answered status) now, false)
  | .failed error => (rejected delivery error now, false)

/-- How a transaction ends for the run that has asked for it. -/
inductive Ending
  | committed
  | rolledBack
  /-- Committed, but the run sees an error. -/
  | unacknowledged
  deriving DecidableEq, Repr

/-- What follows an error of the transaction: the `catch` block, or the run has thrown. -/
def afterError (delivery : WebhookDelivery) (caught : Bool) (error : DeliveryError) (now : Int) : Stage :=
  if caught then .recording delivery (rejected delivery error now) false else .threw

inductive Action
  | queue (action : Jobs.Action)
  /-- `enqueueCkbReconciliation`, in the transaction of an escrow. -/
  | enqueueCkbReconciliation (appId agreementId : String) (transactionId : Uuid) (uuid : String) (now : Int)
  | createEndpoint (endpoint : WebhookEndpoint)
  | updateEndpoint (appId : Uuid) (endpointId : Uuid) (url : Option String) (subscribedEvents : Option (List String))
      (status : Option EndpointStatus)
  | deleteEndpoint (appId : Uuid) (endpointId : Uuid) (now : Int)
  | createEvent (appId : Uuid) (data : NewEvent) (uuids : Nat → Uuid) (now : Int)
  | retryWebhookDelivery (appId : Uuid) (deliveryId : Uuid) (jobId : String) (now : Int)
  /-- A worker starts the job of one of its claims. -/
  | execute (execution : Nat)
  /-- `deliverWebhookDelivery` outside the queue. -/
  | deliver (deliveryId : String)
  | read (run : Nat) (decrypts : Bool)
  | respond (run : Nat) (outcome : Outcome) (now : Int)
  | record (run : Nat) (ending : Ending) (jobId : String) (uuids : Nat → Uuid) (first : Char) (message : String)
      (now : Int)
  /-- The read of a run fails. -/
  | interrupt (run : Nat)

/-- The steps of a run of `deliverWebhookDelivery`. -/
def Action.ofRun : Action → Bool
  | .execute _ | .deliver _ | .read .. | .respond .. | .record .. | .interrupt _ => true
  | _ => false

/-- The job that `enqueueCkbReconciliation` asks for. -/
def reconciliationJob (appId agreementId : String) (transactionId : Uuid) : Jobs.EnqueueParams where
  appId := appId
  agreementId := some agreementId
  kind := .ckbReconcileTransaction
  payload := some { transactionId := some transactionId.text }
  maxAttempts := some 100
  dedupeKey := some ("CKB_RECONCILE_TRANSACTION:" ++ transactionId.text)

/-- The calls of the queue that the program makes: every enqueue is in a transaction, a
worker completes the job of a delivery when its run has returned, and it defers no such job. -/
def permitted (state : State) : Jobs.Action → Bool
  | .enqueueJob _ | .enqueueInTransaction .. => false
  | .advance index .. =>
      match state.queue.calls[index]? with
      | some (.replayJob _) => true
      | _ => false
  | .leaseCall index call =>
      match state.queue.executions[index]? with
      | none => false
      | some execution =>
          match execution.job.kind, call with
          | .deliverWebhook, .completeJob _ =>
              state.runs.any fun run => run.claim = some index && run.stage = .returned
          | .deliverWebhook, .deferJob .. => false
          | _, _ => true
  | _ => true

def step (state : State) : Action → Option State
  | .queue action =>
      if permitted state action then
        (Jobs.step state.queue action).map fun queue => { state with queue := queue }
      else none
  | .enqueueCkbReconciliation appId agreementId transactionId uuid now =>
      (Jobs.step state.queue (.enqueueInTransaction (reconciliationJob appId agreementId transactionId) uuid now)).map
        fun queue => { state with queue := queue }
  | .createEndpoint endpoint =>
      if (state.endpoints.get endpoint.id).isSome then none
      else some { state with endpoints := state.endpoints.put endpoint }
  | .updateEndpoint appId endpointId url subscribedEvents status =>
      match (state.endpoints.get endpointId).filter fun endpoint => endpoint.appId = appId with
      | none => none
      | some endpoint => some { state with
          endpoints := state.endpoints.put { endpoint with
            url := url.getD endpoint.url
            subscribedEvents := subscribedEvents.getD endpoint.subscribedEvents
            status := status.getD endpoint.status } }
  | .deleteEndpoint appId endpointId now =>
      match (state.endpoints.get endpointId).filter fun endpoint => endpoint.appId = appId with
      | none => none
      | some endpoint => some { state with
          endpoints := state.endpoints.put { endpoint with status := .disabled, deletedAt := some now } }
  | .createEvent appId data uuids now =>
      if data.type = deliveryFailed then none
      else some (state.transact (createEvent appId data uuids now))
  | .retryWebhookDelivery appId deliveryId jobId now =>
      some (state.transact (retryWebhookDeliveryForApp appId deliveryId jobId now))
  | .execute index =>
      match state.queue.executions[index]? with
      | none => none
      | some execution =>
          if execution.job.kind = .deliverWebhook ∧ ∀ run ∈ state.runs, run.claim ≠ some index then
            match execution.job.payload.bind Jobs.AgentJobPayload.deliveryId with
            | none => none
            | some deliveryId => some { state with runs := state.runs ++ [⟨some index, deliveryId, .reading⟩] }
          else none
  | .deliver deliveryId => some { state with runs := state.runs ++ [⟨none, deliveryId, .reading⟩] }
  | .read index decrypts =>
      match state.runs[index]? with
      | some ⟨_, deliveryId, .reading⟩ => some (state.reach index (readDelivery deliveryId decrypts state.tables))
      | _ => none
  | .respond index outcome now =>
      match state.runs[index]? with
      | some ⟨_, _, .requesting delivery⟩ =>
          some (state.reach index (.recording delivery (outcome.record delivery now).1 (outcome.record delivery now).2))
      | _ => none
  | .record index ending jobId uuids first message now =>
      match state.runs[index]? with
      | some ⟨_, _, .recording delivery record caught⟩ =>
          let thrown := afterError delivery caught (.database first message) now
          match recordDeliveryResult index delivery record jobId uuids now state.tables, ending with
          | .ok (entries, tables), .committed => some ((state.commit entries tables).reach index .returned)
          | .ok (entries, tables), .unacknowledged => some ((state.commit entries tables).reach index thrown)
          | _, _ => some (state.reach index thrown)
      | _ => none
  | .interrupt index =>
      match state.runs[index]? with
      | some ⟨_, _, .reading⟩ => some (state.reach index .threw)
      | _ => none

/-- An entry of a recorded result. -/
def Entry.isResult (entry : Entry) : Bool :=
  match entry.cause with
  | .recorded _ => true
  | _ => false

/-- The results that have been recorded for a delivery, the earliest first. -/
def State.resultsOf (state : State) (deliveryId : Uuid) : List Entry :=
  (state.log.filter fun entry => entry.deliveryId = deliveryId).filter Entry.isResult

end PactAgent.Webhooks
