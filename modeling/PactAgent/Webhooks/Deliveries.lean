import PactAgent.Jobs.Queue

/-! Webhook endpoints, deliveries and events, and the transactions of the webhook
service on these tables and on the table of jobs. -/

namespace PactAgent.Webhooks
open Foundation

/-- An identifier as `uuid()` makes it: whatever its letters, it is not empty and has no
colon. -/
structure Uuid where
  text : String
  present : text ≠ ""
  plain : ':' ∉ text.toList

instance : DecidableEq Uuid := fun first second =>
  decidable_of_iff (first.text = second.text) ⟨fun same => by cases first; cases second; cases same; rfl, fun same => same ▸ rfl⟩

inductive EndpointStatus
  | active
  | disabled
  deriving DecidableEq, Repr

structure WebhookEndpoint where
  id : Uuid
  appId : Uuid
  url : String
  subscribedEvents : List String
  secretCiphertext : Option String
  status : EndpointStatus
  deletedAt : Option Int
  deriving DecidableEq

inductive DeliveryStatus
  | pending
  | delivered
  | failed
  | retry
  deriving DecidableEq, Repr

structure WebhookDelivery where
  id : Uuid
  appId : Uuid
  endpointId : Uuid
  eventId : Option Uuid
  agreementId : Option String
  eventType : String
  status : DeliveryStatus
  statusCode : Option Nat
  responseBodySnippet : Option String
  attempts : Nat
  lastError : Option String
  nextRetryAt : Option Int
  deliveredAt : Option Int
  createdAt : Int
  deriving DecidableEq

/-- The payload of an event; only the service's own one is looked into. -/
inductive EventPayload
  | deliveryFailed (deliveryId endpointId : Uuid) (eventId : Option Uuid) (reason : String)
  | json (text : String)
  deriving DecidableEq

structure Event where
  id : Uuid
  appId : Uuid
  type : String
  agreementId : Option String
  payload : EventPayload
  createdAt : Int
  deriving DecidableEq

/-- `WEBHOOK_EVENTS.deliveryFailed`. -/
def deliveryFailed : String := "webhook.delivery_failed"

instance : Keyed WebhookEndpoint Uuid := ⟨WebhookEndpoint.id⟩
instance : Keyed WebhookDelivery Uuid := ⟨WebhookDelivery.id⟩
instance : Keyed Event Uuid := ⟨Event.id⟩

@[simp] theorem key_endpoint (endpoint : WebhookEndpoint) : Keyed.key endpoint = endpoint.id := rfl
@[simp] theorem key_delivery (delivery : WebhookDelivery) : Keyed.key delivery = delivery.id := rfl
@[simp] theorem key_event (event : Event) : Keyed.key event = event.id := rfl

/-- The tables that a transaction of the service works on. -/
structure Tables where
  endpoints : Table WebhookEndpoint
  deliveries : Table WebhookDelivery
  events : Table Event
  jobs : Table Jobs.AgentJob

/-- The last part of a job's dedupe key. -/
inductive AttemptKey
  | attempt (number : Nat)
  | manual (now : Int)
  deriving DecidableEq, Repr

def AttemptKey.text : AttemptKey → String
  | .attempt number => Nat.repr number
  | .manual now => "manual:" ++ Int.repr now

def dedupeKey (deliveryId : Uuid) (attemptKey : AttemptKey) : String :=
  "INFRA_WEBHOOK_DELIVERY:" ++ (deliveryId.text ++ (":" ++ attemptKey.text))

/-- What `enqueueWebhookDeliveryJob` asks of the queue. -/
def deliveryJob (appId : Uuid) (deliveryId : Uuid) (agreementId : Option String) (attemptKey : AttemptKey)
    (availableAt : Option Int) : Jobs.EnqueueParams where
  appId := appId.text
  agreementId := agreementId
  kind := .deliverWebhook
  payload := some { agreementId := agreementId, deliveryId := some deliveryId.text }
  availableAt := availableAt
  maxAttempts := some 1
  dedupeKey := some (dedupeKey deliveryId attemptKey)

/-- How a delivery came to its present status; `job` is the job enqueued with it. The
entries are for the proofs only. -/
inductive Cause
  | created
  | retried
  | recorded (run : Nat)
  deriving DecidableEq, Repr

structure Entry where
  deliveryId : Uuid
  cause : Cause
  status : DeliveryStatus
  attempts : Nat
  job : Option String
  key : Option AttemptKey
  deriving DecidableEq

section Repository

/-- The endpoints that receive an event. -/
def subscribers (event : Event) (endpoints : Table WebhookEndpoint) : List WebhookEndpoint :=
  endpoints.rows.filter fun endpoint => endpoint.appId = event.appId && endpoint.status = .active
    && endpoint.deletedAt.isNone && endpoint.subscribedEvents.contains event.type

def createDelivery (event : Event) (endpoint : WebhookEndpoint) (deliveryId : Uuid) (jobId : String) (now : Int)
    (tables : Tables) : Except Jobs.DatabaseError Tables := do
  if (tables.deliveries.get deliveryId).isSome then throw .uniqueViolation
  let delivery : WebhookDelivery :=
    { id := deliveryId, appId := event.appId, endpointId := endpoint.id, eventId := some event.id
      agreementId := event.agreementId, eventType := event.type, status := .pending, statusCode := none
      responseBodySnippet := none, attempts := 0, lastError := none, nextRetryAt := none, deliveredAt := none
      createdAt := now }
  let job := (deliveryJob event.appId deliveryId event.agreementId (.attempt 0) none).row jobId now
  let jobs ← Jobs.create job tables.jobs
  return { tables with deliveries := tables.deliveries.put delivery, jobs := jobs }

/-- One delivery and one job for each subscriber. `uuids` answers the calls of `uuid()`. -/
def createDeliveries (event : Event) (uuids : Nat → Uuid) (now : Int) :
    List WebhookEndpoint → Tables → Except Jobs.DatabaseError (List Entry × Tables)
  | [], tables => pure ([], tables)
  | endpoint :: rest, tables => do
      let deliveryId := uuids (2 * rest.length + 1)
      let jobId := (uuids (2 * rest.length + 2)).text
      let tables ← createDelivery event endpoint deliveryId jobId now tables
      let (entries, tables) ← createDeliveries event uuids now rest tables
      return (⟨deliveryId, .created, .pending, 0, some jobId, some (.attempt 0)⟩ :: entries, tables)

def createWebhookDeliveriesForEvent (event : Event) (uuids : Nat → Uuid) (now : Int) (tables : Tables) :
    Except Jobs.DatabaseError (List Entry × Tables) :=
  createDeliveries event uuids now (subscribers event tables.endpoints) tables

structure NewEvent where
  type : String
  agreementId : Option String
  payload : EventPayload
  deriving DecidableEq

def createEvent (appId : Uuid) (data : NewEvent) (uuids : Nat → Uuid) (now : Int) (tables : Tables) :
    Except Jobs.DatabaseError (List Entry × Tables) := do
  let event : Event := ⟨uuids 0, appId, data.type, data.agreementId, data.payload, now⟩
  if (tables.events.get event.id).isSome then throw .uniqueViolation
  createWebhookDeliveriesForEvent event uuids now { tables with events := tables.events.put event }

/-- `markWebhookDeliveryForRetry`: the row as it is reserved for a manual retry. -/
def markWebhookDeliveryForRetry (appId : Uuid) (deliveryId : Uuid) (now : Int)
    (deliveries : Table WebhookDelivery) : Option WebhookDelivery :=
  ((deliveries.get deliveryId).filter fun delivery =>
      delivery.appId = appId && (delivery.status = .failed || delivery.status = .retry)).map fun delivery =>
    { delivery with status := .pending, nextRetryAt := some now, lastError := none }

/-- The fields that a result sets. -/
structure ResultData where
  status : DeliveryStatus
  statusCode : Option Nat := none
  responseBodySnippet : Option String := none
  lastError : Option String := none
  nextRetryAt : Option Int := none
  deliveredAt : Option Int := none
  deriving DecidableEq

/-- `updateWebhookDeliveryResult`: the new row when the delivery stands as `read`, and
nothing when it has changed. -/
def updateWebhookDeliveryResult (read : WebhookDelivery) (data : ResultData) (deliveries : Table WebhookDelivery) :
    Option WebhookDelivery :=
  ((deliveries.get read.id).filter fun delivery => delivery.appId = read.appId && delivery.status = read.status
      && delivery.attempts = read.attempts).map fun delivery =>
    { delivery with
      status := data.status
      statusCode := data.statusCode
      responseBodySnippet := data.responseBodySnippet
      lastError := data.lastError
      nextRetryAt := data.nextRetryAt
      deliveredAt := data.deliveredAt
      attempts := delivery.attempts + 1 }

end Repository

/-- What a run of `deliverWebhookDelivery` has to record. -/
structure Record where
  data : ResultData
  finalFailureReason : Option String := none
  retry : Option (AttemptKey × Int) := none
  deriving DecidableEq

section Service

def recordFinalDeliveryFailure (delivery : WebhookDelivery) (reason : String) (uuids : Nat → Uuid) (now : Int)
    (tables : Tables) : Except Jobs.DatabaseError (List Entry × Tables) :=
  if delivery.appId.text = "" ∨ delivery.eventType = deliveryFailed then pure ([], tables)
  else createEvent delivery.appId
    { type := deliveryFailed, agreementId := none
      payload := .deliveryFailed delivery.id delivery.endpointId delivery.eventId reason } uuids now tables

/-- The failure event of a result with a reason; JavaScript takes `''` for no reason. -/
def publishFailure (delivery : WebhookDelivery) (finalFailureReason : Option String) (uuids : Nat → Uuid) (now : Int)
    (tables : Tables) : Except Jobs.DatabaseError (List Entry × Tables) :=
  match finalFailureReason with
  | some reason =>
      if reason = "" then pure ([], tables) else recordFinalDeliveryFailure delivery reason uuids now tables
  | none => pure ([], tables)

/-- The job of a result that is to be retried, and its id. -/
def enqueueRetry (delivery : WebhookDelivery) (retry : Option (AttemptKey × Int)) (jobId : String) (now : Int)
    (jobs : Table Jobs.AgentJob) : Except Jobs.DatabaseError (Option String × Table Jobs.AgentJob) :=
  match retry with
  | some (attemptKey, availableAt) => do
      let (job, jobs) ← Jobs.enqueueJob
        (deliveryJob delivery.appId delivery.id delivery.agreementId attemptKey (some availableAt)) jobId now jobs
      return (some job.id, jobs)
  | none => pure (none, jobs)

/-- The transaction of `recordDeliveryResult`. -/
def recordDeliveryResult (run : Nat) (delivery : WebhookDelivery) (record : Record) (jobId : String)
    (uuids : Nat → Uuid) (now : Int) (tables : Tables) : Except Jobs.DatabaseError (List Entry × Tables) := do
  match updateWebhookDeliveryResult delivery record.data tables.deliveries with
  | none => return ([], tables)
  | some updated =>
      if 2147483647 < updated.attempts then throw .integerRange
      let tables := { tables with deliveries := tables.deliveries.put updated }
      let (created, tables) ← publishFailure delivery record.finalFailureReason uuids now tables
      let (job, jobs) ← enqueueRetry delivery record.retry jobId now tables.jobs
      let entry : Entry := ⟨delivery.id, .recorded run, record.data.status, updated.attempts, job,
        record.retry.map Prod.fst⟩
      return (created ++ [entry], { tables with jobs := jobs })

/-- The transaction of `retryWebhookDeliveryForApp`. The read before it can only refuse the
request. -/
def retryWebhookDeliveryForApp (appId : Uuid) (deliveryId : Uuid) (jobId : String) (now : Int) (tables : Tables) :
    Except Jobs.DatabaseError (List Entry × Tables) := do
  match markWebhookDeliveryForRetry appId deliveryId now tables.deliveries with
  | none => return ([], tables)
  | some updated =>
      let (job, jobs) ← Jobs.enqueueJob
        (deliveryJob appId updated.id updated.agreementId (.manual now) none) jobId now tables.jobs
      return ([⟨updated.id, .retried, .pending, updated.attempts, some job.id, some (.manual now)⟩],
        { tables with deliveries := tables.deliveries.put updated, jobs := jobs })

/-- `WEBHOOK_RETRY_DELAYS_MS`. -/
def WEBHOOK_RETRY_DELAYS_MS : List Nat := [60 * 1000, 5 * 60 * 1000, 15 * 60 * 1000, 60 * 60 * 1000, 6 * 60 * 60 * 1000]

def getWebhookRetryDelayMs (failedAttemptCount : Nat) : Option Nat :=
  if failedAttemptCount < 1 then WEBHOOK_RETRY_DELAYS_MS[0]?
  else WEBHOOK_RETRY_DELAYS_MS[failedAttemptCount - 1]?

/-- Why a delivery has failed. The request's errors are of the class `ProviderError`,
those of the transaction come from the database client; none of them is empty. -/
inductive DeliveryError
  | circuitOpen
  | requestFailed
  | providerStatus (status : Nat)
  | answered (status : Nat)
  | database (first : Char) (rest : String)
  deriving DecidableEq

def DeliveryError.message : DeliveryError → String
  | .circuitOpen => "Provider circuit is open."
  | .requestFailed => "Provider request failed."
  | .providerStatus status => "webhook responded with status " ++ (Nat.repr status ++ ".")
  | .answered status => "Webhook responded with status " ++ Nat.repr status
  | .database first rest => String.singleton first ++ rest

/-- `recordDeliveryResult` for an endpoint that cannot be delivered to. -/
def unavailable (reason : String) : Record where
  data := { status := .failed, lastError := some reason }
  finalFailureReason := some reason

/-- The record of the `try` block. -/
def accepted (status : Nat) (snippet : String) (now : Int) : Record where
  data := { status := .delivered, statusCode := some status, responseBodySnippet := some snippet, deliveredAt := some now }

/-- The record of the `catch` block. -/
def rejected (delivery : WebhookDelivery) (error : DeliveryError) (now : Int) : Record :=
  let failedAttemptCount := delivery.attempts + 1
  match getWebhookRetryDelayMs failedAttemptCount with
  | some retryDelayMs =>
      { data := { status := .retry, lastError := some error.message, nextRetryAt := some (now + retryDelayMs) }
        retry := some (.attempt failedAttemptCount, now + retryDelayMs) }
  | none =>
      { data := { status := .failed, lastError := some error.message }
        finalFailureReason := some error.message }

end Service

end PactAgent.Webhooks
