import PactAgent.Jobs.Steps
import PactAgent.Webhooks.System

/-! What the transactions of the webhook service do to the row of one delivery, to the
jobs and to the events. -/

namespace PactAgent.Webhooks
open Foundation

/-- The entries of one delivery. -/
def entriesOf (entries : List Entry) (deliveryId : Uuid) : List Entry :=
  entries.filter fun entry => entry.deliveryId = deliveryId

@[simp] theorem entriesOf_append (first second : List Entry) (deliveryId : Uuid) :
    entriesOf (first ++ second) deliveryId = entriesOf first deliveryId ++ entriesOf second deliveryId :=
  List.filter_append ..

/-- A job that was just enqueued for a delivery. -/
structure Enqueued (job : Jobs.AgentJob) (deliveryId : Uuid) (attemptKey : AttemptKey) : Prop where
  kind : job.kind = .deliverWebhook
  queued : job.status = .queued
  payload : job.payload.bind Jobs.AgentJobPayload.deliveryId = some deliveryId.text
  key : job.dedupeKey = some (dedupeKey deliveryId attemptKey)
  made : ∃ (params : Jobs.EnqueueParams) (uuid : String) (now : Int), job = params.row uuid now

theorem deliveryJob_enqueued (appId : Uuid) (deliveryId : Uuid) (agreementId : Option String)
    (attemptKey : AttemptKey) (availableAt : Option Int) (jobId : String) (now : Int) :
    Enqueued ((deliveryJob appId deliveryId agreementId attemptKey availableAt).row jobId now) deliveryId attemptKey :=
  ⟨rfl, rfl, rfl, rfl, _, _, _, rfl⟩

/-- A delivery that the transaction has created together with its first job. -/
structure Born (before after : Tables) (entries : List Entry) (deliveryId : Uuid) : Prop where
  absent : before.deliveries.get deliveryId = none
  present : ∃ delivery jobId job, after.deliveries.get deliveryId = some delivery ∧ delivery.status = .pending ∧
    delivery.attempts = 0 ∧ entriesOf entries deliveryId =
      [⟨deliveryId, .created, .pending, 0, some jobId, some (.attempt 0)⟩] ∧
    before.jobs.get jobId = none ∧ after.jobs.get jobId = some job ∧ Enqueued job deliveryId (.attempt 0)

/-- The tables have new deliveries with their jobs and are otherwise as before. -/
structure Extends (before after : Tables) (entries : List Entry) : Prop where
  endpoints : after.endpoints = before.endpoints
  deliveries : ∀ deliveryId, after.deliveries.get deliveryId = before.deliveries.get deliveryId ∧
      entriesOf entries deliveryId = [] ∨ Born before after entries deliveryId
  jobs : ∀ jobId, after.jobs.get jobId = before.jobs.get jobId ∨
    before.jobs.get jobId = none ∧ ∃ job deliveryId, after.jobs.get jobId = some job ∧
      before.deliveries.get deliveryId = none ∧ (after.deliveries.get deliveryId).isSome = true ∧
      Enqueued job deliveryId (.attempt 0)
  created : ∀ entry ∈ entries, entry.cause = .created

section Extends
variable {first second third : Tables} {entries more : List Entry}

theorem Extends.refl (tables : Tables) : Extends tables tables [] :=
  ⟨rfl, fun _ => .inl ⟨rfl, rfl⟩, fun _ => .inl rfl, fun _ member => absurd member List.not_mem_nil⟩

theorem Extends.present (extends' : Extends first second entries) {deliveryId : Uuid}
    (there : (first.deliveries.get deliveryId).isSome = true) :
    second.deliveries.get deliveryId = first.deliveries.get deliveryId := by
  rcases extends'.deliveries deliveryId with ⟨same, -⟩ | born
  · exact same
  · rw [born.absent] at there
    cases there

theorem Extends.job (extends' : Extends first second entries) {jobId : String} {job : Jobs.AgentJob}
    (there : first.jobs.get jobId = some job) : second.jobs.get jobId = some job := by
  rcases extends'.jobs jobId with same | ⟨absent, -⟩
  · rw [same, there]
  · cases absent.symm.trans there

theorem Extends.trans (earlier : Extends first second entries) (later : Extends second third more) :
    Extends first third (entries ++ more) where
  endpoints := later.endpoints.trans earlier.endpoints
  deliveries deliveryId := by
    rcases earlier.deliveries deliveryId with ⟨same, none'⟩ | born
    · rcases later.deliveries deliveryId with ⟨same', none''⟩ | born'
      · exact .inl ⟨same'.trans same, by rw [entriesOf_append, none', none'', List.append_nil]⟩
      · obtain ⟨delivery, jobId, job, stored, pending, attempts, entry, free, queued, facts⟩ := born'.present
        refine .inr ⟨same.symm.trans born'.absent, delivery, jobId, job, stored, pending, attempts, ?_, ?_, queued, facts⟩
        · rw [entriesOf_append, none', entry, List.nil_append]
        · cases found : first.jobs.get jobId with
          | none => rfl
          | some old => cases free.symm.trans (earlier.job found)
    · obtain ⟨delivery, jobId, job, stored, pending, attempts, entry, free, queued, facts⟩ := born.present
      have there := later.present (by rw [stored]; rfl : (second.deliveries.get deliveryId).isSome = true)
      refine .inr ⟨born.absent, delivery, jobId, job, there.trans stored, pending, attempts, ?_, free, later.job queued, facts⟩
      rcases later.deliveries deliveryId with ⟨-, none'⟩ | born'
      · rw [entriesOf_append, entry, none', List.append_nil]
      · cases born'.absent.symm.trans stored
  jobs jobId := by
    rcases later.jobs jobId with same | ⟨absent, job, deliveryId, queued, free, there, facts⟩
    · rcases earlier.jobs jobId with same' | ⟨absent, job, deliveryId, queued, free, there, facts⟩
      · exact .inl (same.trans same')
      · exact .inr ⟨absent, job, deliveryId, same.trans queued, free, by rw [later.present there]; exact there, facts⟩
    · refine .inr ⟨?_, job, deliveryId, queued, ?_, there, facts⟩
      · cases found : first.jobs.get jobId with
        | none => rfl
        | some old => cases absent.symm.trans (earlier.job found)
      · rcases earlier.deliveries deliveryId with ⟨same, -⟩ | born
        · exact same.symm.trans free
        · exact born.absent
  created entry member := by
    rcases List.mem_append.mp member with earlierIn | laterIn
    · exact earlier.created entry earlierIn
    · exact later.created entry laterIn

end Extends

section Creation
variable {event : Event} {uuids : Nat → Uuid} {now : Int} {tables after : Tables} {entries : List Entry}

theorem createDelivery_extends {endpoint : WebhookEndpoint} {deliveryId : Uuid} {jobId : String}
    (created : createDelivery event endpoint deliveryId jobId now tables = .ok after) :
    Extends tables after [⟨deliveryId, .created, .pending, 0, some jobId, some (.attempt 0)⟩] ∧
      after.events = tables.events := by
  unfold createDelivery at created
  dsimp only at created
  split at created
  · cases created
  next missing =>
  have absent : tables.deliveries.get deliveryId = none := by simpa using missing
  simp only [Guard.bind_ok_iff, Guard.pure_ok_iff] at created
  obtain ⟨jobs, written, rfl⟩ := created
  obtain ⟨free, stored⟩ := Jobs.create_ok_iff.mp written
  have enqueued := deliveryJob_enqueued event.appId deliveryId event.agreementId (.attempt 0) none jobId now
  have present : (tables.deliveries.put
      { id := deliveryId, appId := event.appId, endpointId := endpoint.id, eventId := some event.id
        agreementId := event.agreementId, eventType := event.type, status := .pending, statusCode := none
        responseBodySnippet := none, attempts := 0, lastError := none, nextRetryAt := none, deliveredAt := none
        createdAt := now }).get deliveryId = _ := Table.get_put_self _ tables.deliveries
  refine ⟨⟨rfl, ?_, ?_, ?_⟩, rfl⟩
  · intro other
    by_cases same : other = deliveryId
    · subst same
      rcases Jobs.store_get stored jobId with ⟨-, queued⟩ | ⟨different, -⟩
      · exact .inr ⟨absent, _, jobId, _, present, rfl, rfl, by simp [entriesOf], free, queued, enqueued⟩
      · exact absurd rfl different
    · exact .inl ⟨Table.get_put_of_ne same, by simpa [entriesOf] using fun equal => same equal.symm⟩
  · intro other
    rcases Jobs.store_get stored other with ⟨same, queued⟩ | ⟨-, kept⟩
    · refine .inr ⟨?_, _, deliveryId, queued, absent, by rw [present]; rfl, enqueued⟩
      rw [same]
      exact free
    · exact .inl kept
  · intro entry member
    rw [List.mem_singleton.mp member]

theorem createDeliveries_extends {endpoints : List WebhookEndpoint}
    (created : createDeliveries event uuids now endpoints tables = .ok (entries, after)) :
    Extends tables after entries ∧ after.events = tables.events := by
  induction endpoints generalizing tables entries after with
  | nil =>
    cases created
    exact ⟨Extends.refl tables, rfl⟩
  | cons endpoint rest ih =>
    unfold createDeliveries at created
    simp only [Guard.bind_ok_iff, Guard.pure_ok_iff, Prod.mk.injEq, Prod.exists] at created
    obtain ⟨middle, first, entries, last, others, rfl, rfl⟩ := created
    obtain ⟨one, sameEvents⟩ := createDelivery_extends first
    obtain ⟨more, sameEvents'⟩ := ih others
    exact ⟨one.trans more, sameEvents'.trans sameEvents⟩

/-- An event is inserted, and its deliveries with it. -/
theorem createEvent_extends {appId : Uuid} {data : NewEvent}
    (created : createEvent appId data uuids now tables = .ok (entries, after)) :
    Extends tables after entries ∧ tables.events.get (uuids 0) = none ∧
      after.events = tables.events.put ⟨uuids 0, appId, data.type, data.agreementId, data.payload, now⟩ := by
  unfold createEvent at created
  dsimp only at created
  split at created
  · cases created
  next missing =>
  have absent : tables.events.get (uuids 0) = none := by simpa using missing
  unfold createWebhookDeliveriesForEvent at created
  obtain ⟨⟨endpoints, deliveries, jobs, causes⟩, events⟩ := createDeliveries_extends created
  exact ⟨⟨endpoints, fun id => by
    rcases deliveries id with kept | born
    · exact .inl kept
    · exact .inr ⟨born.absent, born.present⟩, jobs, causes⟩, absent, events⟩

end Creation

section Results
variable {run : Nat} {read updated : WebhookDelivery} {record : Record} {jobId : String} {uuids : Nat → Uuid} {now : Int}
  {tables middle after : Tables} {created entries : List Entry} {job : Option String}

/-- The row of a delivery with a result. -/
def WebhookDelivery.withResult (delivery : WebhookDelivery) (data : ResultData) : WebhookDelivery :=
  { delivery with
    status := data.status
    statusCode := data.statusCode
    responseBodySnippet := data.responseBodySnippet
    lastError := data.lastError
    nextRetryAt := data.nextRetryAt
    deliveredAt := data.deliveredAt
    attempts := delivery.attempts + 1 }

theorem updateWebhookDeliveryResult_iff {data : ResultData} {deliveries : Table WebhookDelivery} :
    updateWebhookDeliveryResult read data deliveries = some updated ↔ ∃ old, deliveries.get read.id = some old ∧
      old.appId = read.appId ∧ old.status = read.status ∧ old.attempts = read.attempts ∧
      old.withResult data = updated := by
  unfold updateWebhookDeliveryResult
  simp only [Option.map_eq_some_iff, Option.filter_eq_some_iff, Bool.and_eq_true, decide_eq_true_eq, and_assoc]
  rfl

/-- The event that a final failure leaves, or none. -/
inductive FailureEvent (read : WebhookDelivery) (record : Record) (before after : Tables) (created : List Entry) : Prop
  | silent (none' : created = []) (same : after = before)
      (reason : ∀ reason, record.finalFailureReason = some reason → reason ≠ "" → read.eventType = deliveryFailed)
  | published (reason : String) (event : Event) (final : record.finalFailureReason = some reason)
      (other : read.eventType ≠ deliveryFailed) (fresh : before.events.get event.id = none)
      (type : event.type = deliveryFailed)
      (payload : event.payload = .deliveryFailed read.id read.endpointId read.eventId reason)
      (events : after.events = before.events.put event) (extends' : Extends before after created)

/-- The job that a retry leaves, or none. -/
inductive RetryJob (read : WebhookDelivery) (record : Record) (before after : Table Jobs.AgentJob) :
    Option String → Prop
  | none (none' : record.retry = none) (same : after = before) : RetryJob read record before after none
  | enqueued (key : AttemptKey) (availableAt : Int) (job : Jobs.AgentJob) (jobId : String) (now : Int)
      (retry : record.retry = some (key, availableAt))
      (written : Jobs.enqueueJob (deliveryJob read.appId read.id read.agreementId key (some availableAt)) jobId now before
        = .ok (job, after)) : RetryJob read record before after (some job.id)

/-- A result that has been recorded. -/
structure Recorded (run : Nat) (read : WebhookDelivery) (record : Record) (before after : Tables)
    (entries : List Entry) (old : WebhookDelivery) (middle : Tables) (created : List Entry) (job : Option String) :
    Prop where
  stored : before.deliveries.get read.id = some old
  status : old.status = read.status
  attempts : old.attempts = read.attempts
  failure : FailureEvent read record { before with deliveries := before.deliveries.put (old.withResult record.data) }
    middle created
  jobs : RetryJob read record middle.jobs after.jobs job
  rest : after.endpoints = middle.endpoints ∧ after.deliveries = middle.deliveries ∧ after.events = middle.events
  log : entries = created ++
    [⟨read.id, .recorded run, record.data.status, old.attempts + 1, job, record.retry.map Prod.fst⟩]

theorem FailureEvent.extends {read : WebhookDelivery} (failure : FailureEvent read record tables after created) :
    Extends tables after created := by
  cases failure with
  | silent none' same => rw [none', same]; exact Extends.refl tables
  | published _ _ _ _ _ _ _ _ extends' => exact extends'

/-- The transaction records the result, or the delivery has changed and it does nothing. -/
theorem recordDeliveryResult_ok
    (ended : recordDeliveryResult run read record jobId uuids now tables = .ok (entries, after)) :
    entries = [] ∧ after = tables ∧ updateWebhookDeliveryResult read record.data tables.deliveries = none ∨
      ∃ old middle created job, Recorded run read record tables after entries old middle created job := by
  unfold recordDeliveryResult at ended
  split at ended
  · next unchanged =>
    rw [Guard.pure_ok_iff, Prod.mk.injEq] at ended
    exact .inl ⟨ended.1.symm, ended.2.symm, unchanged⟩
  · next updated found =>
    right
    obtain ⟨old, stored, -, status, attempts, rfl⟩ := updateWebhookDeliveryResult_iff.mp found
    dsimp only at ended
    split at ended
    · cases ended
    simp only [Guard.bind_ok_iff, Guard.pure_ok_iff, Prod.exists, Prod.mk.injEq] at ended
    obtain ⟨created, middle, publishing, job, jobs, enqueuing, rfl, rfl⟩ := ended
    refine ⟨old, middle, created, job, stored, status, attempts, ?_, ?_, ⟨rfl, rfl, rfl⟩, rfl⟩
    · unfold publishFailure at publishing
      split at publishing
      · next reason final =>
        split at publishing
        · next empty =>
          rw [Guard.pure_ok_iff, Prod.mk.injEq] at publishing
          refine .silent publishing.1.symm publishing.2.symm ?_
          intro other same nonempty
          rw [final] at same
          exact absurd (Option.some.inj same ▸ empty) nonempty
        · unfold recordFinalDeliveryFailure at publishing
          split at publishing
          · next quiet =>
            rw [Guard.pure_ok_iff, Prod.mk.injEq] at publishing
            refine .silent publishing.1.symm publishing.2.symm ?_
            intro _ _ _
            exact quiet.resolve_left read.appId.present
          · next loud =>
            obtain ⟨extends', fresh, events⟩ := createEvent_extends publishing
            exact .published reason _ final (fun same => loud (.inr same)) fresh rfl rfl events extends'
      · next quiet =>
        rw [Guard.pure_ok_iff, Prod.mk.injEq] at publishing
        refine .silent publishing.1.symm publishing.2.symm ?_
        intro reason final
        exact absurd final (by rw [quiet]; exact nofun)
    · unfold enqueueRetry at enqueuing
      split at enqueuing
      · next attemptKey availableAt retry =>
        simp only [Guard.bind_ok_iff, Guard.pure_ok_iff, Prod.exists, Prod.mk.injEq] at enqueuing
        obtain ⟨row, _, written, rfl, rfl⟩ := enqueuing
        exact .enqueued attemptKey availableAt row jobId now retry written
      · next quiet =>
        rw [Guard.pure_ok_iff, Prod.mk.injEq] at enqueuing
        obtain ⟨rfl, rfl⟩ := enqueuing
        exact .none quiet rfl

/-- The transaction of a manual retry puts a failed or waiting delivery back and enqueues
its job, or it does nothing. -/
theorem retryWebhookDelivery_ok {appId : Uuid} {deliveryId : Uuid}
    (ended : retryWebhookDeliveryForApp appId deliveryId jobId now tables = .ok (entries, after)) :
    entries = [] ∧ after = tables ∨
      ∃ old job, tables.deliveries.get deliveryId = some old ∧ (old.status = .failed ∨ old.status = .retry) ∧
        Jobs.enqueueJob (deliveryJob appId deliveryId old.agreementId (.manual now) none) jobId now tables.jobs
          = .ok (job, after.jobs) ∧
        after.deliveries = tables.deliveries.put { old with status := .pending, nextRetryAt := some now, lastError := none } ∧
        after.endpoints = tables.endpoints ∧ after.events = tables.events ∧
        entries = [⟨deliveryId, .retried, .pending, old.attempts, some job.id, some (.manual now)⟩] := by
  unfold retryWebhookDeliveryForApp at ended
  split at ended
  · rw [Guard.pure_ok_iff, Prod.mk.injEq] at ended
    exact .inl ⟨ended.1.symm, ended.2.symm⟩
  · next updated found =>
    right
    unfold markWebhookDeliveryForRetry at found
    simp only [Option.map_eq_some_iff, Option.filter_eq_some_iff, Bool.and_eq_true, Bool.or_eq_true,
      decide_eq_true_eq] at found
    obtain ⟨old, ⟨stored, -, status⟩, rfl⟩ := found
    have keyed : old.id = deliveryId := Table.key_of_get stored
    simp only [Guard.bind_ok_iff, Guard.pure_ok_iff, Prod.exists, Prod.mk.injEq] at ended
    obtain ⟨job, jobs, written, rfl, rfl⟩ := ended
    rw [keyed] at written
    exact ⟨old, job, stored, status, written, rfl, rfl, rfl, by rw [keyed]⟩

end Results

end PactAgent.Webhooks
