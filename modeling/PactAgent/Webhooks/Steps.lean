import PactAgent.Webhooks.Transactions

/-! What one step of the webhook service does to its state. The invariants of
deliveries and of their jobs are derived from this case analysis. -/

namespace PactAgent.Webhooks
open Foundation

/-- A move of a run that writes to no table. -/
inductive StageMove (state : State) (index : Nat) (run : Run) : Stage → Prop
  | read (decrypts : Bool) (reading : run.stage = .reading) :
      StageMove state index run (readDelivery run.deliveryId decrypts state.tables)
  | responded (delivery : WebhookDelivery) (outcome : Outcome) (now : Int) (requesting : run.stage = .requesting delivery) :
      StageMove state index run
        (.recording delivery (outcome.record delivery now).1 (outcome.record delivery now).2)
  | superseded (delivery : WebhookDelivery) (record : Record) (caught : Bool) (stage : Stage)
      (recording : run.stage = .recording delivery record caught)
      (changed : updateWebhookDeliveryResult delivery record.data state.deliveries = none)
      (ends : stage = .returned ∨ ∃ error now, stage = afterError delivery caught error now) :
      StageMove state index run stage
  | failed (delivery : WebhookDelivery) (record : Record) (caught : Bool) (error : DeliveryError) (now : Int)
      (recording : run.stage = .recording delivery record caught) :
      StageMove state index run (afterError delivery caught error now)
  | interrupted (reading : run.stage = .reading) : StageMove state index run .threw

inductive Change (state next : State) : Action → Prop
  | idle {action : Action} (same : next = state) : Change state next action
  | queue {action : Action} (jobAction : Jobs.Action) (queue : Jobs.State)
      (allowed : (action = .queue jobAction ∧ permitted state jobAction = true) ∨
        ∃ appId agreementId transactionId uuid now,
          action = .enqueueCkbReconciliation appId agreementId transactionId uuid now ∧
          jobAction = .enqueueInTransaction (reconciliationJob appId agreementId transactionId) uuid now)
      (taken : Jobs.step state.queue jobAction = some queue) (same : next = { state with queue := queue }) :
      Change state next action
  | endpoints {action : Action} (endpoints : Table WebhookEndpoint) (other : action.ofRun = false)
      (same : next = { state with endpoints := endpoints }) : Change state next action
  | event (appId : Uuid) (data : NewEvent) (uuids : Nat → Uuid) (now : Int) (entries : List Entry) (tables : Tables)
      (other : data.type ≠ deliveryFailed) (extends' : Extends state.tables tables entries)
      (events : tables.events =
        state.events.put ⟨uuids 0, appId, data.type, data.agreementId, data.payload, now⟩)
      (fresh : state.events.get (uuids 0) = none) (same : next = state.commit entries tables) :
      Change state next (.createEvent appId data uuids now)
  | retried (appId deliveryId : Uuid) (jobId : String) (now : Int) (old : WebhookDelivery) (job : Jobs.AgentJob)
      (tables : Tables) (stored : state.deliveries.get deliveryId = some old)
      (waiting : old.status = .failed ∨ old.status = .retry)
      (written : Jobs.enqueueJob (deliveryJob appId deliveryId old.agreementId (.manual now) none) jobId now
        state.queue.jobs = .ok (job, tables.jobs))
      (deliveries : tables.deliveries =
        state.deliveries.put { old with status := .pending, nextRetryAt := some now, lastError := none })
      (rest : tables.endpoints = state.endpoints ∧ tables.events = state.events)
      (same : next = state.commit [⟨deliveryId, .retried, .pending, old.attempts, some job.id, some (.manual now)⟩] tables) :
      Change state next (.retryWebhookDelivery appId deliveryId jobId now)
  | started {action : Action} (run : Run) (reading : run.stage = .reading)
      (own : ∀ index, run.claim = some index → ∃ execution, state.queue.executions[index]? = some execution ∧
        execution.job.kind = .deliverWebhook ∧
        execution.job.payload.bind Jobs.AgentJobPayload.deliveryId = some run.deliveryId)
      (same : next = { state with runs := state.runs ++ [run] }) : Change state next action
  | reached {action : Action} (index : Nat) (run : Run) (stage : Stage) (member : state.runs[index]? = some run)
      (move : StageMove state index run stage) (same : next = state.reach index stage) : Change state next action
  | recorded {action : Action} (index : Nat) (run : Run) (read : WebhookDelivery) (record : Record) (caught : Bool)
      (stage : Stage) (entries created : List Entry) (tables middle : Tables) (old : WebhookDelivery)
      (job : Option String) (member : state.runs[index]? = some run)
      (recording : run.stage = .recording read record caught)
      (recorded : Recorded index read record state.tables tables entries old middle created job)
      (ends : stage = .returned ∨ ∃ error now, stage = afterError read caught error now)
      (same : next = (state.commit entries tables).reach index stage) : Change state next action

section Inversion
variable {state next : State} {action : Action}

theorem State.commit_self (state : State) : state.commit [] state.tables = state := by
  simp [State.commit, State.tables]

theorem step_change (taken : step state action = some next) : Change state next action := by
  cases action with
  | queue jobAction =>
    simp only [step] at taken
    split at taken
    · next allowed =>
      obtain ⟨queue, moved, rfl⟩ := Option.map_eq_some_iff.mp taken
      exact .queue jobAction queue (.inl ⟨rfl, allowed⟩) moved rfl
    · cases taken
  | enqueueCkbReconciliation appId agreementId transactionId uuid now =>
    obtain ⟨queue, moved, rfl⟩ := Option.map_eq_some_iff.mp taken
    exact .queue _ queue (.inr ⟨appId, agreementId, transactionId, uuid, now, rfl, rfl⟩) moved rfl
  | createEndpoint endpoint =>
    simp only [step] at taken
    split at taken
    · cases taken
    · cases taken
      exact .endpoints _ rfl rfl
  | updateEndpoint appId endpointId url subscribedEvents status =>
    simp only [step] at taken
    split at taken
    · cases taken
    · cases taken
      exact .endpoints _ rfl rfl
  | deleteEndpoint appId endpointId now =>
    simp only [step] at taken
    split at taken
    · cases taken
    · cases taken
      exact .endpoints _ rfl rfl
  | createEvent appId data uuids now =>
    simp only [step, State.transact] at taken
    split at taken
    · cases taken
    · next other =>
      split at taken
      · next entries tables created =>
        cases taken
        obtain ⟨extends', fresh, events⟩ := createEvent_extends created
        exact .event appId data uuids now entries tables other extends' events fresh rfl
      · cases taken
        exact .idle rfl
  | retryWebhookDelivery appId deliveryId jobId now =>
    simp only [step, State.transact] at taken
    split at taken
    · next entries tables ended =>
      cases taken
      rcases retryWebhookDelivery_ok ended with ⟨rfl, rfl⟩ | ⟨old, job, stored, waiting, written, deliveries, rest, events, rfl⟩
      · exact .idle (State.commit_self state)
      · exact .retried appId deliveryId jobId now old job tables stored waiting written deliveries ⟨rest, events⟩ rfl
    · cases taken
      exact .idle rfl
  | execute index =>
    simp only [step] at taken
    split at taken
    · cases taken
    · next execution member =>
      split at taken
      · next allowed =>
        split at taken
        · cases taken
        · next deliveryId payload =>
          cases taken
          refine .started ⟨some index, deliveryId, .reading⟩ rfl ?_ rfl
          rintro _ ⟨⟩
          exact ⟨execution, member, allowed.1, payload⟩
      · cases taken
  | deliver deliveryId =>
    cases taken
    exact .started ⟨none, deliveryId, .reading⟩ rfl (fun _ same => by cases same) rfl
  | read index decrypts =>
    simp only [step] at taken
    split at taken
    · next claim deliveryId member =>
      cases taken
      exact .reached index _ _ member (.read decrypts rfl) rfl
    · cases taken
  | respond index outcome now =>
    simp only [step] at taken
    split at taken
    · next claim deliveryId delivery member =>
      cases taken
      exact .reached index _ _ member (.responded delivery outcome now rfl) rfl
    · cases taken
  | record index ending jobId uuids first message now =>
    simp only [step] at taken
    split at taken
    · next claim deliveryId delivery record caught member =>
      split at taken
      · next entries tables ended =>
        cases taken
        rcases recordDeliveryResult_ok ended with ⟨rfl, rfl, changed⟩ | ⟨old, middle, created, job, recorded⟩
        · rw [State.commit_self]
          exact .reached index _ _ member (.superseded delivery record caught _ rfl changed (.inl rfl)) rfl
        · exact .recorded index _ delivery record caught _ entries created tables middle old job member rfl recorded
            (.inl rfl) rfl
      · next entries tables ended =>
        cases taken
        rcases recordDeliveryResult_ok ended with ⟨rfl, rfl, changed⟩ | ⟨old, middle, created, job, recorded⟩
        · rw [State.commit_self]
          exact .reached index _ _ member (.superseded delivery record caught _ rfl changed (.inr ⟨_, now, rfl⟩)) rfl
        · exact .recorded index _ delivery record caught _ entries created tables middle old job member rfl recorded
            (.inr ⟨_, now, rfl⟩) rfl
      · cases taken
        exact .reached index _ _ member (.failed delivery record caught _ now rfl) rfl
    · cases taken
  | interrupt index =>
    simp only [step] at taken
    split at taken
    · next claim deliveryId member =>
      cases taken
      exact .reached index _ _ member (.interrupted rfl) rfl
    · cases taken

end Inversion

/-- The step from the row of a delivery and its entries to the next. -/
inductive DeliveryStep (state next : State) (action : Action) (deliveryId : Uuid) : Prop
  | kept (row : next.deliveries.get deliveryId = state.deliveries.get deliveryId)
      (log : entriesOf next.log deliveryId = entriesOf state.log deliveryId)
  | born (entries : List Entry) (born : Born state.tables next.tables entries deliveryId)
      (log : entriesOf next.log deliveryId = entriesOf state.log deliveryId ++ entriesOf entries deliveryId)
  | retried (appId : Uuid) (jobId : String) (now : Int) (old : WebhookDelivery) (job : Jobs.AgentJob)
      (taken : action = .retryWebhookDelivery appId deliveryId jobId now)
      (stored : state.deliveries.get deliveryId = some old) (waiting : old.status = .failed ∨ old.status = .retry)
      (written : Jobs.enqueueJob (deliveryJob appId deliveryId old.agreementId (.manual now) none) jobId now
        state.queue.jobs = .ok (job, next.queue.jobs))
      (row : next.deliveries.get deliveryId =
        some { old with status := .pending, nextRetryAt := some now, lastError := none })
      (log : entriesOf next.log deliveryId = entriesOf state.log deliveryId ++
        [⟨deliveryId, .retried, .pending, old.attempts, some job.id, some (.manual now)⟩])
  | recorded (index : Nat) (run : Run) (read : WebhookDelivery) (record : Record) (caught : Bool)
      (entries created : List Entry) (middle : Tables) (old : WebhookDelivery) (job : Option String)
      (member : state.runs[index]? = some run) (recording : run.stage = .recording read record caught)
      (own : read.id = deliveryId)
      (recorded : Recorded index read record state.tables next.tables entries old middle created job)
      (row : next.deliveries.get deliveryId = some (old.withResult record.data))
      (log : entriesOf next.log deliveryId = entriesOf state.log deliveryId ++
        [⟨deliveryId, .recorded index, record.data.status, old.attempts + 1, job, record.retry.map Prod.fst⟩])

section Rows
variable {state next : State} {action : Action}

/-- The row and the entries of the delivery that a result is about. -/
theorem Recorded.own {index : Nat} {read old : WebhookDelivery} {record : Record} {before after middle : Tables}
    {entries created : List Entry} {job : Option String}
    (recorded : Recorded index read record before after entries old middle created job) :
    after.deliveries.get read.id = some (old.withResult record.data) ∧
      entriesOf entries read.id =
        [⟨read.id, .recorded index, record.data.status, old.attempts + 1, job, record.retry.map Prod.fst⟩] := by
  have keyed : old.id = read.id := Table.key_of_get recorded.stored
  have stored : (before.deliveries.put (old.withResult record.data)).get read.id = some (old.withResult record.data) := by
    rw [← keyed]
    exact Table.get_put_self (old.withResult record.data) before.deliveries
  have same := recorded.failure.extends.present (by rw [stored]; rfl)
  constructor
  · rw [recorded.rest.2.1, same, stored]
  · have nothing : entriesOf created read.id = [] := by
      rcases recorded.failure.extends.deliveries read.id with ⟨-, empty⟩ | born
      · exact empty
      · cases born.absent.symm.trans stored
    rw [recorded.log, entriesOf_append, nothing]
    simp [entriesOf]

/-- The job of a retry leaves every row that is there. -/
theorem RetryJob.keeps {read : WebhookDelivery} {record : Record} {before after : Table Jobs.AgentJob}
    {job : Option String} (retry : RetryJob read record before after job) {jobId : String} {row : Jobs.AgentJob}
    (stored : before.get jobId = some row) : after.get jobId = some row := by
  cases retry with
  | none _ same => rw [same, stored]
  | enqueued _ _ _ _ _ _ written => exact Jobs.enqueueJob_keeps written stored

/-- The row and the entries of another delivery. -/
theorem Recorded.other {index : Nat} {read old : WebhookDelivery} {record : Record} {before after middle : Tables}
    {entries created : List Entry} {job : Option String}
    (recorded : Recorded index read record before after entries old middle created job) {deliveryId : Uuid}
    (different : deliveryId ≠ read.id) :
    after.deliveries.get deliveryId = before.deliveries.get deliveryId ∧ entriesOf entries deliveryId = [] ∨
      Born before after entries deliveryId := by
  have keyed : old.id = read.id := Table.key_of_get recorded.stored
  have untouched : (before.deliveries.put (old.withResult record.data)).get deliveryId
      = before.deliveries.get deliveryId :=
    Table.get_put_of_ne (by rw [key_delivery]; exact keyed ▸ different)
  have log : entriesOf entries deliveryId = entriesOf created deliveryId := by
    rw [recorded.log, entriesOf_append]
    simpa [entriesOf] using fun same => different same.symm
  rcases recorded.failure.extends.deliveries deliveryId with ⟨same, empty⟩ | born
  · exact .inl ⟨by rw [recorded.rest.2.1, same, untouched], log.trans empty⟩
  · obtain ⟨delivery, jobId, job, stored, pending, attempts, entry, free, queued, facts⟩ := born.present
    refine .inr ⟨untouched.symm.trans born.absent, delivery, jobId, job, ?_, pending, attempts, log.trans entry, free,
      recorded.jobs.keeps queued, facts⟩
    rw [recorded.rest.2.1, stored]

@[simp] theorem commit_deliveries (entries : List Entry) (tables : Tables) :
    (state.commit entries tables).deliveries = tables.deliveries := rfl

@[simp] theorem commit_tables (entries : List Entry) (tables : Tables) :
    (state.commit entries tables).tables = tables := rfl

@[simp] theorem reach_tables (index : Nat) (stage : Stage) : (state.reach index stage).tables = state.tables := rfl

/-- What a change does to the row of one delivery and to its entries. -/
theorem Change.delivery (change : Change state next action) (deliveryId : Uuid) :
    DeliveryStep state next action deliveryId := by
  cases change with
  | idle same => subst same; exact .kept rfl rfl
  | queue _ _ _ _ same => subst same; exact .kept rfl rfl
  | endpoints _ _ same => subst same; exact .kept rfl rfl
  | started _ _ _ same => subst same; exact .kept rfl rfl
  | reached _ _ _ _ _ same => subst same; exact .kept rfl rfl
  | event appId data uuids now entries tables _ extends' _ _ same =>
    subst same
    have log : entriesOf (state.commit entries tables).log deliveryId =
        entriesOf state.log deliveryId ++ entriesOf entries deliveryId := entriesOf_append ..
    rcases extends'.deliveries deliveryId with ⟨row, empty⟩ | born
    · exact .kept row (by rw [log, empty, List.append_nil])
    · exact .born entries born log
  | retried appId retriedId jobId now old job tables stored waiting written deliveries _ same =>
    subst same
    have keyed : old.id = retriedId := Table.key_of_get stored
    by_cases own : deliveryId = retriedId
    · subst own
      refine .retried appId jobId now old job rfl stored waiting written ?_ ?_
      · rw [commit_deliveries, deliveries]
        nth_rewrite 1 [← keyed]
        exact Table.get_put_self { old with status := .pending, nextRetryAt := some now, lastError := none } _
      · exact (entriesOf_append ..).trans (by simp [entriesOf])
    · refine .kept ?_ ?_
      · rw [commit_deliveries, deliveries]
        exact Table.get_put_of_ne (by rw [key_delivery]; exact keyed ▸ own)
      · exact (entriesOf_append ..).trans (by simpa [entriesOf] using fun same => own same.symm)
  | recorded index run read record caught stage entries created tables middle old job member recording recorded _ same =>
    subst same
    have log : entriesOf ((state.commit entries tables).reach index stage).log deliveryId =
        entriesOf state.log deliveryId ++ entriesOf entries deliveryId := entriesOf_append ..
    by_cases own : deliveryId = read.id
    · subst own
      exact .recorded index run read record caught entries created middle old job member recording rfl recorded
        recorded.own.1 (by rw [log, recorded.own.2])
    · rcases recorded.other own with ⟨row, empty⟩ | born
      · exact .kept row (by rw [log, empty, List.append_nil])
      · exact .born entries born log

end Rows

end PactAgent.Webhooks
