import PactAgent.Webhooks.Results

/-! Every delivery that waits has a job at work, as long as no job is given up that the
delivery still depends on. -/

namespace PactAgent.Webhooks
open Foundation Foundation.Execution

/-- The delivery is to be attempted (again). -/
def DeliveryStatus.waits : DeliveryStatus → Bool
  | .pending | .retry => true
  | .delivered | .failed => false

/-- Every delivery in `PENDING` or `RETRY` has a job in `QUEUED`, `RUNNING` or `RETRY`. -/
def Attended (state : State) : Prop :=
  ∀ delivery ∈ state.deliveries, delivery.status.waits = true → ∃ job ∈ state.queue.jobs,
    job.kind = .deliverWebhook ∧ job.payload.bind Jobs.AgentJobPayload.deliveryId = some delivery.id.text ∧
    job.status.active = true

/-- The job was enqueued with the present status of the delivery. -/
def State.carries (state : State) (jobId : String) (deliveryId : Uuid) : Prop :=
  ∃ entry, (entriesOf state.log deliveryId).getLast? = some entry ∧ entry.job = some jobId

/-- No failing execution gives up the job that was enqueued with the present status of a
waiting delivery, and no manual retry finds an active job of its own millisecond. -/
def keepsJobs (state : State) : Action → Prop
  | .queue (.leaseCall index (.failJob ..)) =>
      ∀ execution row, state.queue.executions[index]? = some execution →
        Jobs.leased execution.job.id execution.workerId state.queue.jobs = some row →
        row.maxAttempts ≤ execution.job.attempts →
        ∀ delivery ∈ state.deliveries, delivery.status.waits = true → ¬state.carries row.id delivery.id
  | .retryWebhookDelivery _ deliveryId _ now =>
      Jobs.findActive (dedupeKey deliveryId (.manual now)) state.queue.jobs = none
  | _ => True

/-- What the run of an execution of the carrying job has read is the present row, and the
run has not returned. -/
def Stage.fresh (delivery : WebhookDelivery) : Stage → Prop
  | .requesting read | .recording read _ _ =>
      read.id = delivery.id ∧ read.appId = delivery.appId ∧ read.status = delivery.status ∧
        read.attempts = delivery.attempts
  | .reading | .threw => True
  | .returned => False

/-- A job that is still to work on the delivery as it stands. -/
structure Carries (state : State) (job : Jobs.AgentJob) (delivery : WebhookDelivery) : Prop where
  kind : job.kind = .deliverWebhook
  payload : job.payload.bind Jobs.AgentJobPayload.deliveryId = some delivery.id.text
  active : job.status.active = true
  fresh : ∀ (place : Nat) run (index : Nat) execution, state.runs[place]? = some run → run.claim = some index →
    state.queue.executions[index]? = some execution → execution.job.id = job.id → run.stage.fresh delivery

/-- A waiting delivery is carried by the job that was enqueued with its present status. -/
def Carried (state : State) (deliveryId : Uuid) (delivery : WebhookDelivery) : Prop :=
  ∃ entry jobId job, (entriesOf state.log deliveryId).getLast? = some entry ∧ entry.job = some jobId ∧
    state.queue.jobs.get jobId = some job ∧ Carries state job delivery

structure Covered (state : State) : Prop where
  linear : Linear state
  accounted : Jobs.Accounted state.queue
  /-- A worker's run is about the delivery of the job that it was given. -/
  claims : ∀ (place : Nat) run index, state.runs[place]? = some run → run.claim = some index →
    ∃ execution, state.queue.executions[index]? = some execution ∧
      execution.job.payload.bind Jobs.AgentJobPayload.deliveryId = some run.deliveryId
  carried : ∀ deliveryId delivery, state.deliveries.get deliveryId = some delivery → delivery.status.waits = true →
    Carried state deliveryId delivery

section Queue
variable {state next : State} {action : Action}

/-- The queue of a transaction: no row is lost, and the rows that are new were enqueued. -/
theorem enqueueJob_moved {params : Jobs.EnqueueParams} {uuid : String} {now : Int} {job : Jobs.AgentJob}
    {queue : Jobs.State} {jobs : Table Jobs.AgentJob}
    (enqueued : Jobs.enqueueJob params uuid now queue.jobs = .ok (job, jobs)) (jobId : String) :
    jobs.get jobId = queue.jobs.get jobId ∨ queue.jobs.get jobId = none ∧
      ∃ row, jobs.get jobId = some row ∧ ∃ params uuid now, row = Jobs.EnqueueParams.row params uuid now := by
  rcases Jobs.enqueueJob_ok enqueued with ⟨rfl, -⟩ | ⟨-, written, -⟩
  · exact .inl rfl
  · obtain ⟨absent, stored⟩ := Jobs.create_ok_iff.mp written
    rcases Jobs.store_get stored jobId with ⟨rfl, inserted⟩ | ⟨-, same⟩
    · exact .inr ⟨absent, _, inserted, _, _, _, rfl⟩
    · exact .inl same

/-- Rows that are new came in by a transaction. -/
theorem rowStep_of_added {queue : Jobs.State} {jobs : Table Jobs.AgentJob} {jobId : String}
    (added : jobs.get jobId = queue.jobs.get jobId ∨ queue.jobs.get jobId = none ∧
      ∃ row, jobs.get jobId = some row ∧ ∃ params uuid now, row = Jobs.EnqueueParams.row params uuid now) :
    ∃ jobAction, Jobs.RowStep queue { queue with jobs := jobs } jobAction jobId := by
  rcases added with same | ⟨absent, row, present, params, uuid, now, made⟩
  · exact ⟨.abandon 0, .kept same rfl rfl⟩
  · exact ⟨.enqueueInTransaction params uuid now, .created row absent present (.transaction params uuid now made) rfl rfl⟩

theorem Change.queue_moved (change : Change state next action) (jobId : String) :
    ∃ jobAction, Jobs.RowStep state.queue next.queue jobAction jobId := by
  have still : ∃ jobAction, Jobs.RowStep state.queue state.queue jobAction jobId := ⟨.abandon 0, .kept rfl rfl rfl⟩
  have extended : ∀ {before after : Tables} {entries : List Entry}, Extends before after entries →
      before.jobs = state.queue.jobs → after.jobs.get jobId = state.queue.jobs.get jobId ∨
        state.queue.jobs.get jobId = none ∧
        ∃ row, after.jobs.get jobId = some row ∧ ∃ params uuid now, row = Jobs.EnqueueParams.row params uuid now := by
    intro before after entries extends' same
    rcases extends'.jobs jobId with kept | ⟨absent, row, _, present, _, _, enqueued⟩
    · exact .inl (same ▸ kept)
    · exact .inr ⟨same ▸ absent, row, present, enqueued.made⟩
  cases change with
  | idle same => subst same; exact still
  | endpoints _ _ same => subst same; exact still
  | started _ _ _ same => subst same; exact still
  | reached _ _ _ _ _ same => subst same; exact still
  | queue jobAction queue _ taken same => subst same; exact ⟨jobAction, Jobs.step_row taken jobId⟩
  | event _ _ _ _ entries tables _ extends' _ _ same =>
    subst same
    exact rowStep_of_added (extended extends' rfl)
  | retried _ _ _ _ _ _ tables _ _ written _ _ same =>
    subst same
    exact rowStep_of_added (enqueueJob_moved written jobId)
  | recorded _ _ _ _ _ _ entries created tables middle _ _ _ _ recorded _ same =>
    subst same
    have first := extended recorded.failure.extends rfl
    cases recorded.jobs with
    | none _ same => exact rowStep_of_added (show tables.jobs.get jobId = _ ∨ _ by rw [same]; exact first)
    | enqueued _ _ _ _ _ _ written =>
      have second := @enqueueJob_moved _ _ _ _ { state.queue with jobs := middle.jobs } _ written jobId
      apply rowStep_of_added
      rcases second with kept | ⟨absent, added⟩
      · rcases first with kept' | ⟨absent, row, present, made⟩
        · exact .inl (kept.trans kept')
        · exact .inr ⟨absent, row, kept.trans present, made⟩
      · rcases first with kept' | ⟨_, row, present, -⟩
        · exact .inr ⟨kept'.symm.trans absent, added⟩
        · cases absent.symm.trans present

end Queue

section Carrying
variable {state next : State} {action : Action}

/-- A job that is not there has no executions. -/
theorem no_execution (accounted : Jobs.Accounted state.queue) {jobId : String}
    (absent : state.queue.jobs.get jobId = none) {index : Nat} {execution : Jobs.Execution}
    (member : state.queue.executions[index]? = some execution) : execution.job.id ≠ jobId := by
  intro same
  have inClaims : execution ∈ state.queue.claimsOf jobId :=
    List.mem_filter.mpr ⟨List.mem_of_getElem? member, by simpa using same⟩
  obtain ⟨row, stored, -⟩ := accounted.given jobId execution inClaims
  cases absent.symm.trans stored

theorem Carries.of_new {job : Jobs.AgentJob} {delivery : WebhookDelivery} {key : AttemptKey}
    (accounted : Jobs.Accounted state.queue) (enqueued : Enqueued job delivery.id key)
    (absent : state.queue.jobs.get job.id = none) (same : next.queue.executions = state.queue.executions) :
    Carries next job delivery where
  kind := enqueued.kind
  payload := enqueued.payload
  active := by rw [enqueued.queued]; rfl
  fresh _ _ index execution _ _ member own := by
    rw [same] at member
    exact absurd own (no_execution accounted absent member)

/-- What a run of the carrying job reads is the present row. -/
theorem readDelivery_fresh {delivery : WebhookDelivery} (stored : state.deliveries.get delivery.id = some delivery)
    (waits : delivery.status.waits = true) (decrypts : Bool) :
    (readDelivery delivery.id.text decrypts state.tables).fresh delivery := by
  unfold readDelivery
  split
  · trivial
  · next found first =>
    obtain ⟨member, named⟩ := Table.first_some first
    have same : found.id = delivery.id := by
      have texts := of_decide_eq_true named
      cases first : found.id
      cases second : delivery.id
      rw [first, second] at texts
      cases texts
      rfl
    have equal : found = delivery := Table.eq_of_key_eq member (Table.mem_of_get stored) same
    subst equal
    split
    · trivial
    · split
      · next delivered =>
        rw [delivered] at waits
        cases waits
      · split
        · exact ⟨rfl, rfl, rfl, rfl⟩
        · split
          · exact ⟨rfl, rfl, rfl, rfl⟩
          · split
            · exact ⟨rfl, rfl, rfl, rfl⟩
            · trivial

theorem afterError_fresh {delivery read : WebhookDelivery} {record : Record} {caught : Bool} {error : DeliveryError}
    {now : Int} (fresh : (Stage.recording read record caught).fresh delivery) :
    (afterError read caught error now).fresh delivery := by
  cases caught with
  | true => exact fresh
  | false => trivial

/-- A run of the carrying job goes on from the present row, and it does not return before
the delivery has moved on. -/
theorem StageMove.fresh {delivery : WebhookDelivery} {place : Nat} {run : Run} {stage : Stage}
    (move : StageMove state place run stage) (stored : state.deliveries.get delivery.id = some delivery)
    (waits : delivery.status.waits = true) (own : run.deliveryId = delivery.id.text)
    (before : run.stage.fresh delivery) : stage.fresh delivery := by
  cases move with
  | read decrypts _ =>
    rw [own]
    exact readDelivery_fresh stored waits decrypts
  | responded read outcome now requesting =>
    rw [requesting] at before
    exact before
  | superseded read record caught stage recording changed _ =>
    rw [recording] at before
    obtain ⟨sameId, sameApp, status, attempts⟩ := before
    have applied : updateWebhookDeliveryResult read record.data state.deliveries =
        some (delivery.withResult record.data) :=
      updateWebhookDeliveryResult_iff.mpr ⟨delivery, sameId ▸ stored, sameApp.symm, status.symm, attempts.symm, rfl⟩
    cases applied.symm.trans changed
  | failed read record caught error now recording =>
    rw [recording] at before
    exact afterError_fresh before
  | interrupted => trivial

/-- The run of an execution is about the delivery of its job. -/
theorem Covered.names (covered : Covered state) {jobId : String} {job : Jobs.AgentJob}
    (stored : state.queue.jobs.get jobId = some job) {place index : Nat} {run : Run} {execution : Jobs.Execution}
    (found : state.runs[place]? = some run) (claim : run.claim = some index)
    (member : state.queue.executions[index]? = some execution) (own : execution.job.id = jobId) :
    job.payload.bind Jobs.AgentJobPayload.deliveryId = some run.deliveryId := by
  obtain ⟨other, there, payload⟩ := covered.claims place run index found claim
  cases there.symm.trans member
  have inClaims : execution ∈ state.queue.claimsOf jobId :=
    List.mem_filter.mpr ⟨List.mem_of_getElem? member, by simpa using own⟩
  obtain ⟨row, sameRow, -, -, -, same⟩ := covered.accounted.given jobId execution inClaims
  cases stored.symm.trans sameRow
  rw [← same, payload]

/-- Outside the queue a job goes on carrying its delivery while the delivery stays as it is. -/
theorem Change.carries (change : Change state next action) (covered : Covered state) {jobId : String}
    {job : Jobs.AgentJob} {delivery : WebhookDelivery} (executions : next.queue.executions = state.queue.executions)
    (stored : state.deliveries.get delivery.id = some delivery) (waits : delivery.status.waits = true)
    (row : next.deliveries.get delivery.id = state.deliveries.get delivery.id)
    (present : state.queue.jobs.get jobId = some job) (carries : Carries state job delivery) :
    Carries next job delivery := by
  have keyed : job.id = jobId := Table.key_of_get present
  refine ⟨carries.kind, carries.payload, carries.active, ?_⟩
  intro place run index execution found claim member own
  rw [executions] at member
  have same : state.runs[place]? = some run → run.stage.fresh delivery := fun there =>
    carries.fresh place run index execution there claim member own
  have named : ∀ {before : Run}, state.runs[place]? = some before → before.claim = some index →
      before.deliveryId = delivery.id.text := by
    intro before there claimed
    have name := covered.names present there claimed member (own.trans keyed)
    exact Option.some.inj (name.symm.trans carries.payload)
  cases change with
  | idle equal => subst equal; exact same found
  | endpoints _ _ equal => subst equal; exact same found
  | event _ _ _ _ _ _ _ _ _ _ equal => subst equal; exact same found
  | retried _ _ _ _ _ _ _ _ _ _ _ _ equal => subst equal; exact same found
  | queue _ _ _ _ equal => subst equal; exact same found
  | started started reading _ equal =>
    subst equal
    rcases Nat.lt_or_ge place state.runs.length with inside | behind
    · rw [List.getElem?_append_left inside] at found
      exact same found
    · rw [List.getElem?_append_right behind] at found
      rw [List.mem_singleton.mp (List.mem_of_getElem? found), reading]
      trivial
  | reached moved before stage there move equal =>
    subst equal
    rw [reach_runs] at found
    obtain ⟨old, oldThere, rfl⟩ := Option.map_eq_some_iff.mp found
    by_cases here : moved = place
    · subst here
      cases there.symm.trans oldThere
      rw [if_pos rfl] at claim ⊢
      exact move.fresh stored waits (named there claim)
        (carries.fresh moved before index execution there claim member own)
    · rw [if_neg here] at claim ⊢
      exact carries.fresh place old index execution oldThere claim member own
  | recorded moved before read record caught stage entries created tables middle old _ there recording recorded _ equal =>
    subst equal
    rw [reach_runs] at found
    obtain ⟨old', oldThere, rfl⟩ := Option.map_eq_some_iff.mp found
    by_cases here : moved = place
    · subst here
      cases there.symm.trans oldThere
      rw [if_pos rfl] at claim
      have fresh := carries.fresh moved before index execution there claim member own
      rw [recording] at fresh
      -- the delivery has moved on with this result
      have after := recorded.own.1
      have before' : state.deliveries.get read.id = some old := recorded.stored
      rw [fresh.1] at after before'
      have counted := congrArg (Option.map WebhookDelivery.attempts) (row.symm.trans after)
      rw [before'] at counted
      have grown : old.attempts = old.attempts + 1 := Option.some.inj counted
      omega
    · rw [if_neg here] at claim ⊢
      exact carries.fresh place old' index execution oldThere claim member own

end Carrying

section Covering
variable {state next : State} {action : Action}

/-- A job of a waiting delivery is moved on by the queue, unless it is given up. -/
theorem queue_carries (covered : Covered state) {queue : Jobs.State} {jobAction : Jobs.Action}
    (allowed : permitted state jobAction = true ∨ ∃ params uuid now, jobAction = .enqueueInTransaction params uuid now)
    (taken : Jobs.step state.queue jobAction = some queue) {jobId : String} {job : Jobs.AgentJob}
    {delivery : WebhookDelivery} (present : state.queue.jobs.get jobId = some job) (carries : Carries state job delivery)
    (kept : ∀ index error random now execution, jobAction = .leaseCall index (.failJob error random now) →
      state.queue.executions[index]? = some execution →
      Jobs.leased execution.job.id execution.workerId state.queue.jobs = some job →
      ¬job.maxAttempts ≤ execution.job.attempts) :
    ∃ new, queue.jobs.get jobId = some new ∧ new.kind = job.kind ∧ new.payload = job.payload ∧
      new.status.active = true := by
  cases Jobs.step_row taken jobId with
  | kept row _ _ => exact ⟨job, row.trans present, rfl, rfl, carries.active⟩
  | created _ absent _ _ _ _ => cases absent.symm.trans present
  | cleared old there written _ _ =>
    cases there.symm.trans present
    exact ⟨_, written, rfl, rfl, carries.active⟩
  | claimed old _ _ _ _ _ _ _ there _ written _ _ =>
    cases there.symm.trans present
    exact ⟨_, written, rfl, rfl, rfl⟩
  | released old _ there _ written _ _ =>
    cases there.symm.trans present
    exact ⟨_, written, rfl, rfl, rfl⟩
  | called index call execution row same member own held written _ _ =>
    obtain ⟨there, running, -⟩ := Jobs.leased_iff.mp held
    cases there.symm.trans present
    subst same
    have keyed : job.id = jobId := Table.key_of_get present
    refine ⟨_, written, Jobs.data_kind _ _, Jobs.data_payload _ _, ?_⟩
    have inClaims : execution ∈ state.queue.claimsOf jobId :=
      List.mem_filter.mpr ⟨List.mem_of_getElem? member, by simpa using own⟩
    obtain ⟨row', sameRow, -, bound, kind, -⟩ := covered.accounted.given jobId execution inClaims
    cases present.symm.trans sameRow
    have webhook : execution.job.kind = .deliverWebhook := kind.trans carries.kind
    have permit : permitted state (.leaseCall index call) = true := by
      rcases allowed with permit | ⟨_, _, _, other⟩
      · exact permit
      · cases other
    simp only [permitted, member, webhook] at permit
    cases call with
    | renewJobLease leaseMs now =>
      have still : (Jobs.LeaseCall.data execution.job (.renewJobLease leaseMs now) job).status = job.status := rfl
      rw [still, running]
      rfl
    | deferJob delayMs now => cases permit
    | completeJob now =>
      rw [List.any_eq_true] at permit
      obtain ⟨run, runIn, ended⟩ := permit
      rw [Bool.and_eq_true, decide_eq_true_eq, decide_eq_true_eq] at ended
      obtain ⟨place, found⟩ := List.mem_iff_getElem?.mp runIn
      have fresh := carries.fresh place run index execution found ended.1 member (own.trans keyed.symm)
      rw [ended.2] at fresh
      exact fresh.elim
    | failJob error random now =>
      have budget := kept index error random now execution rfl member (own ▸ held)
      have alive : execution.job.shouldDeadLetter = false := by
        unfold Jobs.AgentJob.shouldDeadLetter
        rw [decide_eq_false_iff_not, bound]
        exact budget
      simp [Jobs.LeaseCall.data, alive, Jobs.JobStatus.active]

/-- A step is one of the queue, or it leaves the executions and loses no job. -/
theorem Change.queue_or (change : Change state next action) :
    (∃ jobAction queue, ((action = .queue jobAction ∧ permitted state jobAction = true) ∨
        ∃ params uuid now, jobAction = .enqueueInTransaction params uuid now) ∧
      Jobs.step state.queue jobAction = some queue ∧ next = { state with queue := queue }) ∨
    next.queue.executions = state.queue.executions ∧
      ∀ jobId job, state.queue.jobs.get jobId = some job → next.queue.jobs.get jobId = some job := by
  cases change with
  | idle equal => subst equal; exact .inr ⟨rfl, fun _ _ there => there⟩
  | endpoints _ _ equal => subst equal; exact .inr ⟨rfl, fun _ _ there => there⟩
  | started _ _ _ equal => subst equal; exact .inr ⟨rfl, fun _ _ there => there⟩
  | reached _ _ _ _ _ equal => subst equal; exact .inr ⟨rfl, fun _ _ there => there⟩
  | event _ _ _ _ _ _ _ extends' _ _ equal => subst equal; exact .inr ⟨rfl, fun _ _ there => extends'.job there⟩
  | retried _ _ _ _ _ _ _ _ _ written _ _ equal =>
    subst equal
    exact .inr ⟨rfl, fun _ _ there => Jobs.enqueueJob_keeps written there⟩
  | recorded _ _ _ _ _ _ _ _ _ middle _ _ _ _ recorded _ equal =>
    subst equal
    exact .inr ⟨rfl, fun _ _ there => recorded.jobs.keeps (recorded.failure.extends.job there)⟩
  | queue jobAction queue allowed taken equal =>
    refine .inl ⟨jobAction, queue, ?_, taken, equal⟩
    rcases allowed with own | ⟨_, _, _, _, _, -, same⟩
    · exact .inl own
    · exact .inr ⟨_, _, _, same⟩

theorem step_claims (taken : step state action = some next)
    (claims : ∀ (place : Nat) run index, state.runs[place]? = some run → run.claim = some index →
      ∃ execution, state.queue.executions[index]? = some execution ∧
        execution.job.payload.bind Jobs.AgentJobPayload.deliveryId = some run.deliveryId)
    (place : Nat) (run : Run) (index : Nat) (found : next.runs[place]? = some run) (claim : run.claim = some index) :
    ∃ execution, next.queue.executions[index]? = some execution ∧
      execution.job.payload.bind Jobs.AgentJobPayload.deliveryId = some run.deliveryId := by
  have change := step_change taken
  have grown : ∃ more, next.queue.executions = state.queue.executions ++ more := by
    rcases change.queue_or with ⟨_, _, _, moved, rfl⟩ | ⟨same, -⟩
    · exact Jobs.executions_grow moved
    · exact ⟨[], by rw [same, List.append_nil]⟩
  have later : (∃ execution, state.queue.executions[index]? = some execution ∧
        execution.job.payload.bind Jobs.AgentJobPayload.deliveryId = some run.deliveryId) →
      ∃ execution, next.queue.executions[index]? = some execution ∧
        execution.job.payload.bind Jobs.AgentJobPayload.deliveryId = some run.deliveryId := by
    rintro ⟨execution, there, payload⟩
    obtain ⟨more, grown⟩ := grown
    refine ⟨execution, ?_, payload⟩
    rw [grown, List.getElem?_append_left (List.getElem?_eq_some_iff.mp there).1]
    exact there
  apply later
  have moved : ∀ {moved : Nat} {stage : Stage},
      ((state.runs[place]?).map fun run => if moved = place then { run with stage := stage } else run) = some run →
      ∃ execution, state.queue.executions[index]? = some execution ∧
        execution.job.payload.bind Jobs.AgentJobPayload.deliveryId = some run.deliveryId := by
    intro moved stage same
    obtain ⟨old, there, rfl⟩ := Option.map_eq_some_iff.mp same
    by_cases here : moved = place
    · rw [if_pos here] at claim ⊢
      exact claims place old index there claim
    · rw [if_neg here] at claim ⊢
      exact claims place old index there claim
  cases change with
  | idle equal => subst equal; exact claims place run index found claim
  | endpoints _ _ equal => subst equal; exact claims place run index found claim
  | event _ _ _ _ _ _ _ _ _ _ equal => subst equal; exact claims place run index found claim
  | retried _ _ _ _ _ _ _ _ _ _ _ _ equal => subst equal; exact claims place run index found claim
  | queue _ _ _ _ equal => subst equal; exact claims place run index found claim
  | started started reading own equal =>
    subst equal
    rcases Nat.lt_or_ge place state.runs.length with inside | behind
    · rw [List.getElem?_append_left inside] at found
      exact claims place run index found claim
    · rw [List.getElem?_append_right behind] at found
      cases List.mem_singleton.mp (List.mem_of_getElem? found)
      obtain ⟨execution, there, -, payload⟩ := own index claim
      exact ⟨execution, there, payload⟩
  | reached _ _ stage _ _ equal =>
    subst equal
    rw [reach_runs] at found
    exact moved found
  | recorded _ _ _ _ _ stage _ _ _ _ _ _ _ _ _ _ equal =>
    subst equal
    rw [reach_runs] at found
    exact moved found

theorem tables_carried (taken : step state action = some next) (met : keepsJobs state action) (covered : Covered state)
    (same : next.queue.executions = state.queue.executions)
    (persists : ∀ jobId job, state.queue.jobs.get jobId = some job → next.queue.jobs.get jobId = some job)
    {deliveryId : Uuid} {delivery : WebhookDelivery} (stored : next.deliveries.get deliveryId = some delivery)
    (waits : delivery.status.waits = true) : Carried next deliveryId delivery := by
  have keyed : delivery.id = deliveryId := Table.key_of_get stored
  have change := step_change taken
  cases change.delivery deliveryId with
  | kept row log =>
    obtain ⟨entry, jobId, job, last, owed, present, carries⟩ :=
      covered.carried deliveryId delivery (row.symm.trans stored) waits
    subst keyed
    exact ⟨entry, jobId, job, by rw [log, last], owed, persists jobId job present,
      change.carries covered same (row.symm.trans stored) waits row present carries⟩
  | born entries born log =>
    obtain ⟨delivery', jobId, job, there, _, _, entry, absent, present, enqueued⟩ := born.present
    have sameJob : job.id = jobId := Table.key_of_get present
    exact ⟨_, jobId, job, by rw [log, entry, List.getLast?_concat], rfl, present,
      Carries.of_new covered.accounted (keyed ▸ enqueued) (sameJob ▸ absent) same⟩
  | retried appId jobId now old job action' found _ written row log =>
    subst action'
    rcases Jobs.enqueueJob_ok written with ⟨-, key, present, active⟩ | ⟨made, inserted, -⟩
    · rw [deliveryJob_key] at present
      cases present
      cases met.symm.trans active
    · obtain ⟨absent, placed⟩ := Jobs.create_ok_iff.mp inserted
      rw [← made] at absent placed
      have present : next.queue.jobs.get job.id = some job := by
        rcases Jobs.store_get placed job.id with ⟨-, there⟩ | ⟨other, -⟩
        · exact there
        · exact absurd rfl other
      have enqueued : Enqueued job delivery.id (.manual now) := by
        rw [made, keyed]
        exact deliveryJob_enqueued ..
      exact ⟨_, job.id, job, by rw [log, List.getLast?_concat], rfl, present,
        Carries.of_new covered.accounted enqueued absent same⟩
  | recorded index run read record caught entries created middle old job member recording own recorded row log =>
    have sound := covered.linear.runs index run member
    rw [recording] at sound
    cases row.symm.trans stored
    have status : record.data.status = .retry := by
      cases sound.2 with
      | retry _ status => exact status
      | failed _ status =>
        have failed : (old.withResult record.data).status = .failed := status
        rw [failed] at waits
        cases waits
      | delivered status =>
        have delivered : (old.withResult record.data).status = .delivered := status
        rw [delivered] at waits
        cases waits
    obtain ⟨key, job', _, owed, enqueued, absent, jobs⟩ := recorded.enqueues covered.linear sound.2 status
    have present : next.queue.jobs.get job'.id = some job' := by
      have inserted : next.queue.jobs = state.queue.jobs.put job' := jobs
      rw [inserted]
      exact Table.get_put_self job' state.queue.jobs
    exact ⟨_, job'.id, job', by rw [log, List.getLast?_concat], owed, present,
      Carries.of_new covered.accounted (keyed ▸ own ▸ enqueued) absent same⟩

theorem queue_carried (met : keepsJobs state action) (covered : Covered state) {jobAction : Jobs.Action}
    {queue : Jobs.State}
    (allowed : (action = .queue jobAction ∧ permitted state jobAction = true) ∨
      ∃ params uuid now, jobAction = .enqueueInTransaction params uuid now)
    (taken : Jobs.step state.queue jobAction = some queue) {deliveryId : Uuid} {delivery : WebhookDelivery}
    (stored : state.deliveries.get deliveryId = some delivery) (waits : delivery.status.waits = true) :
    Carried { state with queue := queue } deliveryId delivery := by
  obtain ⟨entry, jobId, job, last, owed, present, carries⟩ := covered.carried deliveryId delivery stored waits
  have keyed : job.id = jobId := Table.key_of_get present
  have sameId : delivery.id = deliveryId := Table.key_of_get stored
  have kept : ∀ index error random now execution, jobAction = .leaseCall index (.failJob error random now) →
      state.queue.executions[index]? = some execution →
      Jobs.leased execution.job.id execution.workerId state.queue.jobs = some job →
      ¬job.maxAttempts ≤ execution.job.attempts := by
    rintro index error random now execution rfl member held exhausted
    rcases allowed with ⟨rfl, -⟩ | ⟨_, _, _, other⟩
    · exact met execution job member held exhausted delivery (Table.mem_of_get stored) waits
        ⟨entry, sameId ▸ last, keyed ▸ owed⟩
    · cases other
  obtain ⟨new, there, kind, payload, active⟩ :=
    queue_carries covered (allowed.imp And.right id) taken present carries kept
  refine ⟨entry, jobId, new, last, owed, there, kind.trans carries.kind, by rw [payload]; exact carries.payload, active, ?_⟩
  intro place run index execution found claim member own
  obtain ⟨first, known, -⟩ := covered.claims place run index found claim
  obtain ⟨more, grown⟩ := Jobs.executions_grow taken
  have old : state.queue.executions[index]? = some execution := by
    have inside := (List.getElem?_eq_some_iff.mp known).1
    change queue.executions[index]? = some execution at member
    rwa [grown, List.getElem?_append_left inside] at member
  have newId : new.id = jobId := Table.key_of_get there
  exact carries.fresh place run index execution found claim old (own.trans (newId.trans keyed.symm))

theorem step_covered (state : State) (action : Action) (next : State) (covered : Covered state)
    (met : keepsJobs state action) (taken : step state action = some next) : Covered next where
  linear := step_linear state action next covered.linear taken
  accounted := covered.accounted.moved fun jobId => (step_change taken).queue_moved jobId
  claims := step_claims taken covered.claims
  carried deliveryId delivery stored waits := by
    rcases (step_change taken).queue_or with ⟨jobAction, queue, allowed, moved, rfl⟩ | ⟨same, persists⟩
    · exact queue_carried met covered allowed moved stored waits
    · exact tables_carried taken met covered same persists stored waits

end Covering

theorem initial_covered : Covered initial where
  linear := initial_linear
  accounted := Jobs.initial_accounted
  claims _ _ _ found := by cases found
  carried _ _ stored := by cases stored

/-- Every waiting delivery has a job at work in each state of a run, when no step of it
gives up the job that a waiting delivery depends on. -/
theorem deliveries_attended (actions : List Action) (state : State) (reached : run step initial actions = some state)
    (met : AlongRun step keepsJobs initial actions) : Attended state := by
  have covered := invariant_along step_covered actions initial state initial_covered met reached
  intro delivery member waits
  obtain ⟨_, jobId, job, _, _, present, carries⟩ :=
    covered.carried delivery.id delivery (Table.get_of_mem member) waits
  exact ⟨job, Table.mem_of_get present, carries.kind, carries.payload, carries.active⟩

/-- The job of a delivery, claimed and started. -/
def startedJob : List Action :=
  subscribed ++ [.queue (.claimAvailableJobs "worker" [.webhook] 10 60000 [] 1), .execute 0]

/-- The endpoint fails, the result is recorded and the job completed. -/
def retriedJob : List Action :=
  startedJob ++ [.read 0 true, .respond 0 (.failed .requestFailed) 2, .record 0 .committed "second" sampleIds 'e' "" 3,
    .queue (.leaseCall 0 (.completeJob 4))]

theorem retriedJob_attended : ∃ state, run step initial retriedJob = some state ∧
    state.deliveries.rows.map (fun delivery => (delivery.status, delivery.attempts)) = [(.retry, 1)] ∧
    state.queue.jobs.rows.map (fun job => (job.id, job.status)) = [("job", .completed), ("second", .queued)] ∧
    Attended state := by
  have observed : (run step initial retriedJob).map (fun state =>
      (state.deliveries.rows.map fun delivery => (delivery.status, delivery.attempts),
        state.queue.jobs.rows.map fun job => (job.id, job.status))) =
      some ([(.retry, 1)], [("job", .completed), ("second", .queued)]) := by
    decide +kernel
  obtain ⟨state, reached, seen⟩ := Option.map_eq_some_iff.mp observed
  obtain ⟨deliveries, jobs⟩ := Prod.mk.inj seen
  have free : ∀ action ∈ retriedJob, ∀ state, keepsJobs state action := by
    intro action member state
    simp only [retriedJob, startedJob, subscribed, List.mem_append, List.mem_cons, List.not_mem_nil, or_false] at member
    rcases member with ((rfl | rfl) | rfl | rfl) | rfl | rfl | rfl | rfl <;> trivial
  have met : AlongRun step keepsJobs initial retriedJob :=
    (alongRun_of_forall retriedJob initial free).mono fun state action kept => kept state
  exact ⟨state, reached, deliveries, jobs, deliveries_attended retriedJob state reached met⟩

/-- The secret of the endpoint cannot be decrypted: the run throws before its `try` block
and the execution fails. -/
def undecryptedJob : List Action :=
  startedJob ++ [.read 0 false, .queue (.leaseCall 0 (.failJob "webhook encryption key old" 0 2))]

theorem undecrypted_lost : ¬∀ (actions : List Action) (state : State), run step initial actions = some state →
    Attended state := by
  have observed : (run step initial undecryptedJob).map (fun state =>
      (state.deliveries.rows.map WebhookDelivery.status, state.queue.jobs.rows.map Jobs.AgentJob.status)) =
      some ([.pending], [.deadLetter]) := by
    decide +kernel
  intro attended
  obtain ⟨state, reached, seen⟩ := Option.map_eq_some_iff.mp observed
  obtain ⟨deliveries, jobs⟩ := Prod.mk.inj seen
  rw [List.map_eq_cons_iff] at deliveries
  obtain ⟨delivery, rest, rows, pending, -⟩ := deliveries
  obtain ⟨job, member, _, _, active⟩ := attended undecryptedJob state reached delivery
    (by rw [Table.mem_def, rows]; exact List.mem_cons_self) (by rw [pending]; rfl)
  have dead : job.status ∈ [Jobs.JobStatus.deadLetter] := jobs ▸ List.mem_map_of_mem member
  rw [List.mem_singleton.mp dead] at active
  cases active

end PactAgent.Webhooks
