import PactAgent.Jobs.Leases
import PactAgent.Webhooks.Steps

/-! Results of deliveries linearize: whatever runs overlap, each result that is recorded
counts one attempt and has its effects once. -/

namespace PactAgent.Webhooks
open Foundation Foundation.Execution

section Keys

/-- The first of two texts that are joined by a colon is read off up to the colon. -/
theorem split_colon {first second rest other : List Char} (one : ':' ∉ first) (two : ':' ∉ second)
    (same : first ++ ':' :: rest = second ++ ':' :: other) : first = second ∧ rest = other := by
  induction first generalizing second with
  | nil =>
    cases second with
    | nil => exact ⟨rfl, (List.cons.inj same).2⟩
    | cons head tail =>
      have equal := (List.cons.inj same).1
      exact absurd (equal ▸ List.mem_cons_self) two
  | cons head tail ih =>
    cases second with
    | nil =>
      have equal := (List.cons.inj same).1
      exact absurd (equal ▸ List.mem_cons_self) one
    | cons head' tail' =>
      obtain ⟨rfl, tails⟩ := List.cons.inj same
      obtain ⟨rfl, equal⟩ := ih (fun member => one (List.mem_cons_of_mem _ member))
        (fun member => two (List.mem_cons_of_mem _ member)) tails
      exact ⟨rfl, equal⟩

theorem attemptKey_text {first second : AttemptKey} {number : Nat} (attempt : first = .attempt number)
    (same : first.text = second.text) : second = .attempt number := by
  subst attempt
  cases second with
  | attempt other => rw [Nat.repr_injective same]
  | manual now =>
    have spelled : Nat.toDigits 10 number = ("manual:" ++ Int.repr now).toList := by
      rw [← Nat.toList_repr]
      exact congrArg String.toList same
    have inside : 'm' ∈ Nat.toDigits 10 number := by
      rw [spelled, String.toList_append]
      exact List.mem_append_left _ (by decide)
    exact absurd (Nat.isDigit_of_mem_toDigits (by omega) (by omega) inside) (by decide)

/-- A key of an automatic attempt is made for one delivery and one attempt only. -/
theorem dedupeKey_attempt {first second : Uuid} {number : Nat} {key : AttemptKey}
    (same : dedupeKey first (.attempt number) = dedupeKey second key) : first = second ∧ key = .attempt number := by
  unfold dedupeKey at same
  have tail := (String.append_right_inj _).mp same
  have letters := congrArg String.toList tail
  simp only [String.toList_append] at letters
  obtain ⟨ids, texts⟩ := split_colon first.plain second.plain letters
  refine ⟨?_, attemptKey_text rfl (String.toList_inj.mp texts)⟩
  cases first
  cases second
  cases String.toList_inj.mp ids
  rfl

theorem dedupeKey_ne_reconciliation (deliveryId transactionId : Uuid) (key : AttemptKey) :
    dedupeKey deliveryId key ≠ "CKB_RECONCILE_TRANSACTION:" ++ transactionId.text := by
  intro same
  have letters := congrArg String.toList same
  unfold dedupeKey at letters
  simp only [String.toList_append] at letters
  have heads : some 'I' = some 'C' := congrArg List.head? letters
  exact absurd heads (by decide)

end Keys

/-- The queue takes the key of a delivery's job for present. -/
theorem deliveryJob_key (appId deliveryId : Uuid) (agreementId : Option String) (key : AttemptKey)
    (availableAt : Option Int) :
    (deliveryJob appId deliveryId agreementId key availableAt).key = some (dedupeKey deliveryId key) := by
  have nonempty : dedupeKey deliveryId key ≠ "" := by
    intro empty
    have letters := congrArg String.toList empty
    unfold dedupeKey at letters
    rw [String.toList_append] at letters
    cases letters
  simp only [Jobs.EnqueueParams.key, deliveryJob, if_neg nonempty]

/-- A record as the blocks of `deliverWebhookDelivery` make it from what they have read. -/
inductive WellMade (read : WebhookDelivery) (record : Record) : Prop
  | retry (availableAt : Int) (status : record.data.status = .retry) (silent : record.finalFailureReason = none)
      (job : record.retry = some (.attempt (read.attempts + 1), availableAt))
  | failed (reason : String) (status : record.data.status = .failed) (final : record.finalFailureReason = some reason)
      (nonempty : reason ≠ "") (job : record.retry = none)
  | delivered (status : record.data.status = .delivered) (silent : record.finalFailureReason = none)
      (job : record.retry = none)

/-- What a run has read is not delivered, and still tells what never changes of the row. -/
structure Reading (deliveries : Table WebhookDelivery) (read : WebhookDelivery) : Prop where
  undelivered : read.status ≠ .delivered
  row : ∃ delivery, deliveries.get read.id = some delivery ∧ delivery.eventType = read.eventType ∧
    delivery.endpointId = read.endpointId ∧ delivery.eventId = read.eventId

/-- What holds of a run. -/
def Stage.sound (deliveries : Table WebhookDelivery) : Stage → Prop
  | .requesting read => Reading deliveries read
  | .recording read record _ => Reading deliveries read ∧ WellMade read record
  | _ => True

section Records
variable {read : WebhookDelivery} {deliveries : Table WebhookDelivery} {now : Int}

theorem DeliveryError.message_ne (error : DeliveryError) : error.message ≠ "" := by
  have nonempty : ∀ first rest : String, first ≠ "" → first ++ rest ≠ "" := by
    intro first rest present same
    have letters := congrArg String.toList same
    rw [String.toList_append, String.toList_empty, List.append_eq_nil_iff] at letters
    exact present (String.toList_inj.mp letters.1)
  cases error with
  | circuitOpen => decide
  | requestFailed => decide
  | providerStatus status => exact nonempty _ _ (by decide)
  | answered status => exact nonempty _ _ (by decide)
  | database first rest =>
    refine nonempty _ _ ?_
    intro same
    have letters := congrArg String.toList same
    rw [String.toList_singleton] at letters
    cases letters

theorem unavailable_wellMade {reason : String} (nonempty : reason ≠ "") : WellMade read (unavailable reason) :=
  .failed reason rfl rfl nonempty rfl

theorem rejected_wellMade (error : DeliveryError) : WellMade read (rejected read error now) := by
  unfold rejected
  dsimp only
  split
  · next delay _ => exact .retry (now + delay) rfl rfl rfl
  · exact .failed error.message rfl rfl error.message_ne rfl

theorem outcome_wellMade (outcome : Outcome) : WellMade read (outcome.record read now).1 := by
  cases outcome with
  | response status snippet =>
    by_cases ok : 200 ≤ status ∧ status ≤ 299
    · rw [Outcome.record, if_pos ok]
      exact .delivered rfl rfl rfl
    · rw [Outcome.record, if_neg ok]
      exact rejected_wellMade (.answered status)
  | failed error => exact rejected_wellMade error

theorem afterError_sound {caught : Bool} {error : DeliveryError} (reading : Reading deliveries read) :
    (afterError read caught error now).sound deliveries := by
  cases caught with
  | true => exact ⟨reading, rejected_wellMade error⟩
  | false => trivial

theorem readDelivery_sound (deliveryId : String) (decrypts : Bool) (tables : Tables) :
    (readDelivery deliveryId decrypts tables).sound tables.deliveries := by
  unfold readDelivery
  split
  · trivial
  · next delivery found =>
    split
    · trivial
    · split
      · trivial
      · next undelivered =>
        have reading : Reading tables.deliveries delivery :=
          ⟨undelivered, delivery, Table.get_of_mem (Table.first_some found).1, rfl, rfl, rfl⟩
        split
        · exact ⟨reading, unavailable_wellMade (by decide)⟩
        · split
          · exact ⟨reading, unavailable_wellMade (by decide)⟩
          · split
            · exact reading
            · trivial

end Records

/-- What holds in every reachable state. -/
structure Linear (state : State) : Prop where
  runs : ∀ (index : Nat) run, state.runs[index]? = some run → run.stage.sound state.deliveries
  counted : ∀ deliveryId, (state.resultsOf deliveryId).map Entry.attempts =
    List.range' 1 (((state.deliveries.get deliveryId).map WebhookDelivery.attempts).getD 0)
  absent : ∀ deliveryId, state.deliveries.get deliveryId = none → entriesOf state.log deliveryId = []
  keys : ∀ deliveryId, ∀ entry ∈ state.resultsOf deliveryId,
    entry.key = if entry.status = .retry then some (.attempt entry.attempts) else none
  jobKeys : ∀ jobId job, state.queue.jobs.get jobId = some job → ∀ deliveryId number,
    job.dedupeKey = some (dedupeKey deliveryId (.attempt number)) →
    ∃ delivery, state.deliveries.get deliveryId = some delivery ∧ number ≤ delivery.attempts

section Steps
variable {state next : State} {action : Action}

theorem resultsOf_eq (state : State) (deliveryId : Uuid) :
    state.resultsOf deliveryId = (entriesOf state.log deliveryId).filter Entry.isResult := rfl

/-- A delivery stays, with the same event and no fewer attempts. -/
theorem DeliveryStep.grows {deliveryId : Uuid} (moved : DeliveryStep state next action deliveryId)
    {delivery : WebhookDelivery} (stored : state.deliveries.get deliveryId = some delivery) :
    ∃ new, next.deliveries.get deliveryId = some new ∧ delivery.attempts ≤ new.attempts ∧
      new.eventType = delivery.eventType ∧ new.endpointId = delivery.endpointId ∧ new.eventId = delivery.eventId := by
  cases moved with
  | kept row _ => exact ⟨delivery, row.trans stored, Nat.le_refl _, rfl, rfl, rfl⟩
  | born _ born _ => cases born.absent.symm.trans stored
  | retried _ _ _ old _ _ found _ _ row _ =>
    cases found.symm.trans stored
    exact ⟨_, row, Nat.le_refl _, rfl, rfl, rfl⟩
  | recorded _ _ read record _ _ _ _ old _ _ _ own recorded row _ =>
    cases (own ▸ recorded.stored).symm.trans stored
    exact ⟨_, row, Nat.le_succ _, rfl, rfl, rfl⟩

theorem Reading.later {read : WebhookDelivery} (reading : Reading state.deliveries read)
    (moved : DeliveryStep state next action read.id) : Reading next.deliveries read := by
  obtain ⟨delivery, stored, type, endpoint, event⟩ := reading.row
  obtain ⟨new, found, -, type', endpoint', event'⟩ := moved.grows stored
  exact ⟨reading.undelivered, new, found, type'.trans type, endpoint'.trans endpoint, event'.trans event⟩

theorem Stage.sound.later {stage : Stage} (sound : stage.sound state.deliveries)
    (moved : ∀ deliveryId, DeliveryStep state next action deliveryId) : stage.sound next.deliveries := by
  cases stage with
  | requesting read => exact Reading.later sound (moved read.id)
  | recording read record caught => exact ⟨sound.1.later (moved read.id), sound.2⟩
  | _ => trivial

theorem reach_runs (state : State) (index other : Nat) (stage : Stage) :
    (state.reach index stage).runs[other]? =
      (state.runs[other]?).map fun run => if index = other then { run with stage := stage } else run := by
  unfold State.reach
  rw [List.getElem?_modify]
  rfl

theorem StageMove.sound {index : Nat} {run : Run} {stage : Stage} (move : StageMove state index run stage)
    (before : run.stage.sound state.deliveries) : stage.sound state.deliveries := by
  cases move with
  | read decrypts reading => exact readDelivery_sound _ _ state.tables
  | responded delivery outcome now requesting =>
    rw [requesting] at before
    exact ⟨before, outcome_wellMade outcome⟩
  | superseded delivery record caught stage recording _ ends =>
    rw [recording] at before
    rcases ends with rfl | ⟨error, now, rfl⟩
    · trivial
    · exact afterError_sound before.1
  | failed delivery record caught error now recording =>
    rw [recording] at before
    exact afterError_sound before.1
  | interrupted => trivial

/-- Runs keep telling what they have read. -/
theorem step_runs (taken : step state action = some next)
    (runs : ∀ (index : Nat) run, state.runs[index]? = some run → run.stage.sound state.deliveries)
    (index : Nat) (run : Run) (member : next.runs[index]? = some run) : run.stage.sound next.deliveries := by
  have change := step_change taken
  have moved : ∀ deliveryId, DeliveryStep state next action deliveryId := fun deliveryId => change.delivery deliveryId
  have others : state.runs[index]? = some run → run.stage.sound next.deliveries :=
    fun found => (runs index run found).later moved
  have reached : ∀ {place : Nat} {before : Run} {stage : Stage}, state.runs[place]? = some before →
      stage.sound next.deliveries →
      ((state.runs[index]?).map fun run => if place = index then { run with stage := stage } else run) = some run →
      run.stage.sound next.deliveries := by
    intro place before stage found sound same
    obtain ⟨old, there, rfl⟩ := Option.map_eq_some_iff.mp same
    by_cases here : place = index
    · rw [if_pos here]
      exact sound
    · rw [if_neg here]
      exact (runs index old there).later moved
  cases change with
  | idle same => subst same; exact others member
  | queue _ _ _ _ same => subst same; exact others member
  | endpoints _ _ same => subst same; exact others member
  | event _ _ _ _ _ _ _ _ _ _ same => subst same; exact others member
  | retried _ _ _ _ _ _ _ _ _ _ _ _ same => subst same; exact others member
  | started started reading _ same =>
    subst same
    rcases Nat.lt_or_ge index state.runs.length with inside | behind
    · rw [List.getElem?_append_left inside] at member
      exact others member
    · rw [List.getElem?_append_right behind] at member
      have same := List.mem_singleton.mp (List.mem_of_getElem? member)
      rw [same, reading]
      trivial
  | reached place before stage found move same =>
    have sound := (move.sound (runs place before found)).later moved
    subst same
    rw [reach_runs] at member
    exact reached found sound member
  | recorded place before read record caught stage entries created tables middle old job found recording _ ends same =>
    have sound := runs place before found
    rw [recording] at sound
    have after : stage.sound next.deliveries := by
      rcases ends with rfl | ⟨error, now, rfl⟩
      · trivial
      · exact afterError_sound (sound.1.later (moved read.id))
    subst same
    rw [reach_runs] at member
    exact reached found after member

theorem step_counted (taken : step state action = some next) (linear : Linear state) (deliveryId : Uuid) :
    (next.resultsOf deliveryId).map Entry.attempts =
      List.range' 1 (((next.deliveries.get deliveryId).map WebhookDelivery.attempts).getD 0) := by
  have before := linear.counted deliveryId
  rw [resultsOf_eq] at before ⊢
  cases (step_change taken).delivery deliveryId with
  | kept row log => rw [row, log, before]
  | born entries born log =>
    obtain ⟨delivery, jobId, job, stored, _, attempts, entry, -⟩ := born.present
    change next.deliveries.get deliveryId = _ at stored
    rw [log, entry, linear.absent deliveryId born.absent, stored, Option.map_some, attempts]
    rfl
  | retried _ _ _ old _ _ stored _ _ row log =>
    rw [stored] at before
    rw [log, row, List.filter_append, List.map_append, before]
    exact List.append_nil _
  | recorded index _ read record _ _ _ _ old _ _ _ own recorded row log =>
    have stored : state.deliveries.get read.id = some old := recorded.stored
    rw [← own, stored] at before
    rw [log, row, List.filter_append, List.map_append, ← own, before, Option.map_some, Option.map_some,
      Option.getD_some, Option.getD_some]
    rw [show (old.withResult record.data).attempts = old.attempts + 1 from rfl, List.range'_1_concat, Nat.add_comm 1]
    rfl

theorem step_absent (taken : step state action = some next) (linear : Linear state) (deliveryId : Uuid)
    (missing : next.deliveries.get deliveryId = none) : entriesOf next.log deliveryId = [] := by
  cases (step_change taken).delivery deliveryId with
  | kept row log => rw [log, linear.absent deliveryId (row.symm.trans missing)]
  | born _ born _ =>
    obtain ⟨_, _, _, stored, -⟩ := born.present
    cases stored.symm.trans missing
  | retried _ _ _ _ _ _ _ _ _ row _ => cases row.symm.trans missing
  | recorded _ _ _ _ _ _ _ _ _ _ _ _ _ _ row _ => cases row.symm.trans missing

theorem step_keys (taken : step state action = some next) (linear : Linear state) (deliveryId : Uuid)
    (entry : Entry) (member : entry ∈ next.resultsOf deliveryId) :
    entry.key = if entry.status = .retry then some (.attempt entry.attempts) else none := by
  have before := linear.keys deliveryId entry
  rw [resultsOf_eq] at before member
  cases (step_change taken).delivery deliveryId with
  | kept _ log => exact before (log ▸ member)
  | born entries born log =>
    obtain ⟨_, _, _, _, _, _, single, -⟩ := born.present
    rw [log, single, List.filter_append] at member
    exact before (by simpa [Entry.isResult] using member)
  | retried _ _ _ _ _ _ _ _ _ _ log =>
    rw [log, List.filter_append] at member
    exact before (by simpa [Entry.isResult] using member)
  | recorded index run read record caught _ _ _ old job found recording own recorded _ log =>
    rw [log, List.filter_append, List.mem_append] at member
    rcases member with earlier | last
    · exact before earlier
    · have same := List.mem_singleton.mp (List.mem_filter.mp last).1
      have sound := linear.runs index run found
      rw [recording] at sound
      rw [same]
      cases sound.2 with
      | retry _ status _ retry => simp [status, retry, recorded.attempts]
      | failed _ status _ _ retry => simp [status, retry]
      | delivered status _ retry => simp [status, retry]

/-- The key of a job that the queue has moved is the key it had, or none. -/
theorem queue_key {queue : Jobs.State} {jobAction : Jobs.Action}
    (allowed : (action = .queue jobAction ∧ permitted state jobAction = true) ∨
      ∃ appId agreementId transactionId uuid now,
        action = .enqueueCkbReconciliation appId agreementId transactionId uuid now ∧
        jobAction = .enqueueInTransaction (reconciliationJob appId agreementId transactionId) uuid now)
    (taken : Jobs.step state.queue jobAction = some queue) {jobId : String} {job : Jobs.AgentJob}
    (stored : queue.jobs.get jobId = some job) {deliveryId : Uuid} {key : AttemptKey}
    (keyed : job.dedupeKey = some (dedupeKey deliveryId key)) :
    ∃ old, state.queue.jobs.get jobId = some old ∧ old.dedupeKey = some (dedupeKey deliveryId key) := by
  cases Jobs.step_row taken jobId with
  | kept row _ _ => exact ⟨job, row.symm.trans stored, keyed⟩
  | created row absent present origin _ _ =>
    cases present.symm.trans stored
    cases origin with
    | transaction params uuid now made =>
      rcases allowed with ⟨-, permitted⟩ | ⟨appId, agreementId, transactionId, _, _, -, same⟩
      · cases permitted
      · cases same
        rw [made] at keyed
        exact absurd (Option.some.inj keyed).symm (dedupeKey_ne_reconciliation deliveryId transactionId key)
    | enqueued index uuid now params stage found made =>
      rcases allowed with ⟨-, permitted⟩ | ⟨_, _, _, _, _, -, same⟩
      · simp [Webhooks.permitted, found] at permitted
      · cases same
    | replayed index uuid now old found made =>
      rw [made] at keyed
      cases keyed
  | cleared old there written _ _ =>
    cases written.symm.trans stored
    cases keyed
  | claimed old _ _ _ _ _ _ _ there _ written _ _ =>
    cases written.symm.trans stored
    exact ⟨old, there, keyed⟩
  | called _ call execution old _ _ _ held written _ _ =>
    cases written.symm.trans stored
    refine ⟨old, (Jobs.leased_iff.mp held).1, ?_⟩
    rw [← keyed]
    exact (Jobs.data_key (by rw [keyed]; exact nofun)).symm
  | released old now there _ written _ _ =>
    cases written.symm.trans stored
    exact ⟨old, there, keyed⟩

/-- A job under the key of an attempt, after an enqueue in a transaction. -/
theorem enqueued_key {params : Jobs.EnqueueParams} {uuid : String} {now : Int} {job row : Jobs.AgentJob}
    {before after : Table Jobs.AgentJob} (enqueued : Jobs.enqueueJob params uuid now before = .ok (job, after))
    {jobId : String} (stored : after.get jobId = some row) :
    before.get jobId = some row ∨ row.dedupeKey = params.dedupeKey := by
  rcases Jobs.enqueueJob_ok enqueued with ⟨rfl, -⟩ | ⟨-, written, -⟩
  · exact .inl stored
  · rcases Jobs.store_get (Jobs.create_ok_iff.mp written).2 jobId with ⟨-, inserted⟩ | ⟨-, same⟩
    · cases inserted.symm.trans stored
      exact .inr rfl
    · exact .inl (same.symm.trans stored)

/-- A job that new deliveries have brought has the key of their first attempt. -/
theorem Extends.key {before after : Tables} {entries : List Entry} (extends' : Extends before after entries)
    {jobId : String} {job : Jobs.AgentJob} (stored : after.jobs.get jobId = some job) {deliveryId : Uuid} {number : Nat}
    (keyed : job.dedupeKey = some (dedupeKey deliveryId (.attempt number))) :
    before.jobs.get jobId = some job ∨ number = 0 ∧ (after.deliveries.get deliveryId).isSome = true := by
  rcases extends'.jobs jobId with same | ⟨-, added, addedId, present, -, there, enqueued⟩
  · exact .inl (same.symm.trans stored)
  · cases present.symm.trans stored
    obtain ⟨rfl, first⟩ := dedupeKey_attempt (Option.some.inj (keyed.symm.trans enqueued.key))
    cases first
    exact .inr ⟨rfl, there⟩

theorem step_jobKeys (taken : step state action = some next) (linear : Linear state) (jobId : String)
    (job : Jobs.AgentJob) (stored : next.queue.jobs.get jobId = some job) (deliveryId : Uuid) (number : Nat)
    (keyed : job.dedupeKey = some (dedupeKey deliveryId (.attempt number))) :
    ∃ delivery, next.deliveries.get deliveryId = some delivery ∧ number ≤ delivery.attempts := by
  have change := step_change taken
  have moved := change.delivery deliveryId
  have earlier : ∀ old, state.queue.jobs.get jobId = some old →
      old.dedupeKey = some (dedupeKey deliveryId (.attempt number)) →
      ∃ delivery, next.deliveries.get deliveryId = some delivery ∧ number ≤ delivery.attempts := by
    intro old there same
    obtain ⟨delivery, found, bound⟩ := linear.jobKeys jobId old there deliveryId number same
    obtain ⟨new, after, grown, -⟩ := moved.grows found
    exact ⟨new, after, bound.trans grown⟩
  have present : ∀ {tables : Tables}, tables.deliveries = next.deliveries →
      (number = 0 ∧ (tables.deliveries.get deliveryId).isSome = true) →
      ∃ delivery, next.deliveries.get deliveryId = some delivery ∧ number ≤ delivery.attempts := by
    rintro tables same ⟨rfl, there⟩
    rw [same] at there
    obtain ⟨delivery, found⟩ := Option.isSome_iff_exists.mp there
    exact ⟨delivery, found, Nat.zero_le _⟩
  cases change with
  | idle same => subst same; exact earlier job stored keyed
  | endpoints _ _ same => subst same; exact earlier job stored keyed
  | started _ _ _ same => subst same; exact earlier job stored keyed
  | reached _ _ _ _ _ same => subst same; exact earlier job stored keyed
  | queue jobAction queue allowed moves same =>
    subst same
    obtain ⟨old, there, sameKey⟩ := queue_key allowed moves stored keyed
    exact earlier old there sameKey
  | event _ _ _ _ _ tables _ extends' _ _ same =>
    subst same
    rcases extends'.key stored keyed with there | born
    · exact earlier job there keyed
    · exact present rfl born
  | retried appId retriedId _ now old retriedJob tables _ _ written _ _ same =>
    subst same
    rcases enqueued_key written stored with there | fresh
    · exact earlier job there keyed
    · have equal := Option.some.inj (keyed.symm.trans fresh)
      cases (dedupeKey_attempt equal).2
  | recorded index run read record caught stage entries created tables middle old retryJob found recording recorded _ same =>
    have sound := linear.runs index run found
    rw [recording] at sound
    have own := recorded.own.1
    subst same
    have fromMiddle : middle.jobs.get jobId = some job →
        ∃ delivery, tables.deliveries.get deliveryId = some delivery ∧ number ≤ delivery.attempts := by
      intro there
      rcases recorded.failure.extends.key there keyed with before | born
      · exact earlier job before keyed
      · exact present recorded.rest.2.1.symm born
    cases recorded.jobs with
    | none _ same => exact fromMiddle (same ▸ stored)
    | enqueued key availableAt added _ _ retry written =>
      rcases enqueued_key written stored with there | fresh
      · exact fromMiddle there
      · obtain ⟨rfl, rfl⟩ := dedupeKey_attempt (Option.some.inj (keyed.symm.trans fresh))
        refine ⟨_, own, ?_⟩
        cases sound.2 with
        | retry _ _ _ made =>
          cases retry.symm.trans made
          exact Nat.le_of_eq (congrArg (· + 1) recorded.attempts.symm)
        | failed _ _ _ _ made => cases retry.symm.trans made
        | delivered _ _ made => cases retry.symm.trans made

end Steps

theorem initial_linear : Linear initial where
  runs index run member := by cases member
  counted _ := rfl
  absent _ _ := rfl
  keys _ entry member := absurd member List.not_mem_nil
  jobKeys jobId job stored := by cases stored

theorem step_linear (state : State) (action : Action) (next : State) (linear : Linear state)
    (taken : step state action = some next) : Linear next where
  runs := step_runs taken linear.runs
  counted := step_counted taken linear
  absent := step_absent taken linear
  keys := step_keys taken linear
  jobKeys := step_jobKeys taken linear

theorem run_linear {state : State} {actions : List Action} (reached : run step initial actions = some state) :
    Linear state :=
  invariant_run step_linear actions initial state initial_linear reached

section Results
variable {state next : State} {action : Action}

/-- The step that has recorded a result. -/
theorem recorded_of_entry {entries : List Entry} {entry : Entry} {place : Nat} (linear : Linear state)
    (taken : step state action = some next) (log : next.log = state.log ++ entries) (member : entry ∈ entries)
    (cause : entry.cause = .recorded place) :
    ∃ index read record old middle created job, Reading state.deliveries read ∧ WellMade read record ∧
      Recorded index read record state.tables next.tables entries old middle created job ∧
      entry = ⟨read.id, .recorded index, record.data.status, old.attempts + 1, job, record.retry.map Prod.fst⟩ := by
  have nothing : next.log = state.log → False := by
    intro same
    rw [same] at log
    rw [List.self_eq_append_right.mp log] at member
    exact absurd member List.not_mem_nil
  cases step_change taken with
  | idle same => subst same; exact absurd rfl nothing
  | queue _ _ _ _ same => subst same; exact absurd rfl nothing
  | endpoints _ _ same => subst same; exact absurd rfl nothing
  | started _ _ _ same => subst same; exact absurd rfl nothing
  | reached _ _ _ _ _ same => subst same; exact absurd rfl nothing
  | event _ _ _ _ created tables _ extends' _ _ same =>
    subst same
    cases List.append_cancel_left log
    cases cause.symm.trans (extends'.created entry member)
  | retried _ _ _ _ _ _ _ _ _ _ _ _ same =>
    subst same
    cases List.append_cancel_left log
    rw [List.mem_singleton.mp member] at cause
    cases cause
  | recorded index run read record caught stage _ created tables middle old job found recording recorded _ same =>
    subst same
    cases List.append_cancel_left log
    have sound := linear.runs index run found
    rw [recording] at sound
    refine ⟨index, read, record, old, middle, created, job, sound.1, sound.2, recorded, ?_⟩
    rw [recorded.log, List.mem_append] at member
    rcases member with born | last
    · cases cause.symm.trans (recorded.failure.extends.created entry born)
    · exact List.mem_singleton.mp last

/-- A delivered delivery stays delivered. -/
theorem step_delivered (linear : Linear state) (taken : step state action = some next) {delivery : WebhookDelivery}
    (stored : state.deliveries.get delivery.id = some delivery) (delivered : delivery.status = .delivered) :
    ∃ new, next.deliveries.get delivery.id = some new ∧ new.id = delivery.id ∧ new.status = .delivered := by
  cases (step_change taken).delivery delivery.id with
  | kept row _ => exact ⟨delivery, row.trans stored, rfl, delivered⟩
  | born _ born _ => cases born.absent.symm.trans stored
  | retried _ _ _ old _ _ found waiting _ _ _ =>
    cases found.symm.trans stored
    rw [delivered] at waiting
    rcases waiting with status | status <;> cases status
  | recorded index run read record caught _ _ _ old _ member recording own recorded _ _ =>
    have found : state.deliveries.get read.id = some old := recorded.stored
    rw [own, stored] at found
    cases found
    have sound := linear.runs index run member
    rw [recording] at sound
    exact absurd (recorded.status.symm.trans delivered) sound.1.undelivered

theorem run_delivered {final : State} {actions : List Action} (linear : Linear state)
    (reached : run step state actions = some final) {delivery : WebhookDelivery}
    (stored : state.deliveries.get delivery.id = some delivery) (delivered : delivery.status = .delivered) :
    ∃ new ∈ final.deliveries, new.id = delivery.id ∧ new.status = .delivered := by
  induction actions generalizing state delivery with
  | nil =>
    cases reached
    exact ⟨delivery, Table.mem_of_get stored, rfl, delivered⟩
  | cons action actions ih =>
    obtain ⟨next, taken, onwards⟩ := run_cons reached
    obtain ⟨new, found, sameId, status⟩ := step_delivered linear taken stored delivered
    obtain ⟨last, member, id, ended⟩ := ih (step_linear state action next linear taken) onwards (sameId ▸ found) status
    exact ⟨last, member, id.trans sameId, ended⟩

end Results

/-- The guarantees on the results of deliveries, in one state and for the steps from it. -/
structure Linearizes (state : State) : Prop where
  delivered : ∀ delivery ∈ state.deliveries, delivery.status = .delivered → ∀ actions final,
    run step state actions = some final → ∃ new ∈ final.deliveries, new.id = delivery.id ∧ new.status = .delivered
  attempts : ∀ delivery ∈ state.deliveries, delivery.attempts = (state.resultsOf delivery.id).length
  /-- A result that is to be retried has enqueued one job. -/
  enqueues : ∀ action next entries, step state action = some next → next.log = state.log ++ entries →
    ∀ entry ∈ entries, ∀ place, entry.cause = .recorded place → entry.status = .retry →
    ∃ key job, entry.key = some key ∧ job.dedupeKey = some (dedupeKey entry.deliveryId key) ∧
      job.kind = .deliverWebhook ∧ state.queue.jobs.get job.id = none ∧ next.queue.jobs = state.queue.jobs.put job
  /-- The keys of these jobs differ. -/
  keys : ∀ deliveryId, ((state.resultsOf deliveryId).filterMap fun entry => entry.key.map (dedupeKey deliveryId)).Nodup
  /-- A final failure has published one event. -/
  publishes : ∀ action next entries, step state action = some next → next.log = state.log ++ entries →
    ∀ entry ∈ entries, ∀ place, entry.cause = .recorded place → entry.status = .failed →
    ∀ delivery, state.deliveries.get entry.deliveryId = some delivery → delivery.eventType ≠ deliveryFailed →
    ∃ event reason, state.events.get event.id = none ∧ event.type = deliveryFailed ∧
      event.payload = .deliveryFailed delivery.id delivery.endpointId delivery.eventId reason ∧
      next.events = state.events.put event
  unrecorded : ∀ action next, action.ofRun = true → step state action = some next → next.log = state.log →
    next.tables = state.tables

section Linearizes
variable {state : State}

/-- A result that is to be retried enqueues a job that was not there: one under its key
would count an attempt that the delivery has not made. -/
theorem Recorded.enqueues {index : Nat} {read old : WebhookDelivery} {record : Record} {tables middle : Tables}
    {entries created : List Entry} {job : Option String} (linear : Linear state) (made : WellMade read record)
    (recorded : Recorded index read record state.tables tables entries old middle created job)
    (status : record.data.status = .retry) :
    ∃ key row, record.retry.map Prod.fst = some key ∧ job = some row.id ∧ Enqueued row read.id key ∧
      state.queue.jobs.get row.id = none ∧ tables.jobs = state.queue.jobs.put row := by
  cases made with
  | failed _ other => cases other.symm.trans status
  | delivered other => cases other.symm.trans status
  | retry availableAt _ silent retry =>
    have quiet : middle.jobs = state.queue.jobs := by
      cases recorded.failure with
      | silent _ same => rw [same]; rfl
      | published _ _ final => cases silent.symm.trans final
    cases recorded.jobs with
    | none none' => cases none'.symm.trans retry
    | enqueued key _ row jobId now same written =>
      cases same.symm.trans retry
      rw [quiet] at written
      rcases Jobs.enqueueJob_ok written with ⟨-, key, keyed, active⟩ | ⟨rfl, inserted, -⟩
      · exfalso
        have found := Table.first_some active
        rw [Bool.and_eq_true, decide_eq_true_eq] at found
        rw [deliveryJob_key] at keyed
        cases keyed
        obtain ⟨delivery, stored, bound⟩ := linear.jobKeys row.id row (Table.get_of_mem found.1) read.id
          (read.attempts + 1) found.2.1
        have sameRow : state.deliveries.get read.id = some old := recorded.stored
        cases stored.symm.trans sameRow
        have attempts := recorded.attempts
        omega
      · obtain ⟨absent, stored⟩ := Jobs.create_ok_iff.mp inserted
        exact ⟨_, _, by rw [retry]; rfl, rfl, deliveryJob_enqueued .., absent, (Jobs.store_ok_iff.mp stored).2.2.2⟩

theorem linear_enqueues (linear : Linear state) {action : Action} {next : State} {entries : List Entry}
    (taken : step state action = some next) (log : next.log = state.log ++ entries) {entry : Entry}
    (member : entry ∈ entries) {place : Nat} (cause : entry.cause = .recorded place) (status : entry.status = .retry) :
    ∃ key job, entry.key = some key ∧ job.dedupeKey = some (dedupeKey entry.deliveryId key) ∧
      job.kind = .deliverWebhook ∧ state.queue.jobs.get job.id = none ∧
      next.queue.jobs = state.queue.jobs.put job := by
  obtain ⟨index, read, record, old, middle, created, job, _, made, recorded, rfl⟩ :=
    recorded_of_entry linear taken log member cause
  obtain ⟨key, row, keyed, -, enqueued, absent, jobs⟩ := recorded.enqueues linear made status
  exact ⟨key, row, keyed, enqueued.key, enqueued.kind, absent, jobs⟩

theorem linear_keys (linear : Linear state) (deliveryId : Uuid) :
    ((state.resultsOf deliveryId).filterMap fun entry => entry.key.map (dedupeKey deliveryId)).Nodup := by
  have numbers : ((state.resultsOf deliveryId).map Entry.attempts).Nodup := by
    rw [linear.counted deliveryId]
    exact List.nodup_range'
  have keys := linear.keys deliveryId
  generalize state.resultsOf deliveryId = results at numbers keys
  induction results with
  | nil => exact List.nodup_nil
  | cons entry results ih =>
    rw [List.map_cons, List.nodup_cons] at numbers
    have rest := ih numbers.2 fun other member => keys other (List.mem_cons_of_mem _ member)
    rw [List.filterMap_cons]
    split
    · exact rest
    · next text made =>
      rw [List.nodup_cons]
      refine ⟨?_, rest⟩
      intro again
      obtain ⟨other, member, same⟩ := List.mem_filterMap.mp again
      rw [keys entry List.mem_cons_self] at made
      rw [keys other (List.mem_cons_of_mem _ member)] at same
      split at made
      · split at same
        · cases made
          have equal := (dedupeKey_attempt (Option.some.inj same)).2
          exact numbers.1 (List.mem_map.mpr ⟨other, member, (AttemptKey.attempt.inj equal).symm⟩)
        · cases same
      · cases made

theorem linear_publishes (linear : Linear state) {action : Action} {next : State} {entries : List Entry}
    (taken : step state action = some next) (log : next.log = state.log ++ entries) {entry : Entry}
    (member : entry ∈ entries) {place : Nat} (cause : entry.cause = .recorded place) (status : entry.status = .failed)
    {delivery : WebhookDelivery} (stored : state.deliveries.get entry.deliveryId = some delivery)
    (other : delivery.eventType ≠ deliveryFailed) :
    ∃ event reason, state.events.get event.id = none ∧ event.type = deliveryFailed ∧
      event.payload = .deliveryFailed delivery.id delivery.endpointId delivery.eventId reason ∧
      next.events = state.events.put event := by
  obtain ⟨index, read, record, old, middle, created, job, reading, made, recorded, rfl⟩ :=
    recorded_of_entry linear taken log member cause
  obtain ⟨row, there, type, endpoint, event⟩ := reading.row
  cases there.symm.trans stored
  have keyed : delivery.id = read.id := Table.key_of_get there
  cases made with
  | retry _ different => cases different.symm.trans status
  | delivered different => cases different.symm.trans status
  | failed reason _ final nonempty =>
    cases recorded.failure with
    | silent _ _ quiet => exact absurd (type.trans (quiet reason final nonempty)) other
    | published reason' published same _ fresh kind payload events =>
      refine ⟨published, reason', fresh, kind, ?_, recorded.rest.2.2.trans events⟩
      rw [payload, keyed, endpoint, event]

theorem unrecorded_tables {action : Action} {next : State} (own : action.ofRun = true)
    (taken : step state action = some next) (log : next.log = state.log) : next.tables = state.tables := by
  cases step_change taken with
  | idle same => subst same; rfl
  | started _ _ _ same => subst same; rfl
  | reached _ _ _ _ _ same => subst same; rfl
  | endpoints _ other => cases own.symm.trans other
  | queue _ _ allowed _ _ =>
    rcases allowed with ⟨rfl, -⟩ | ⟨_, _, _, _, _, rfl, -⟩ <;> cases own
  | event => cases own
  | retried => cases own
  | recorded _ _ _ _ _ _ _ _ _ _ _ _ _ _ recorded _ same =>
    subst same
    have empty := List.append_right_eq_self.mp log
    rw [recorded.log] at empty
    exact absurd empty (List.append_ne_nil_of_right_ne_nil _ (List.cons_ne_nil _ _))

end Linearizes

/-- Whatever deliveries, manual retries, events and workers overlap, the results of every
delivery linearize. -/
theorem results_linearize (actions : List Action) (state : State) (reached : run step initial actions = some state) :
    Linearizes state := by
  have linear := run_linear reached
  constructor
  · intro delivery member delivered later final onwards
    exact run_delivered linear onwards (Table.get_of_mem member) delivered
  · intro delivery member
    have stored : state.deliveries.get delivery.id = some delivery := Table.get_of_mem member
    have counted := congrArg List.length (linear.counted delivery.id)
    rw [stored, List.length_map, List.length_range'] at counted
    exact counted.symm
  · exact fun action next entries taken log entry member place cause status =>
      linear_enqueues linear taken log member cause status
  · exact linear_keys linear
  · exact fun action next entries taken log entry member place cause status delivery stored other =>
      linear_publishes linear taken log member cause status stored other
  · exact fun action next own taken log => unrecorded_tables own taken log

/-- The identifiers of one event with one delivery. -/
def sampleIds : Nat → Uuid
  | 0 => ⟨"event", by decide, by decide⟩
  | 1 => ⟨"delivery", by decide, by decide⟩
  | _ => ⟨"job", by decide, by decide⟩

def sampleApp : Uuid := ⟨"app", by decide, by decide⟩

/-- An endpoint and an event that it has subscribed to. -/
def subscribed : List Action :=
  [.createEndpoint ⟨⟨"endpoint", by decide, by decide⟩, sampleApp, "https://example.com", ["escrow.funded"],
      some "v2.key.iv.tag.text", .active, none⟩,
    .createEvent sampleApp ⟨"escrow.funded", none, .json "text"⟩ sampleIds 0]

/-- Two runs of one delivery that both see the endpoint fail. -/
def overlappingRuns : List Action :=
  subscribed ++
    [.deliver "delivery", .deliver "delivery", .read 0 true, .read 1 true, .respond 0 (.failed .requestFailed) 1000,
      .respond 1 (.response 500 "") 1000, .record 1 .committed "second" sampleIds 'e' "" 1001,
      .record 0 .committed "first" sampleIds 'e' "" 1002]

theorem overlappingRuns_linearize : ∃ state, run step initial overlappingRuns = some state ∧
    state.deliveries.rows.map (fun delivery => (delivery.status, delivery.attempts)) = [(.retry, 1)] ∧
    state.queue.jobs.rows.map Jobs.AgentJob.id = ["job", "second"] ∧ Linearizes state := by
  have observed : (run step initial overlappingRuns).map (fun state =>
      (state.deliveries.rows.map fun delivery => (delivery.status, delivery.attempts),
        state.queue.jobs.rows.map Jobs.AgentJob.id)) = some ([(.retry, 1)], ["job", "second"]) := by
    decide +kernel
  obtain ⟨state, reached, seen⟩ := Option.map_eq_some_iff.mp observed
  obtain ⟨deliveries, jobs⟩ := Prod.mk.inj seen
  exact ⟨state, reached, deliveries, jobs, results_linearize overlappingRuns state reached⟩

end PactAgent.Webhooks
