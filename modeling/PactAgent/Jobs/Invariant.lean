import PactAgent.Jobs.Steps

/-! The invariant of the job table: its constraints can never be violated by a
statement of the queue, attempts count claims, and finished jobs stay finished. -/

namespace PactAgent.Jobs
open Foundation Execution

/-- The constraints that the database checks on every row it stores. -/
structure Lawful (jobs : Table AgentJob) : Prop where
  lease : ∀ job ∈ jobs, job.leaseConsistent = true
  keys : ∀ first ∈ jobs, ∀ second ∈ jobs, first.dedupeKey ≠ none → first.dedupeKey = second.dedupeKey →
    first.id = second.id
  range : ∀ job ∈ jobs, job.attempts ≤ 2147483647

section Lawful
variable {row : AgentJob} {rows : List AgentJob} {jobs after : Table AgentJob}

theorem store_lawful (written : store row jobs = .ok after) (lawful : Lawful jobs) : Lawful after := by
  obtain ⟨consistent, bounded, free, rfl⟩ := store_ok_iff.mp written
  have alone : ∀ other ∈ jobs, other.id ≠ row.id → row.dedupeKey ≠ none → other.dedupeKey ≠ row.dedupeKey := by
    intro other member different keyed same
    unfold keyTaken at free
    rw [Bool.and_eq_false_iff] at free
    rcases free with unkeyed | nobody
    · exact keyed (by simpa using unkeyed)
    · have passed := List.any_eq_false.mp nobody other member
      simp [different, same] at passed
  constructor
  · intro job member
    rcases Table.mem_put.mp member with rfl | ⟨old, -⟩
    · exact consistent
    · exact lawful.lease job old
  · intro first firstIn second secondIn keyed same
    rcases Table.mem_put.mp firstIn with rfl | ⟨firstOld, firstOther⟩ <;>
      rcases Table.mem_put.mp secondIn with rfl | ⟨secondOld, secondOther⟩
    · rfl
    · exact absurd same.symm (alone second secondOld secondOther keyed)
    · exact absurd same (alone first firstOld firstOther (same ▸ keyed))
    · exact lawful.keys first firstOld second secondOld keyed same
  · intro job member
    rcases Table.mem_put.mp member with rfl | ⟨old, -⟩
    · exact bounded
    · exact lawful.range job old

theorem storeAll_lawful (written : storeAll rows jobs = .ok after) (lawful : Lawful jobs) : Lawful after := by
  induction rows generalizing jobs with
  | nil =>
    cases written
    exact lawful
  | cons first rows ih =>
    obtain ⟨middle, one, rest⟩ := storeAll_cons.mp written
    exact ih rest (store_lawful one lawful)

end Lawful

section Written
variable {row : AgentJob} {rows : List AgentJob} {jobs : Table AgentJob} {error : DatabaseError}

theorem claimedBy_consistent (job : AgentJob) (workerId : String) (leaseMs now : Int) :
    (job.claimedBy workerId leaseMs now).leaseConsistent = true := rfl

theorem released_consistent (job : AgentJob) (now : Int) : (job.released now).leaseConsistent = true := rfl

theorem row_consistent (params : EnqueueParams) (uuid : String) (now : Int) :
    (params.row uuid now).leaseConsistent = true := rfl

theorem replayed_consistent (job : AgentJob) (uuid : String) (now : Int) :
    (job.replayed uuid now).leaseConsistent = true := rfl

theorem data_consistent (claimed : AgentJob) (call : LeaseCall) (running : row.status = .running)
    (consistent : row.leaseConsistent = true) : (call.data claimed row).leaseConsistent = true := by
  cases call with
  | renewJobLease leaseMs now =>
    unfold AgentJob.leaseConsistent at consistent ⊢
    simp_all [LeaseCall.data]
  | failJob error random now =>
    by_cases dead : claimed.shouldDeadLetter = true
    · simp [LeaseCall.data, AgentJob.unlocked, AgentJob.leaseConsistent, dead]
    · simp [LeaseCall.data, AgentJob.unlocked, AgentJob.leaseConsistent, dead]
  | _ => rfl

/-- A row that a call leaves under its key is still to be worked on. -/
theorem data_active (claimed : AgentJob) (call : LeaseCall) (running : row.status = .running)
    (keyed : (call.data claimed row).dedupeKey ≠ none) : (call.data claimed row).status.active = true := by
  cases call with
  | renewJobLease leaseMs now =>
    have same : (LeaseCall.data claimed (.renewJobLease leaseMs now) row).status = row.status := rfl
    rw [same, running]
    rfl
  | completeJob now => exact absurd rfl keyed
  | deferJob delayMs now => rfl
  | failJob error random now =>
    by_cases dead : claimed.shouldDeadLetter = true
    · simp [LeaseCall.data, dead] at keyed
    · simp [LeaseCall.data, dead, JobStatus.active]

@[simp] theorem data_attempts (claimed : AgentJob) (call : LeaseCall) :
    (call.data claimed row).attempts = row.attempts := by
  cases call with
  | failJob error random now =>
    by_cases dead : claimed.shouldDeadLetter = true
    · simp [LeaseCall.data, AgentJob.unlocked, dead]
    · simp [LeaseCall.data, AgentJob.unlocked, dead]
  | _ => rfl

theorem store_error (failed : store row jobs = .error error) (consistent : row.leaseConsistent = true) :
    error ≠ .leaseConsistency := by
  rintro rfl
  unfold store at failed
  rw [if_neg (by simp [consistent])] at failed
  split at failed
  · cases failed
  · split at failed <;> cases failed

theorem create_error (failed : create row jobs = .error error) (consistent : row.leaseConsistent = true) :
    error ≠ .leaseConsistency := by
  unfold create at failed
  split at failed
  · cases failed
    decide
  · exact store_error failed consistent

theorem storeAll_error (failed : storeAll rows jobs = .error error)
    (consistent : ∀ row ∈ rows, row.leaseConsistent = true) : error ≠ .leaseConsistency := by
  induction rows generalizing jobs with
  | nil => cases failed
  | cons first rows ih =>
    unfold storeAll at failed
    rw [List.foldlM_cons] at failed
    cases one : store first jobs with
    | error other =>
      rw [one] at failed
      cases failed
      exact store_error one (consistent first List.mem_cons_self)
    | ok middle =>
      rw [one] at failed
      exact ih failed fun row member => consistent row (List.mem_cons_of_mem _ member)

end Written

section Failures
variable {state next : State} {action : Action} {jobs : Table AgentJob}

theorem advance_error {call : Call} {uuid : String} {now : Int} {error : DatabaseError} {progress : Progress}
    (failed : call.advance uuid now jobs = (.error error, progress)) (lawful : Lawful jobs) :
    error ≠ .leaseConsistency := by
  cases call with
  | replayJob job => exact create_error (Prod.mk.inj failed).1 (replayed_consistent job uuid now)
  | enqueueJob params stage =>
    have fresh : ∀ {result : Except DatabaseError (Table AgentJob)},
        create (params.row uuid now) jobs = result → result = .error error → error ≠ .leaseConsistency :=
      fun made refused => create_error (made.trans refused) (row_consistent params uuid now)
    cases stage with
    | find =>
      simp only [Call.advance] at failed
      split at failed
      · cases failed
      · split at failed <;> cases failed
    | create =>
      simp only [Call.advance] at failed
      split at failed
      · exact fresh rfl (Prod.mk.inj failed).1
      · exact fresh rfl (Prod.mk.inj failed).1
    | holder =>
      simp only [Call.advance] at failed
      split at failed
      · cases failed
      · split at failed
        · split at failed <;> cases failed
        · cases failed
    | clear holder =>
      simp only [Call.advance] at failed
      split at failed
      · cases failed
      · next row found =>
        split at failed
        · cases failed
        · next refused =>
          cases failed
          exact store_error refused (lawful.lease row (Table.mem_of_get found))
    | again => exact fresh rfl (Prod.mk.inj failed).1

theorem enqueueJob_error {params : EnqueueParams} {uuid : String} {now : Int} {error : DatabaseError}
    (refused : enqueueJob params uuid now jobs = .error error) : error ≠ .leaseConsistency := by
  unfold enqueueJob at refused
  split at refused
  · cases refused
  · cases written : create (params.row uuid now) jobs with
    | ok after =>
      rw [written] at refused
      cases refused
    | error other =>
      rw [written] at refused
      cases refused
      exact create_error written (row_consistent params uuid now)

/-- No statement is refused for the consistency of a lease. -/
theorem perform_consistent {failure : Option Failure} (performed : perform state action = some (failure, next))
    (lawful : Lawful state.jobs) : failure ≠ some (.database .leaseConsistency) := by
  have other : ∀ {error : DatabaseError}, error ≠ .leaseConsistency →
      some (Failure.database error) ≠ some (.database .leaseConsistency) := by
    intro error different same
    exact different (Failure.database.inj (Option.some.inj same))
  unfold perform at performed
  cases action with
  | enqueueJob params =>
    cases performed
    exact nofun
  | enqueueInTransaction params uuid now =>
    dsimp only at performed
    split at performed
    · cases performed
      exact nofun
    · next refused =>
      cases performed
      exact other (enqueueJob_error refused)
  | replayJob jobId =>
    dsimp only at performed
    split at performed
    · cases performed
      exact nofun
    · split at performed <;> (cases performed; exact nofun)
  | advance index uuid now =>
    dsimp only at performed
    split at performed
    · cases performed
    · next call _ =>
      rcases advanced : call.advance uuid now state.jobs with ⟨result, progress⟩
      rw [advanced] at performed
      cases result with
      | error error =>
        cases performed
        exact other (advance_error advanced lawful)
      | ok jobs =>
        cases performed
        exact nofun
  | abandon index =>
    dsimp only at performed
    split at performed
    · cases performed
      exact nofun
    · cases performed
  | claimAvailableJobs workerId queues limit leaseMs skipped now =>
    dsimp only at performed
    split at performed
    · cases performed
      exact nofun
    · next refused =>
      cases performed
      unfold Jobs.claimAvailableJobs at refused
      cases written : storeAll ((candidates queues limit skipped now state.jobs).map fun job =>
          job.claimedBy workerId leaseMs now) state.jobs with
      | ok jobs =>
        simp only [written] at refused
        cases refused
      | error error =>
        simp only [written] at refused
        cases refused
        refine other (storeAll_error written ?_)
        intro row member
        obtain ⟨job, -, rfl⟩ := List.mem_map.mp member
        exact claimedBy_consistent job workerId leaseMs now
  | leaseCall index call =>
    dsimp only at performed
    split at performed
    · cases performed
    · next execution _ =>
      split at performed
      · cases performed
        exact nofun
      · next refused =>
        cases performed
        rw [execution_call] at refused
        unfold updateLeased at refused
        split at refused
        · cases refused
          exact nofun
        · next row held =>
          obtain ⟨stored, running, -⟩ := leased_iff.mp held
          cases written : store (call.data execution.job row) state.jobs with
          | ok jobs =>
            rw [written] at refused
            cases refused
          | error error =>
            rw [written] at refused
            cases refused
            exact other (store_error written
              (data_consistent _ call running (lawful.lease row (Table.mem_of_get stored))))
  | releaseStaleLocks staleMs missed now =>
    dsimp only at performed
    split at performed
    · cases performed
      exact nofun
    · next refused =>
      cases performed
      refine other (storeAll_error refused ?_)
      intro row member
      obtain ⟨job, -, rfl⟩ := List.mem_map.mp member
      exact released_consistent job now

end Failures

/-- What holds of the table and of the executions in every reachable state. -/
structure Consistent (state : State) : Prop where
  lawful : Lawful state.jobs
  active : ∀ job ∈ state.jobs, job.dedupeKey ≠ none → job.status.active = true
  counted : ∀ id, ((state.jobs.get id).map AgentJob.attempts).getD 0 = (state.claimsOf id).length

section Consistent
variable {state next : State} {action : Action}

theorem initial_consistent : Consistent initial where
  lawful := ⟨fun job member => absurd member (Table.not_mem_empty job),
    fun first member => absurd member (Table.not_mem_empty first),
    fun job member => absurd member (Table.not_mem_empty job)⟩
  active job member := absurd member (Table.not_mem_empty job)
  counted _ := rfl

theorem step_active (taken : step state action = some next)
    (active : ∀ job ∈ state.jobs, job.dedupeKey ≠ none → job.status.active = true) :
    ∀ job ∈ next.jobs, job.dedupeKey ≠ none → job.status.active = true := by
  intro job member keyed
  have found := Table.get_of_mem member
  cases step_row taken job.id with
  | kept row _ _ => exact active job (Table.mem_of_get (row.symm.trans found)) keyed
  | created row _ present origin _ _ =>
    cases present.symm.trans found
    rw [origin.fresh.1]
    rfl
  | cleared old _ written _ _ =>
    cases written.symm.trans found
    exact absurd rfl keyed
  | claimed old workerId _ _ leaseMs _ now _ _ _ written _ _ =>
    cases written.symm.trans found
    rfl
  | called _ call execution row _ _ _ held written _ _ =>
    cases written.symm.trans found
    exact data_active _ call (leased_iff.mp held).2.1 keyed
  | released old now _ _ written _ _ =>
    cases written.symm.trans found
    rfl

theorem step_counted (taken : step state action = some next)
    (counted : ∀ id, ((state.jobs.get id).map AgentJob.attempts).getD 0 = (state.claimsOf id).length) (id : String) :
    ((next.jobs.get id).map AgentJob.attempts).getD 0 = (next.claimsOf id).length := by
  have before := counted id
  cases step_row taken id with
  | kept row claims _ => rw [row, claims, before]
  | created row absent present origin claims _ =>
    rw [absent] at before
    rw [present, claims, ← before]
    exact origin.fresh.2
  | cleared old stored written claims _ =>
    rw [stored] at before
    rw [written, claims, ← before]
    rfl
  | claimed old _ _ _ _ _ _ _ stored _ written claims _ =>
    rw [stored] at before
    rw [written, claims, List.length_append, ← before]
    rfl
  | called _ call execution row _ _ _ held written claims _ =>
    rw [(leased_iff.mp held).1] at before
    rw [written, claims, ← before, Option.map_some, data_attempts]
    rfl
  | released old now stored _ written claims _ =>
    rw [stored] at before
    rw [written, claims, ← before]
    rfl

theorem step_consistent (state : State) (action : Action) (next : State) (consistent : Consistent state)
    (taken : step state action = some next) : Consistent next where
  lawful := by
    obtain ⟨rows, written⟩ := (step_change taken).stored
    exact storeAll_lawful written consistent.lawful
  active := step_active taken consistent.active
  counted := step_counted taken consistent.counted

/-- A job that has finished keeps its status. -/
theorem step_finished (taken : step state action = some next) {job : AgentJob} (stored : job ∈ state.jobs)
    (finished : job.status.active = false) : ∃ new ∈ next.jobs, new.id = job.id ∧ new.status = job.status := by
  have found := Table.get_of_mem stored
  rw [key_job] at found
  cases step_row taken job.id with
  | kept row _ _ => exact ⟨job, Table.mem_of_get (row.trans found), rfl, rfl⟩
  | created _ absent _ _ _ _ => cases absent.symm.trans found
  | cleared old there written _ _ =>
    cases there.symm.trans found
    exact ⟨_, Table.mem_of_get written, rfl, rfl⟩
  | claimed old _ _ _ _ _ _ _ there claimable _ _ _ =>
    cases there.symm.trans found
    rcases claimable.2.1 with queued | retried
    · rw [queued] at finished; cases finished
    · rw [retried] at finished; cases finished
  | called _ _ _ row _ _ _ held _ _ _ =>
    obtain ⟨there, running, -⟩ := leased_iff.mp held
    cases there.symm.trans found
    rw [running] at finished
    cases finished
  | released old _ there running _ _ _ =>
    cases there.symm.trans found
    rw [running] at finished
    cases finished

end Consistent

theorem run_finished {state final : State} {actions : List Action} (reached : run step state actions = some final)
    {job : AgentJob} (stored : job ∈ state.jobs) (finished : job.status.active = false) :
    ∃ new ∈ final.jobs, new.id = job.id ∧ new.status = job.status := by
  induction actions generalizing state job with
  | nil =>
    cases reached
    exact ⟨job, stored, rfl, rfl⟩
  | cons action actions ih =>
    obtain ⟨next, taken, onwards⟩ := run_cons reached
    obtain ⟨middle, there, sameId, sameStatus⟩ := step_finished taken stored finished
    obtain ⟨new, last, id, status⟩ := ih onwards there (sameStatus ▸ finished)
    exact ⟨new, last, id.trans sameId, status.trans sameStatus⟩

theorem run_consistent {state : State} {actions : List Action} (reached : run step initial actions = some state) :
    Consistent state :=
  invariant_run step_consistent actions initial state initial_consistent reached

/-- The guarantees of the queue in one state. -/
structure JobTable (state : State) : Prop where
  leased : ∀ job ∈ state.jobs, job.status = .running ↔
    job.lockedAt.isSome = true ∧ job.lockedBy.isSome = true ∧ job.leaseExpiresAt.isSome = true
  unleased : ∀ job ∈ state.jobs, job.status ≠ .running →
    job.lockedAt = none ∧ job.lockedBy = none ∧ job.leaseExpiresAt = none
  neverRefused : ∀ action failure next, perform state action = some (failure, next) →
    failure ≠ some (.database .leaseConsistency)
  attempts : ∀ job ∈ state.jobs, job.attempts = (state.claimsOf job.id).length
  finished : ∀ job ∈ state.jobs, job.status = .completed ∨ job.status = .deadLetter →
    ∀ actions final, run step state actions = some final → ∃ new ∈ final.jobs, new.id = job.id ∧ new.status = job.status
  oneForKey : ∀ first ∈ state.jobs, ∀ second ∈ state.jobs, first.dedupeKey ≠ none →
    first.dedupeKey = second.dedupeKey → first = second
  keyed : ∀ job ∈ state.jobs, job.dedupeKey ≠ none →
    job.status = .queued ∨ job.status = .running ∨ job.status = .retry
  claims : ∀ workerId queues limit leaseMs skipped now claimed jobs,
    claimAvailableJobs workerId queues limit leaseMs skipped now state.jobs = .ok (claimed, jobs) →
    ∀ job ∈ claimed, ∃ old ∈ state.jobs, old.id = job.id ∧ (old.status = .queued ∨ old.status = .retry) ∧
      old.availableAt ≤ now

theorem leaseConsistent_iff {job : AgentJob} : job.leaseConsistent = true ↔
    (job.status = .running ↔
      job.lockedAt.isSome = true ∧ job.lockedBy.isSome = true ∧ job.leaseExpiresAt.isSome = true) ∧
    (job.status ≠ .running → job.lockedAt = none ∧ job.lockedBy = none ∧ job.leaseExpiresAt = none) := by
  unfold AgentJob.leaseConsistent
  by_cases running : job.status = .running
  · simp [running, and_assoc]
  · simp only [running, if_false, Bool.and_eq_true, Option.isNone_iff_eq_none, and_assoc, false_iff, ne_eq,
      not_false_eq_true, forall_const]
    constructor
    · rintro ⟨locked, owner, lease⟩
      simp [locked, owner, lease]
    · exact fun both => both.2

/-- In every state that workers and requests can bring the queue to, in any order of their
statements, the job table is as the queue promises. -/
theorem queue_sound (actions : List Action) (state : State) (reached : run step initial actions = some state) :
    JobTable state := by
  have consistent := run_consistent reached
  have active : ∀ status : JobStatus, status.active = true →
      status = .queued ∨ status = .running ∨ status = .retry := by
    intro status
    cases status <;> simp [JobStatus.active]
  constructor
  · exact fun job member => (leaseConsistent_iff.mp (consistent.lawful.lease job member)).1
  · exact fun job member => (leaseConsistent_iff.mp (consistent.lawful.lease job member)).2
  · exact fun action failure next performed => perform_consistent performed consistent.lawful
  · intro job member
    have counted := consistent.counted job.id
    rw [← key_job, Table.get_of_mem member] at counted
    exact counted
  · intro job member ended actions final onwards
    refine run_finished onwards member ?_
    rcases ended with status | status <;> (rw [status]; rfl)
  · intro first firstIn second secondIn keyed same
    exact Table.eq_of_key_eq firstIn secondIn (consistent.lawful.keys first firstIn second secondIn keyed same)
  · exact fun job member keyed => active job.status (consistent.active job member keyed)
  · intro workerId queues limit leaseMs skipped now claimed jobs claiming job member
    unfold claimAvailableJobs at claiming
    simp only [Guard.bind_ok_iff, Guard.pure_ok_iff, Prod.mk.injEq] at claiming
    obtain ⟨_, -, rfl, -⟩ := claiming
    obtain ⟨old, chosen, rfl⟩ := List.mem_map.mp member
    obtain ⟨stored, -, status, available, -⟩ := candidates_mem chosen
    exact ⟨old, stored, rfl, status, available⟩

/-- A job under a key: enqueued twice at once, claimed, given back when its lease has run
out, claimed by another worker and completed; then the key is used again. -/
def keyedRun : List Action :=
  let params : EnqueueParams := { appId := "app", kind := .ckbReconcileTransaction, dedupeKey := some "key" }
  [.enqueueJob params, .enqueueJob params, .advance 0 "job" 0, .advance 1 "other" 0, .advance 0 "job" 0,
    .advance 0 "other" 0, .advance 0 "other" 0,
    .claimAvailableJobs "first" [.settlement] 10 60000 [] 0, .releaseStaleLocks 60000 [] 60001,
    .claimAvailableJobs "second" [.settlement] 10 60000 [] 60001, .leaseCall 0 (.completeJob 60002),
    .leaseCall 1 (.completeJob 60003), .enqueueJob params, .advance 0 "next" 60004, .advance 0 "next" 60004]

theorem keyedRun_sound : ∃ state, run step initial keyedRun = some state ∧
    state.jobs.rows.map (fun job => (job.id, job.status, job.attempts, job.dedupeKey)) =
      [("job", .completed, 2, none), ("next", .queued, 0, some "key")] ∧ JobTable state := by
  have observed : (run step initial keyedRun).map (fun state =>
      state.jobs.rows.map fun job => (job.id, job.status, job.attempts, job.dedupeKey)) =
      some [("job", .completed, 2, none), ("next", .queued, 0, some "key")] := by
    decide +kernel
  obtain ⟨state, reached, seen⟩ := Option.map_eq_some_iff.mp observed
  exact ⟨state, reached, seen, queue_sound keyedRun state reached⟩

end PactAgent.Jobs
