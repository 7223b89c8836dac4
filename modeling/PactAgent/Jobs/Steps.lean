import PactAgent.Foundation.Guard
import PactAgent.Jobs.Queue

/-! What one step of the job queue does to the row of one job and to the record of
its leases. Every invariant of the queue is derived from this case analysis. -/

namespace PactAgent.Jobs
open Foundation Execution

section Store
variable {row stored : AgentJob} {rows : List AgentJob} {jobs after : Table AgentJob}

theorem store_ok_iff : store row jobs = .ok after ↔
    row.leaseConsistent = true ∧ row.attempts ≤ 2147483647 ∧ keyTaken row jobs = false ∧ after = jobs.put row := by
  unfold store
  rw [Guard.reject_ok_iff, Guard.reject_ok_iff, Guard.reject_ok_iff, Guard.pure_ok_iff, @eq_comm _ (jobs.put row)]
  simp only [Bool.not_eq_false, not_lt, Bool.not_eq_true]

theorem create_ok_iff : create row jobs = .ok after ↔ jobs.get row.id = none ∧ store row jobs = .ok after := by
  unfold create
  rw [Guard.reject_ok_iff]
  simp only [Bool.not_eq_true, Option.isSome_eq_false_iff, Option.isNone_iff_eq_none]

theorem storeAll_cons {first : AgentJob} : storeAll (first :: rows) jobs = .ok after ↔
    ∃ middle, store first jobs = .ok middle ∧ storeAll rows middle = .ok after := by
  unfold storeAll
  rw [List.foldlM_cons, Guard.bind_ok_iff]

/-- A statement over several rows writes these and leaves the others. -/
theorem storeAll_get (written : storeAll rows jobs = .ok after) (distinct : (rows.map AgentJob.id).Nodup)
    (id : String) :
    (∀ row ∈ rows, row.id = id → after.get id = some row) ∧
      (id ∉ rows.map AgentJob.id → after.get id = jobs.get id) := by
  induction rows generalizing jobs with
  | nil =>
    cases written
    exact ⟨fun _ member => absurd member List.not_mem_nil, fun _ => rfl⟩
  | cons first rows ih =>
    obtain ⟨middle, one, rest⟩ := storeAll_cons.mp written
    obtain ⟨-, -, -, rfl⟩ := store_ok_iff.mp one
    rw [List.map_cons, List.nodup_cons] at distinct
    obtain ⟨here, elsewhere⟩ := ih rest distinct.2
    constructor
    · intro row member same
      cases List.mem_cons.mp member with
      | inl equal =>
        subst equal
        rw [elsewhere (same ▸ distinct.1), ← same]
        exact Table.get_put_self row jobs
      | inr later => exact here row later same
    · intro absent
      rw [List.map_cons, List.mem_cons, not_or] at absent
      rw [elsewhere absent.2]
      exact Table.get_put_of_ne absent.1

/-- What a statement writes to chosen rows of the table, one by one. -/
theorem storeAll_map {chosen : List AgentJob} {change : AgentJob → AgentJob}
    (written : storeAll (chosen.map change) jobs = .ok after) (stays : ∀ job, (change job).id = job.id)
    (inside : ∀ job ∈ chosen, job ∈ jobs) (distinct : (chosen.map AgentJob.id).Nodup) (id : String) :
    (∃ old ∈ chosen, jobs.get id = some old ∧ after.get id = some (change old)) ∨
      (id ∉ chosen.map AgentJob.id ∧ after.get id = jobs.get id) := by
  have ids : (chosen.map change).map AgentJob.id = chosen.map AgentJob.id := by
    rw [List.map_map]
    exact List.map_congr_left fun job _ => stays job
  obtain ⟨here, elsewhere⟩ := storeAll_get written (ids ▸ distinct) id
  by_cases member : id ∈ chosen.map AgentJob.id
  · obtain ⟨old, oldIn, same⟩ := List.mem_map.mp member
    refine .inl ⟨old, oldIn, ?_, here (change old) (List.mem_map_of_mem oldIn) ((stays old).trans same)⟩
    rw [← same]
    exact Table.get_of_mem (inside old oldIn)
  · exact .inr ⟨member, elsewhere (ids ▸ member)⟩

end Store

/-- A job that a claim may take. -/
def AgentJob.claimable (job : AgentJob) (queues : List WorkerQueue) (now : Int) : Prop :=
  job.queue ∈ queues ∧ (job.status = .queued ∨ job.status = .retry) ∧ job.availableAt ≤ now ∧
    ∀ expires, job.leaseExpiresAt = some expires → expires ≤ now

section Chosen
variable {queues : List WorkerQueue} {limit staleMs now : Int} {skipped missed : List String} {job : AgentJob}
  {jobs : Table AgentJob}

theorem candidates_mem (chosen : job ∈ candidates queues limit skipped now jobs) :
    job ∈ jobs ∧ job.claimable queues now := by
  unfold candidates at chosen
  have filtered := (List.mem_insertionSort _).mp (List.mem_of_mem_take chosen)
  simp only [List.mem_filter, Bool.and_eq_true, Bool.or_eq_true, decide_eq_true_eq, List.contains_eq_mem,
    Option.all_eq_true, Bool.not_eq_true'] at filtered
  obtain ⟨stored, ⟨⟨⟨inside, status⟩, available⟩, lease⟩, -⟩ := filtered
  exact ⟨stored, inside, status, available, lease⟩

theorem candidates_nodup : ((candidates queues limit skipped now jobs).map AgentJob.id).Nodup := by
  unfold candidates
  refine List.Nodup.sublist ((List.take_sublist _ _).map _) ?_
  refine ((List.perm_insertionSort _ _).map _).nodup_iff.mpr ?_
  exact jobs.keys_nodup.sublist (List.filter_sublist.map _)

theorem stale_mem (chosen : job ∈ stale staleMs missed now jobs) : job ∈ jobs ∧ job.status = .running := by
  unfold stale at chosen
  rw [List.mem_filter, Bool.and_eq_true, Bool.and_eq_true, decide_eq_true_eq] at chosen
  exact ⟨chosen.1, chosen.2.1.1⟩

theorem stale_nodup : ((stale staleMs missed now jobs).map AgentJob.id).Nodup :=
  jobs.keys_nodup.sublist (List.filter_sublist.map _)

end Chosen

/-- What a call makes of the row, on the row `claimed` that its execution was given. -/
def LeaseCall.data (claimed : AgentJob) : LeaseCall → AgentJob → AgentJob
  | .renewJobLease leaseMs now, row => { row with leaseExpiresAt := some (now + leaseMs) }
  | .completeJob now, row =>
      { row.unlocked with status := .completed, dedupeKey := none, completedAt := some now, lastError := none }
  | .deferJob delayMs now, row =>
      { row.unlocked with
        status := .retry, availableAt := now + min (max delayMs 1000) (15 * 60000), lastError := none }
  | .failJob error random now, row =>
      if claimed.shouldDeadLetter then
        { row.unlocked with
          status := .deadLetter, dedupeKey := none, lastError := some error, deadLetteredAt := some now }
      else
        { row.unlocked with
          status := .retry, lastError := some error
          availableAt := now + getJobRetryDelayMs claimed.attempts random }

section Calls
variable {execution : Execution} {call : LeaseCall} {row : AgentJob} {jobs after : Table AgentJob}

theorem leased_iff {jobId workerId : String} : leased jobId workerId jobs = some row ↔
    jobs.get jobId = some row ∧ row.status = .running ∧ row.lockedBy = some workerId := by
  unfold leased
  rw [Option.filter_eq_some_iff, Bool.and_eq_true, decide_eq_true_eq, decide_eq_true_eq]

theorem execution_call (execution : Execution) (call : LeaseCall) :
    execution.call call = updateLeased execution.job.id execution.workerId (call.data execution.job) := by
  cases call <;> rfl

theorem call_ok_iff : execution.call call jobs = .ok after ↔
    ∃ row, leased execution.job.id execution.workerId jobs = some row ∧
      store (call.data execution.job row) jobs = .ok after := by
  rw [execution_call]
  unfold updateLeased
  cases found : leased execution.job.id execution.workerId jobs with
  | none => simp [throw, throwThe, MonadExceptOf.throw]
  | some row =>
    dsimp only
    rw [Guard.mapError_ok_iff]
    simp

@[simp] theorem data_id (claimed row : AgentJob) (call : LeaseCall) : (call.data claimed row).id = row.id := by
  cases call with
  | failJob error random now =>
    by_cases dead : claimed.shouldDeadLetter = true
    · simp [LeaseCall.data, AgentJob.unlocked, dead]
    · simp [LeaseCall.data, AgentJob.unlocked, dead]
  | _ => rfl

end Calls

/-- Where a fresh row comes from. -/
inductive Origin (state : State) (row : AgentJob) : Action → Prop
  | transaction (params : EnqueueParams) (uuid : String) (now : Int) (made : row = params.row uuid now) :
      Origin state row (.enqueueInTransaction params uuid now)
  | enqueued (index : Nat) (uuid : String) (now : Int) (params : EnqueueParams) (stage : EnqueueStage)
      (found : state.calls[index]? = some (.enqueueJob params stage)) (made : row = params.row uuid now) :
      Origin state row (.advance index uuid now)
  | replayed (index : Nat) (uuid : String) (now : Int) (job : AgentJob)
      (found : state.calls[index]? = some (.replayJob job)) (made : row = job.replayed uuid now) :
      Origin state row (.advance index uuid now)

theorem Origin.fresh {state : State} {row : AgentJob} {action : Action} (origin : Origin state row action) :
    row.status = .queued ∧ row.attempts = 0 := by
  cases origin with
  | transaction params uuid now made => rw [made]; exact ⟨rfl, rfl⟩
  | enqueued _ uuid now params _ _ made => rw [made]; exact ⟨rfl, rfl⟩
  | replayed _ uuid now job _ made => rw [made]; exact ⟨rfl, rfl⟩

/-- The step from the row of a job, its claims and its lease ends to the next. -/
inductive RowStep (state next : State) (action : Action) (id : String) : Prop
  | kept (row : next.jobs.get id = state.jobs.get id) (claims : next.claimsOf id = state.claimsOf id)
      (ends : next.endsOf id = state.endsOf id)
  | created (row : AgentJob) (absent : state.jobs.get id = none) (present : next.jobs.get id = some row)
      (origin : Origin state row action) (claims : next.claimsOf id = state.claimsOf id)
      (ends : next.endsOf id = state.endsOf id)
  | cleared (old : AgentJob) (stored : state.jobs.get id = some old)
      (written : next.jobs.get id = some { old with dedupeKey := none })
      (claims : next.claimsOf id = state.claimsOf id) (ends : next.endsOf id = state.endsOf id)
  | claimed (old : AgentJob) (workerId : String) (queues : List WorkerQueue) (limit leaseMs : Int)
      (skipped : List String) (now : Int)
      (taken : action = .claimAvailableJobs workerId queues limit leaseMs skipped now)
      (stored : state.jobs.get id = some old) (claimable : old.claimable queues now)
      (written : next.jobs.get id = some (old.claimedBy workerId leaseMs now))
      (claims : next.claimsOf id = state.claimsOf id ++ [⟨workerId, old.claimedBy workerId leaseMs now⟩])
      (ends : next.endsOf id = state.endsOf id)
  | called (index : Nat) (call : LeaseCall) (execution : Execution) (row : AgentJob)
      (taken : action = .leaseCall index call) (member : state.executions[index]? = some execution)
      (own : execution.job.id = id) (held : leased id execution.workerId state.jobs = some row)
      (written : next.jobs.get id = some (call.data execution.job row))
      (claims : next.claimsOf id = state.claimsOf id)
      (ends : next.endsOf id = state.endsOf id ++ call.ends.toList)
  | released (old : AgentJob) (now : Int) (stored : state.jobs.get id = some old) (running : old.status = .running)
      (written : next.jobs.get id = some (old.released now)) (claims : next.claimsOf id = state.claimsOf id)
      (ends : next.endsOf id = state.endsOf id ++ [.released])

section Logs
variable {id : String}

/-- Of rows with distinct ids at most one has the given id. -/
theorem filter_one {rows : List AgentJob} {row : AgentJob} (distinct : (rows.map AgentJob.id).Nodup)
    (member : row ∈ rows) : rows.filter (fun other => other.id = row.id) = [row] := by
  induction rows with
  | nil => exact absurd member List.not_mem_nil
  | cons first rows ih =>
    rw [List.map_cons, List.nodup_cons] at distinct
    have absent : ∀ id, id ∉ rows.map AgentJob.id → rows.filter (fun other => other.id = id) = [] := by
      intro id missing
      rw [List.filter_eq_nil_iff]
      intro other inside same
      exact missing (of_decide_eq_true same ▸ List.mem_map_of_mem inside)
    cases List.mem_cons.mp member with
    | inl equal =>
      subst equal
      rw [List.filter_cons_of_pos (by simp), absent row.id distinct.1]
    | inr later =>
      have other : first.id ≠ row.id := fun same => distinct.1 (same ▸ List.mem_map_of_mem later)
      rw [List.filter_cons_of_neg (by simpa using other), ih distinct.2 later]

theorem filter_none {rows : List AgentJob} (absent : id ∉ rows.map AgentJob.id) :
    rows.filter (fun other => other.id = id) = [] := by
  rw [List.filter_eq_nil_iff]
  intro other inside same
  exact absent (of_decide_eq_true same ▸ List.mem_map_of_mem inside)

end Logs

/-- What a step does to the table of jobs and to the records beside it. -/
inductive Change (state next : State) : Action → Prop
  | idle {action : Action} (jobs : next.jobs = state.jobs) (executions : next.executions = state.executions)
      (ends : next.ends = state.ends) : Change state next action
  | create {action : Action} (row : AgentJob) (origin : Origin state row action)
      (written : create row state.jobs = .ok next.jobs) (executions : next.executions = state.executions)
      (ends : next.ends = state.ends) : Change state next action
  | clear {action : Action} (old : AgentJob) (stored : old ∈ state.jobs)
      (written : store { old with dedupeKey := none } state.jobs = .ok next.jobs)
      (executions : next.executions = state.executions) (ends : next.ends = state.ends) : Change state next action
  | claim (workerId : String) (queues : List WorkerQueue) (limit leaseMs : Int) (skipped : List String) (now : Int)
      (claimed : List AgentJob)
      (given : claimed = (candidates queues limit skipped now state.jobs).map fun job => job.claimedBy workerId leaseMs now)
      (written : storeAll claimed state.jobs = .ok next.jobs)
      (executions : next.executions = state.executions ++ claimed.map (Execution.mk workerId))
      (ends : next.ends = state.ends) :
      Change state next (.claimAvailableJobs workerId queues limit leaseMs skipped now)
  | call (index : Nat) (call : LeaseCall) (execution : Execution) (row : AgentJob)
      (member : state.executions[index]? = some execution)
      (held : leased execution.job.id execution.workerId state.jobs = some row)
      (written : store (call.data execution.job row) state.jobs = .ok next.jobs)
      (executions : next.executions = state.executions)
      (ends : next.ends = state.ends ++ call.ends.toList.map (Prod.mk execution.job.id)) :
      Change state next (.leaseCall index call)
  | release (staleMs : Int) (missed : List String) (now : Int)
      (written : storeAll ((stale staleMs missed now state.jobs).map fun job => job.released now) state.jobs
        = .ok next.jobs)
      (executions : next.executions = state.executions)
      (ends : next.ends = state.ends ++ (stale staleMs missed now state.jobs).map fun job => (job.id, .released)) :
      Change state next (.releaseStaleLocks staleMs missed now)

section Inversion
variable {state next : State} {action : Action} {jobs after : Table AgentJob} {uuid : String} {now : Int}

/-- A statement of a call leaves the table, or inserts a row, or clears the key of one. -/
theorem advance_ok {call : Call} {progress : Progress} {index : Nat} (member : state.calls[index]? = some call)
    (taken : call.advance uuid now jobs = (.ok after, progress)) :
    after = jobs ∨ (∃ row, Origin state row (.advance index uuid now) ∧ create row jobs = .ok after) ∨
      ∃ old ∈ jobs, store { old with dedupeKey := none } jobs = .ok after := by
  cases call with
  | replayJob job => exact .inr (.inl ⟨_, .replayed index uuid now job member rfl, (Prod.mk.inj taken).1⟩)
  | enqueueJob params stage =>
    cases stage with
    | find =>
      simp only [Call.advance] at taken
      split at taken
      · cases taken; exact .inl rfl
      · split at taken <;> (cases taken; exact .inl rfl)
    | create =>
      simp only [Call.advance] at taken
      split at taken
      · next failed _ => rw [failed] at taken; cases taken
      · exact .inr (.inl ⟨_, .enqueued index uuid now params _ member rfl, (Prod.mk.inj taken).1⟩)
    | holder =>
      simp only [Call.advance] at taken
      split at taken
      · cases taken; exact .inl rfl
      · split at taken
        · split at taken <;> (cases taken; exact .inl rfl)
        · cases taken; exact .inl rfl
    | clear holder =>
      simp only [Call.advance] at taken
      split at taken
      · cases taken; exact .inl rfl
      · next row found =>
        split at taken
        · next written =>
          cases taken
          exact .inr (.inr ⟨row, Table.mem_of_get found, written⟩)
        · cases taken
    | again => exact .inr (.inl ⟨_, .enqueued index uuid now params _ member rfl, (Prod.mk.inj taken).1⟩)

/-- An enqueue in a transaction answers with an active job of its key, or inserts one. -/
theorem enqueueJob_ok {params : EnqueueParams} {job : AgentJob}
    (enqueued : enqueueJob params uuid now jobs = .ok (job, after)) :
    (after = jobs ∧ ∃ key, params.key = some key ∧ findActive key jobs = some job) ∨
      (job = params.row uuid now ∧ create (params.row uuid now) jobs = .ok after ∧
        ∀ key, params.key = some key → findActive key jobs = none) := by
  unfold enqueueJob at enqueued
  split at enqueued
  · next existing found =>
    obtain ⟨key, keyed, active⟩ := Option.bind_eq_some_iff.mp found
    cases enqueued
    exact .inl ⟨rfl, key, keyed, active⟩
  · next absent =>
    simp only [Guard.bind_ok_iff, Guard.pure_ok_iff, Prod.mk.injEq] at enqueued
    obtain ⟨_, written, rfl, rfl⟩ := enqueued
    refine .inr ⟨rfl, written, ?_⟩
    intro key keyed
    rw [keyed] at absent
    exact absent

theorem step_change (taken : step state action = some next) : Change state next action := by
  unfold step at taken
  obtain ⟨⟨failure, state'⟩, performed, rfl⟩ := Option.map_eq_some_iff.mp taken
  dsimp only
  unfold perform at performed
  cases action with
  | enqueueJob params =>
    cases performed
    exact .idle rfl rfl rfl
  | enqueueInTransaction params uuid now =>
    dsimp only at performed
    split at performed
    · next job jobs enqueued =>
      cases performed
      rcases enqueueJob_ok enqueued with ⟨rfl, -⟩ | ⟨rfl, written, -⟩
      · exact .idle rfl rfl rfl
      · exact .create _ (.transaction params uuid now rfl) written rfl rfl
    · cases performed
      exact .idle rfl rfl rfl
  | replayJob jobId =>
    dsimp only at performed
    split at performed
    · cases performed
      exact .idle rfl rfl rfl
    · split at performed <;> (cases performed; exact .idle rfl rfl rfl)
  | advance index uuid now =>
    dsimp only at performed
    split at performed
    · cases performed
    · next call member =>
      rcases advanced : call.advance uuid now state.jobs with ⟨result, progress⟩
      rw [advanced] at performed
      cases result with
      | error error =>
        cases performed
        exact .idle rfl rfl rfl
      | ok jobs =>
        cases performed
        rcases advance_ok member advanced with same | ⟨row, origin, written⟩ | ⟨old, stored, written⟩
        · exact .idle same rfl rfl
        · exact .create row origin written rfl rfl
        · exact .clear old stored written rfl rfl
  | abandon index =>
    dsimp only at performed
    split at performed
    · cases performed
      exact .idle rfl rfl rfl
    · cases performed
  | claimAvailableJobs workerId queues limit leaseMs skipped now =>
    dsimp only at performed
    split at performed
    · next claimed jobs claiming =>
      cases performed
      unfold Jobs.claimAvailableJobs at claiming
      simp only [Guard.bind_ok_iff, Guard.pure_ok_iff, Prod.mk.injEq] at claiming
      obtain ⟨_, written, rfl, rfl⟩ := claiming
      exact .claim workerId queues limit leaseMs skipped now _ rfl written rfl rfl
    · cases performed
      exact .idle rfl rfl rfl
  | leaseCall index call =>
    dsimp only at performed
    split at performed
    · cases performed
    · next execution member =>
      split at performed
      · next jobs answered =>
        cases performed
        obtain ⟨row, held, written⟩ := call_ok_iff.mp answered
        exact .call index call execution row member held written rfl rfl
      · cases performed
        exact .idle rfl rfl rfl
  | releaseStaleLocks staleMs missed now =>
    dsimp only at performed
    split at performed
    · next jobs written =>
      cases performed
      exact .release staleMs missed now written rfl rfl
    · cases performed
      exact .idle rfl rfl rfl

end Inversion

section Rows
variable {state next : State} {action : Action} {jobs after : Table AgentJob}

theorem store_get {row : AgentJob} (written : store row jobs = .ok after) (id : String) :
    (id = row.id ∧ after.get id = some row) ∨ (id ≠ row.id ∧ after.get id = jobs.get id) := by
  obtain ⟨-, -, -, rfl⟩ := store_ok_iff.mp written
  by_cases same : id = row.id
  · exact .inl ⟨same, same ▸ Table.get_put_self row jobs⟩
  · exact .inr ⟨same, Table.get_put_of_ne same⟩

/-- What a change does to the row of one job and to the record of its leases. -/
theorem Change.row (change : Change state next action) (id : String) : RowStep state next action id := by
  cases change with
  | idle jobs executions ends =>
    exact .kept (by rw [jobs]) (by unfold State.claimsOf; rw [executions]) (by unfold State.endsOf; rw [ends])
  | create row origin written executions ends =>
    have claims : next.claimsOf id = state.claimsOf id := by unfold State.claimsOf; rw [executions]
    have ended : next.endsOf id = state.endsOf id := by unfold State.endsOf; rw [ends]
    obtain ⟨absent, stored⟩ := create_ok_iff.mp written
    rcases store_get stored id with ⟨rfl, present⟩ | ⟨-, same⟩
    · exact .created row absent present origin claims ended
    · exact .kept same claims ended
  | clear old stored written executions ends =>
    have claims : next.claimsOf id = state.claimsOf id := by unfold State.claimsOf; rw [executions]
    have ended : next.endsOf id = state.endsOf id := by unfold State.endsOf; rw [ends]
    rcases store_get written id with ⟨rfl, present⟩ | ⟨-, same⟩
    · exact .cleared old (Table.get_of_mem stored) present claims ended
    · exact .kept same claims ended
  | claim workerId queues limit leaseMs skipped now claimed given written executions ends =>
    subst given
    have ended : next.endsOf id = state.endsOf id := by unfold State.endsOf; rw [ends]
    have log : next.claimsOf id = state.claimsOf id ++
        (((candidates queues limit skipped now state.jobs).filter fun job => job.id = id).map
          fun job => ⟨workerId, job.claimedBy workerId leaseMs now⟩) := by
      unfold State.claimsOf
      rw [executions, List.filter_append, List.map_map, List.filter_map]
      rfl
    rcases storeAll_map written (fun _ => rfl) (fun job member => (candidates_mem member).1) candidates_nodup id with
      ⟨old, chosen, stored, present⟩ | ⟨absent, same⟩
    · have keyed : old.id = id := Table.key_of_get stored
      rw [← keyed, filter_one candidates_nodup chosen, keyed] at log
      exact .claimed old workerId queues limit leaseMs skipped now rfl stored (candidates_mem chosen).2 present log ended
    · rw [filter_none absent, List.map_nil, List.append_nil] at log
      exact .kept same log ended
  | call index call execution row member held written executions ends =>
    have claims : next.claimsOf id = state.claimsOf id := by unfold State.claimsOf; rw [executions]
    have keyed : row.id = execution.job.id := Table.key_of_get (leased_iff.mp held).1
    have log : next.endsOf id = state.endsOf id ++ if execution.job.id = id then call.ends.toList else [] := by
      unfold State.endsOf
      rw [ends, List.filter_append, List.map_append, List.filter_map, List.map_map]
      by_cases own : execution.job.id = id <;> cases call.ends <;> simp [own]
    rcases store_get written id with ⟨same, present⟩ | ⟨other, same⟩
    · have own : execution.job.id = id := by rw [same, data_id, keyed]
      rw [if_pos own] at log
      exact .called index call execution row rfl member own (own ▸ held) present claims log
    · have foreign : execution.job.id ≠ id := by
        intro own
        rw [data_id, keyed] at other
        exact other own.symm
      rw [if_neg foreign, List.append_nil] at log
      exact .kept same claims log
  | release staleMs missed now written executions ends =>
    have claims : next.claimsOf id = state.claimsOf id := by unfold State.claimsOf; rw [executions]
    have log : next.endsOf id = state.endsOf id ++
        (((stale staleMs missed now state.jobs).filter fun job => job.id = id).map fun _ => .released) := by
      unfold State.endsOf
      rw [ends, List.filter_append, List.map_append, List.filter_map, List.map_map]
      rfl
    rcases storeAll_map written (fun _ => rfl) (fun job member => (stale_mem member).1) stale_nodup id with
      ⟨old, chosen, stored, present⟩ | ⟨absent, same⟩
    · have keyed : old.id = id := Table.key_of_get stored
      rw [← keyed, filter_one stale_nodup chosen, keyed] at log
      exact .released old now stored (stale_mem chosen).2 present claims log
    · rw [filter_none absent, List.map_nil, List.append_nil] at log
      exact .kept same claims log

/-- An enqueue in a transaction leaves every row that is there. -/
theorem enqueueJob_keeps {params : EnqueueParams} {uuid : String} {now : Int} {job row : AgentJob}
    (enqueued : enqueueJob params uuid now jobs = .ok (job, after)) {id : String} (stored : jobs.get id = some row) :
    after.get id = some row := by
  rcases enqueueJob_ok enqueued with ⟨rfl, -⟩ | ⟨-, written, -⟩
  · exact stored
  · obtain ⟨absent, inserted⟩ := create_ok_iff.mp written
    rcases store_get inserted id with ⟨rfl, -⟩ | ⟨-, same⟩
    · cases absent.symm.trans stored
    · rw [same, stored]

theorem step_row (taken : step state action = some next) (id : String) : RowStep state next action id :=
  (step_change taken).row id

/-- Executions are only added, behind those that are there. -/
theorem executions_grow (taken : step state action = some next) :
    ∃ more, next.executions = state.executions ++ more := by
  cases step_change taken with
  | idle _ executions => exact ⟨[], by rw [executions, List.append_nil]⟩
  | create _ _ _ executions => exact ⟨[], by rw [executions, List.append_nil]⟩
  | clear _ _ _ executions => exact ⟨[], by rw [executions, List.append_nil]⟩
  | claim _ _ _ _ _ _ _ _ _ executions => exact ⟨_, executions⟩
  | call _ _ _ _ _ _ _ executions => exact ⟨[], by rw [executions, List.append_nil]⟩
  | release _ _ _ _ executions => exact ⟨[], by rw [executions, List.append_nil]⟩

/-- The table after a step is the table before it with some rows stored. -/
theorem Change.stored (change : Change state next action) : ∃ rows, storeAll rows state.jobs = .ok next.jobs := by
  have single : ∀ {row}, store row state.jobs = .ok next.jobs → ∃ rows, storeAll rows state.jobs = .ok next.jobs :=
    fun {row} written => ⟨[row], storeAll_cons.mpr ⟨next.jobs, written, rfl⟩⟩
  cases change with
  | idle jobs => exact ⟨[], by rw [jobs]; rfl⟩
  | create row _ written => exact single (create_ok_iff.mp written).2
  | clear old _ written => exact single written
  | claim _ _ _ _ _ _ claimed _ written => exact ⟨claimed, written⟩
  | call _ call execution row _ _ written => exact single written
  | release staleMs missed now written => exact ⟨_, written⟩

end Rows

end PactAgent.Jobs
