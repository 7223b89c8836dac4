import PactAgent.Jobs.Invariant

/-! Whose lease a call ends, and how many of a job's leases have ended in errors. The
guard of a call names the worker and not the claim. -/

namespace PactAgent.Jobs
open Foundation Execution

/-- The last of some members of a list, by its place. -/
theorem filter_getLast {α : Type} {test : α → Bool} {list : List α} {value : α}
    (last : (list.filter test).getLast? = some value) :
    ∃ index : Nat, list[index]? = some value ∧ test value = true ∧
      ∀ (further : Nat) other, index < further → list[further]? = some other → test other = false := by
  induction list using List.reverseRecOn with
  | nil => cases last
  | append_singleton list final ih =>
    by_cases passes : test final = true
    · rw [List.filter_append, List.filter_cons_of_pos passes, List.filter_nil, List.getLast?_concat] at last
      cases last
      refine ⟨list.length, by simp, passes, ?_⟩
      intro further other behind found
      have inside := (List.getElem?_eq_some_iff.mp found).1
      rw [List.length_append, List.length_singleton] at inside
      omega
    · rw [List.filter_append, List.filter_cons_of_neg passes, List.filter_nil, List.append_nil] at last
      obtain ⟨index, found, passed, unique⟩ := ih last
      have inside := (List.getElem?_eq_some_iff.mp found).1
      refine ⟨index, by rw [List.getElem?_append_left inside]; exact found, passed, ?_⟩
      intro further other behind found
      by_cases within : further < list.length
      · rw [List.getElem?_append_left within] at found
        exact unique further other behind found
      · have bound := (List.getElem?_eq_some_iff.mp found).1
        rw [List.length_append, List.length_singleton] at bound
        have place : further = list.length := by omega
        subst place
        rw [List.getElem?_concat_length] at found
        cases found
        simpa using passes

def errorsOf (state : State) (jobId : String) : Nat :=
  (state.endsOf jobId).count .failed + (state.endsOf jobId).count .released

def deferralsOf (state : State) (jobId : String) : Nat := (state.endsOf jobId).count .deferred

/-- What holds of a row, of the claims of its job and of the ends of their leases. -/
structure Accounted (state : State) : Prop where
  /-- A job that is running is leased to the worker of its last claim. -/
  held : ∀ id row, state.jobs.get id = some row → row.status = .running →
    ∃ last, (state.claimsOf id).getLast? = some last ∧ row.lockedBy = some last.workerId
  /-- A claim has returned the row of its job as it was then. -/
  given : ∀ id, ∀ execution ∈ state.claimsOf id, ∃ row, state.jobs.get id = some row ∧
    execution.job.attempts ≤ row.attempts ∧ execution.job.maxAttempts = row.maxAttempts ∧
    execution.job.kind = row.kind ∧ execution.job.payload = row.payload
  /-- Every lease but the present one has ended. -/
  balance : ∀ id row, state.jobs.get id = some row →
    row.attempts = (state.endsOf id).length + if row.status = .running then 1 else 0
  absent : ∀ id, state.jobs.get id = none → state.endsOf id = []
  completed : ∀ id row, state.jobs.get id = some row → row.status ≠ .completed →
    LeaseEnd.completed ∉ state.endsOf id

section Data
variable {row : AgentJob} (claimed : AgentJob) (call : LeaseCall)

@[simp] theorem data_maxAttempts : (call.data claimed row).maxAttempts = row.maxAttempts := by
  cases call with
  | failJob error random now =>
    by_cases dead : claimed.shouldDeadLetter = true <;> simp [LeaseCall.data, AgentJob.unlocked, dead]
  | _ => rfl

/-- A key that a call leaves on a row is the key that it found there. -/
theorem data_key {claimed : AgentJob} {call : LeaseCall} (keyed : (call.data claimed row).dedupeKey ≠ none) :
    (call.data claimed row).dedupeKey = row.dedupeKey := by
  cases call with
  | completeJob now => exact absurd rfl keyed
  | failJob error random now =>
    by_cases dead : claimed.shouldDeadLetter = true
    · simp [LeaseCall.data, dead] at keyed
    · simp [LeaseCall.data, AgentJob.unlocked, dead]
  | _ => rfl

@[simp] theorem data_kind : (call.data claimed row).kind = row.kind := by
  cases call with
  | failJob error random now =>
    by_cases dead : claimed.shouldDeadLetter = true <;> simp [LeaseCall.data, AgentJob.unlocked, dead]
  | _ => rfl

@[simp] theorem data_payload : (call.data claimed row).payload = row.payload := by
  cases call with
  | failJob error random now =>
    by_cases dead : claimed.shouldDeadLetter = true <;> simp [LeaseCall.data, AgentJob.unlocked, dead]
  | _ => rfl

/-- The call renews the lease, or it ends it and the job does not run on. -/
theorem data_lease (running : row.status = .running) :
    (call.ends = none ∧ (call.data claimed row).status = .running ∧
      (call.data claimed row).lockedBy = row.lockedBy) ∨
    ∃ ended, call.ends = some ended ∧ (call.data claimed row).status ≠ .running ∧
      (ended = .completed → (call.data claimed row).status = .completed) := by
  cases call with
  | renewJobLease leaseMs now => exact .inl ⟨rfl, running, rfl⟩
  | completeJob now => exact .inr ⟨.completed, rfl, nofun, fun _ => rfl⟩
  | deferJob delayMs now => exact .inr ⟨.deferred, rfl, nofun, nofun⟩
  | failJob error random now =>
    refine .inr ⟨.failed, rfl, ?_, nofun⟩
    by_cases dead : claimed.shouldDeadLetter = true <;> simp [LeaseCall.data, dead]

/-- A job is given up by a failing execution that was given its last attempt. -/
theorem data_dead (running : row.status = .running) (dead : (call.data claimed row).status = .deadLetter) :
    (∃ error random now, call = .failJob error random now) ∧ claimed.maxAttempts ≤ claimed.attempts := by
  cases call with
  | renewJobLease leaseMs now =>
    have same : (LeaseCall.data claimed (.renewJobLease leaseMs now) row).status = row.status := rfl
    rw [same, running] at dead
    cases dead
  | completeJob now => cases dead
  | deferJob delayMs now => cases dead
  | failJob error random now =>
    refine ⟨⟨error, random, now, rfl⟩, ?_⟩
    by_cases exhausted : claimed.shouldDeadLetter = true
    · exact of_decide_eq_true exhausted
    · simp [LeaseCall.data, exhausted] at dead

end Data

section Accounted
variable {state next : State} {action : Action}

theorem initial_accounted : Accounted initial := by
  constructor <;> intro id
  · intro row stored
    cases stored
  · intro execution member
    cases member
  · intro row stored
    cases stored
  · intro _
    rfl
  · intro row stored
    cases stored

theorem RowStep.held {id : String} (moved : RowStep state next action id) (accounted : Accounted state) (row : AgentJob)
    (stored : next.jobs.get id = some row) (running : row.status = .running) :
    ∃ last, (next.claimsOf id).getLast? = some last ∧ row.lockedBy = some last.workerId := by
  cases moved with
  | kept same claims _ => rw [claims]; exact accounted.held id row (same.symm.trans stored) running
  | created _ _ present origin _ _ =>
    cases present.symm.trans stored
    rw [origin.fresh.1] at running
    cases running
  | cleared old there written claims _ =>
    cases written.symm.trans stored
    rw [claims]
    exact accounted.held id old there running
  | claimed old workerId _ _ leaseMs _ now _ _ _ written claims _ =>
    cases written.symm.trans stored
    rw [claims, List.getLast?_concat]
    exact ⟨_, rfl, rfl⟩
  | called _ call execution old _ _ _ held written claims _ =>
    cases written.symm.trans stored
    obtain ⟨there, wasRunning, owner⟩ := leased_iff.mp held
    rcases data_lease execution.job call wasRunning with ⟨-, -, same⟩ | ⟨_, -, stopped, -⟩
    · rw [claims, same]
      exact accounted.held id old there wasRunning
    · exact absurd running stopped
  | released old now _ _ written _ _ =>
    cases written.symm.trans stored
    cases running

theorem RowStep.given {id : String} (moved : RowStep state next action id) (accounted : Accounted state)
    (execution : Execution) (member : execution ∈ next.claimsOf id) :
    ∃ row, next.jobs.get id = some row ∧ execution.job.attempts ≤ row.attempts ∧
      execution.job.maxAttempts = row.maxAttempts ∧ execution.job.kind = row.kind ∧
      execution.job.payload = row.payload := by
  cases moved with
  | kept same claims _ =>
    rw [claims] at member
    rw [same]
    exact accounted.given id execution member
  | created _ absent _ _ claims _ =>
    rw [claims] at member
    obtain ⟨row, stored, -⟩ := accounted.given id execution member
    cases absent.symm.trans stored
  | cleared old there written claims _ =>
    rw [claims] at member
    obtain ⟨row, stored, facts⟩ := accounted.given id execution member
    cases there.symm.trans stored
    exact ⟨_, written, facts⟩
  | claimed old workerId _ _ leaseMs _ now _ there _ written claims _ =>
    rw [claims, List.mem_append, List.mem_singleton] at member
    refine ⟨_, written, ?_⟩
    rcases member with before | rfl
    · obtain ⟨row, stored, fewer, bound, kind⟩ := accounted.given id execution before
      cases there.symm.trans stored
      exact ⟨Nat.le_succ_of_le fewer, bound, kind⟩
    · exact ⟨Nat.le_refl _, rfl, rfl, rfl⟩
  | called _ call caller old _ _ _ held written claims _ =>
    rw [claims] at member
    obtain ⟨row, stored, facts⟩ := accounted.given id execution member
    cases (leased_iff.mp held).1.symm.trans stored
    refine ⟨_, written, ?_⟩
    rw [data_attempts, data_maxAttempts, data_kind, data_payload]
    exact facts
  | released old now there _ written claims _ =>
    rw [claims] at member
    obtain ⟨row, stored, facts⟩ := accounted.given id execution member
    cases there.symm.trans stored
    exact ⟨_, written, facts⟩

theorem RowStep.balance {id : String} (moved : RowStep state next action id) (accounted : Accounted state)
    (row : AgentJob) (stored : next.jobs.get id = some row) :
    row.attempts = (next.endsOf id).length + if row.status = .running then 1 else 0 := by
  cases moved with
  | kept same _ ends => rw [ends]; exact accounted.balance id row (same.symm.trans stored)
  | created _ absent present origin _ ends =>
    cases present.symm.trans stored
    rw [ends, accounted.absent id absent, origin.fresh.1, origin.fresh.2]
    rfl
  | cleared old there written _ ends =>
    cases written.symm.trans stored
    rw [ends]
    exact accounted.balance id old there
  | claimed old _ _ _ _ _ _ _ there claimable written _ ends =>
    cases written.symm.trans stored
    have before := accounted.balance id old there
    have waiting : old.status ≠ .running := by
      rcases claimable.2.1 with status | status <;> (rw [status]; exact nofun)
    rw [if_neg waiting] at before
    rw [ends]
    exact congrArg (· + 1) before
  | called _ call execution old _ _ _ held written _ ends =>
    cases written.symm.trans stored
    obtain ⟨there, running, -⟩ := leased_iff.mp held
    have before := accounted.balance id old there
    rw [if_pos running] at before
    rw [ends, data_attempts, before, List.length_append]
    rcases data_lease execution.job call running with ⟨renewed, still, -⟩ | ⟨ended, finished, stopped, -⟩
    · rw [renewed, if_pos still]
      rfl
    · rw [finished, if_neg stopped]
      rfl
  | released old now there running written _ ends =>
    cases written.symm.trans stored
    have before := accounted.balance id old there
    rw [if_pos running] at before
    rw [ends, List.length_append, if_neg nofun]
    exact before

theorem RowStep.absent {id : String} (moved : RowStep state next action id) (accounted : Accounted state)
    (missing : next.jobs.get id = none) : next.endsOf id = [] := by
  cases moved with
  | kept same _ ends => rw [ends]; exact accounted.absent id (same.symm.trans missing)
  | created _ _ present _ _ _ => cases present.symm.trans missing
  | cleared _ _ written _ _ => cases written.symm.trans missing
  | claimed _ _ _ _ _ _ _ _ _ _ written _ _ => cases written.symm.trans missing
  | called _ _ _ _ _ _ _ _ written _ _ => cases written.symm.trans missing
  | released _ _ _ _ written _ _ => cases written.symm.trans missing

theorem RowStep.completed {id : String} (moved : RowStep state next action id) (accounted : Accounted state)
    (row : AgentJob) (stored : next.jobs.get id = some row) (unfinished : row.status ≠ .completed) :
    LeaseEnd.completed ∉ next.endsOf id := by
  cases moved with
  | kept same _ ends => rw [ends]; exact accounted.completed id row (same.symm.trans stored) unfinished
  | created _ absent _ _ _ ends =>
    rw [ends, accounted.absent id absent]
    exact List.not_mem_nil
  | cleared old there written _ ends =>
    cases written.symm.trans stored
    rw [ends]
    exact accounted.completed id old there unfinished
  | claimed old _ _ _ _ _ _ _ there claimable _ _ ends =>
    rw [ends]
    refine accounted.completed id old there ?_
    rcases claimable.2.1 with status | status <;> (rw [status]; exact nofun)
  | called _ call execution old _ _ _ held written _ ends =>
    cases written.symm.trans stored
    obtain ⟨there, running, -⟩ := leased_iff.mp held
    have before := accounted.completed id old there (by rw [running]; exact nofun)
    rw [ends, List.mem_append, not_or]
    refine ⟨before, ?_⟩
    rcases data_lease execution.job call running with ⟨renewed, -, -⟩ | ⟨ended, finished, -, completes⟩
    · rw [renewed]
      exact List.not_mem_nil
    · rw [finished, Option.toList_some, List.mem_singleton]
      exact fun same => unfinished (completes same.symm)
  | released old now there running _ _ ends =>
    have before := accounted.completed id old there (by rw [running]; exact nofun)
    rw [ends, List.mem_append, not_or, List.mem_singleton]
    exact ⟨before, nofun⟩

/-- The account is kept by whatever moves each row in one of the ways of the queue. -/
theorem Accounted.moved (accounted : Accounted state) (moved : ∀ id, ∃ action, RowStep state next action id) :
    Accounted next where
  held id := by
    obtain ⟨action, move⟩ := moved id
    exact move.held accounted
  given id := by
    obtain ⟨action, move⟩ := moved id
    exact move.given accounted
  balance id := by
    obtain ⟨action, move⟩ := moved id
    exact move.balance accounted
  absent id := by
    obtain ⟨action, move⟩ := moved id
    exact move.absent accounted
  completed id := by
    obtain ⟨action, move⟩ := moved id
    exact move.completed accounted

theorem step_accounted (state : State) (action : Action) (next : State) (accounted : Accounted state)
    (taken : step state action = some next) : Accounted next :=
  accounted.moved fun id => ⟨action, step_row taken id⟩

end Accounted

theorem run_accounted {state : State} {actions : List Action} (reached : run step initial actions = some state) :
    Accounted state :=
  invariant_run step_accounted actions initial state initial_accounted reached

/-- Another claim of an execution's job has happened since its own. -/
def State.claimedSince (state : State) (index : Nat) (execution : Execution) : Prop :=
  ∃ later other, index < later ∧ state.executions[later]? = some other ∧ other.job.id = execution.job.id

/-- The call of an execution finds the row that it asks for and changes it. -/
def State.changes (state : State) (execution : Execution) (call : LeaseCall) : Prop :=
  ∃ jobs, execution.call call state.jobs = .ok jobs

/-- The job is running again, and its last claim is a later one under the same worker id. -/
def State.heldAgain (state : State) (index : Nat) (execution : Execution) : Prop :=
  ∃ row later last, state.jobs.get execution.job.id = some row ∧ row.status = .running ∧
    index < later ∧ state.executions[later]? = some last ∧ last.job.id = execution.job.id ∧
    last.workerId = execution.workerId ∧
    ∀ (further : Nat) other, later < further → state.executions[further]? = some other →
      other.job.id ≠ execution.job.id

section Guard
variable {state : State} {execution : Execution}

/-- The row that a call finds is changed: no constraint stands against it. -/
theorem changes_iff (lawful : Lawful state.jobs) (call : LeaseCall) : state.changes execution call ↔
      ∃ row, leased execution.job.id execution.workerId state.jobs = some row := by
  constructor
  · rintro ⟨jobs, answered⟩
    obtain ⟨row, held, -⟩ := call_ok_iff.mp answered
    exact ⟨row, held⟩
  · rintro ⟨row, held⟩
    obtain ⟨stored, running, -⟩ := leased_iff.mp held
    have member := Table.mem_of_get stored
    refine ⟨state.jobs.put (call.data execution.job row), call_ok_iff.mpr ⟨row, held, store_ok_iff.mpr
      ⟨data_consistent _ call running (lawful.lease row member), ?_, ?_, rfl⟩⟩⟩
    · rw [data_attempts]
      exact lawful.range row member
    · unfold keyTaken
      rw [data_id, Bool.and_eq_false_iff]
      by_cases keyed : (call.data execution.job row).dedupeKey = none
      · exact .inl (by rw [keyed]; rfl)
      · right
        rw [List.any_eq_false]
        intro other otherIn
        simp only [Bool.and_eq_true, decide_eq_true_eq, not_and]
        intro different same
        have kept := data_key keyed
        rw [kept] at same keyed
        exact different (lawful.keys other otherIn row member (same ▸ keyed) same)

/-- The last claim of a job that is running, by its place among all claims. -/
theorem lastClaim (accounted : Accounted state) {id : String} {row : AgentJob} (stored : state.jobs.get id = some row)
    (running : row.status = .running) :
    ∃ (index : Nat) (last : Execution), state.executions[index]? = some last ∧ last.job.id = id ∧
      row.lockedBy = some last.workerId ∧
      ∀ (further : Nat) other, index < further → state.executions[further]? = some other → other.job.id ≠ id := by
  obtain ⟨last, final, owner⟩ := accounted.held id row stored running
  obtain ⟨index, found, own, behind⟩ := filter_getLast final
  refine ⟨index, last, found, of_decide_eq_true own, owner, ?_⟩
  intro further other later there
  exact of_decide_eq_false (behind further other later there)

end Guard

/-- A call of an execution changes its job's row only if the job has not been claimed since,
unless its worker holds the job by a later claim. -/
theorem call_owns_lease (actions : List Action) (state : State) (reached : run step initial actions = some state)
    (index : Nat) (execution : Execution) (claimed : state.executions[index]? = some execution) (call : LeaseCall) :
    (state.changes execution call → ¬state.claimedSince index execution) ↔ ¬state.heldAgain index execution := by
  have lawful := (run_consistent reached).lawful
  have accounted := run_accounted reached
  constructor
  · rintro owns ⟨row, later, last, stored, running, after, there, same, worker, final⟩
    obtain ⟨place, holder, found, own, owner, unique⟩ := lastClaim accounted stored running
    have together : place = later := by
      rcases Nat.lt_trichotomy place later with before | equal | behind
      · exact absurd same (unique later last before there)
      · exact equal
      · exact absurd own (final place holder behind found)
    subst together
    cases there.symm.trans found
    refine owns ((changes_iff lawful call).mpr ⟨row, leased_iff.mpr ⟨stored, running, ?_⟩⟩) ⟨place, last, after, there, same⟩
    rw [owner, worker]
  · rintro alone changed ⟨later, other, after, there, same⟩
    obtain ⟨row, held⟩ := (changes_iff lawful call).mp changed
    obtain ⟨stored, running, owner⟩ := leased_iff.mp held
    obtain ⟨place, last, found, own, lastOwner, unique⟩ := lastClaim accounted stored running
    have behind : later ≤ place := by
      by_contra before
      exact unique later other (by omega) there same
    exact alone ⟨row, place, last, stored, running, by omega, found, own,
      Option.some.inj (lastOwner.symm.trans owner), unique⟩

theorem keyedRun_owns : ∃ state execution, run step initial keyedRun = some state ∧
    state.executions[0]? = some execution ∧ execution.workerId = "first" ∧
    ((state.changes execution (.completeJob 60005) → ¬state.claimedSince 0 execution) ↔ ¬state.heldAgain 0 execution) := by
  have observed : (run step initial keyedRun).map (fun state => (state.executions[0]?).map Execution.workerId) =
      some (some "first") := by
    decide +kernel
  obtain ⟨state, reached, seen⟩ := Option.map_eq_some_iff.mp observed
  obtain ⟨execution, found, worker⟩ := Option.map_eq_some_iff.mp seen
  exact ⟨state, execution, reached, found, worker,
    call_owns_lease keyedRun state reached 0 execution found (.completeJob 60005)⟩

/-- A job whose lease runs out under one worker id and that the same worker id claims again. -/
def reclaimedRun : List Action :=
  [.enqueueJob { appId := "app", kind := .deliverWebhook }, .advance 0 "" 0, .advance 0 "job" 0,
    .claimAvailableJobs "embedded-worker:1" [.webhook] 10 60000 [] 0, .releaseStaleLocks 60000 [] 60001,
    .claimAvailableJobs "embedded-worker:1" [.webhook] 10 60000 [] 60001]

/-- The first execution then completes the job under the lease of the second. -/
theorem reclaimed_completed : ¬∀ (actions : List Action) (state : State), run step initial actions = some state →
    ∀ (index : Nat) (execution : Execution), state.executions[index]? = some execution →
      ∀ call, state.changes execution call → ¬state.claimedSince index execution := by
  have observed : (run step initial reclaimedRun).map (fun state =>
      (state.executions.map fun execution => execution.job.id,
        state.executions.map fun execution => (execution.call (.completeJob 70000) state.jobs).toBool)) =
      some (["job", "job"], [true, true]) := by
    decide +kernel
  intro owns
  obtain ⟨state, reached, seen⟩ := Option.map_eq_some_iff.mp observed
  obtain ⟨jobs, answers⟩ := Prod.mk.inj seen
  obtain ⟨first, second, both⟩ : ∃ first second, state.executions = [first, second] := by
    rw [List.map_eq_cons_iff] at jobs
    obtain ⟨first, rest, both, -, rest'⟩ := jobs
    rw [List.map_eq_cons_iff] at rest'
    obtain ⟨second, none', rfl, -, empty⟩ := rest'
    rw [List.map_eq_nil_iff] at empty
    exact ⟨first, second, by rw [both, empty]⟩
  rw [both] at jobs answers
  simp only [List.map_cons, List.map_nil, List.cons.injEq, and_true] at jobs answers
  refine owns reclaimedRun state reached 0 first (by rw [both]; rfl) (.completeJob 70000) ?_
    ⟨1, second, by omega, by rw [both]; rfl, jobs.2.trans jobs.1.symm⟩
  cases result : first.call (.completeJob 70000) state.jobs with
  | ok jobs => exact ⟨jobs, result⟩
  | error failure =>
    rw [result] at answers
    exact Bool.noConfusion answers.1

/-- The failing call of an execution that was given its last attempt finds the job deferred
at most as often as its attempts exceed the allowed ones. -/
def withinBudget (state : State) : Action → Prop
  | .leaseCall index (.failJob ..) =>
      ∀ execution row, state.executions[index]? = some execution →
        leased execution.job.id execution.workerId state.jobs = some row →
        row.kind = .ckbReconcileTransaction → row.maxAttempts ≤ execution.job.attempts →
        row.maxAttempts + deferralsOf state row.id ≤ row.attempts
  | _ => True

/-- A reconciliation job is given up only after as many errors as it has attempts. -/
def Persistent (state : State) : Prop :=
  ∀ job ∈ state.jobs, job.kind = .ckbReconcileTransaction → job.status = .deadLetter →
    job.maxAttempts ≤ errorsOf state job.id

section Budget
variable {state next : State} {action : Action}

theorem count_ends (ends : List LeaseEnd) (none' : LeaseEnd.completed ∉ ends) :
    ends.count .failed + ends.count .released + ends.count .deferred = ends.length := by
  induction ends with
  | nil => rfl
  | cons first ends ih =>
    rw [List.mem_cons, not_or] at none'
    have rest := ih none'.2
    cases first with
    | completed => exact absurd rfl none'.1
    | _ => simp only [List.count_cons, List.length_cons]; simp; omega

theorem errorsOf_append {id : String} {more : List LeaseEnd} (ends : next.endsOf id = state.endsOf id ++ more) :
    errorsOf next id = errorsOf state id + (more.count .failed + more.count .released) := by
  unfold errorsOf
  rw [ends, List.count_append, List.count_append]
  omega

theorem step_persistent (accounted : Accounted state) (persistent : Persistent state) (met : withinBudget state action)
    (taken : step state action = some next) : Persistent next := by
  intro job member kind dead
  have stored := Table.get_of_mem member
  rw [key_job] at stored
  cases step_row taken job.id with
  | kept same _ ends =>
    unfold errorsOf
    rw [ends]
    exact persistent job (Table.mem_of_get (same.symm.trans stored)) kind dead
  | created _ _ present origin _ _ =>
    cases present.symm.trans stored
    rw [origin.fresh.1] at dead
    cases dead
  | cleared old there written _ ends =>
    have same : job = { old with dedupeKey := none } := Option.some.inj (stored.symm.trans written)
    have before := persistent old (Table.mem_of_get there) (by rw [same] at kind; exact kind)
      (by rw [same] at dead; exact dead)
    unfold errorsOf at before ⊢
    rw [ends]
    rw [same]
    exact before
  | claimed old _ _ _ _ _ _ _ _ _ written _ _ =>
    rw [Option.some.inj (stored.symm.trans written)] at dead
    cases dead
  | called index call execution row taken member own held written _ ends =>
    obtain ⟨there, running, owner⟩ := leased_iff.mp held
    have same : job = call.data execution.job row := Option.some.inj (stored.symm.trans written)
    have keyed : row.id = job.id := Table.key_of_get there
    rw [same] at dead kind
    rw [data_kind] at kind
    obtain ⟨⟨error, random, now, rfl⟩, exhausted⟩ := data_dead _ _ running dead
    have inClaims : execution ∈ state.claimsOf job.id :=
      List.mem_filter.mpr ⟨List.mem_of_getElem? member, by simpa using own⟩
    obtain ⟨row', there', -, bound, -, -⟩ := accounted.given job.id execution inClaims
    cases there.symm.trans there'
    subst taken
    have budget := met execution row member (own ▸ held) kind (bound ▸ exhausted)
    have balance := accounted.balance job.id row there
    rw [if_pos running] at balance
    have total := count_ends (state.endsOf job.id)
      (accounted.completed job.id row there (by rw [running]; exact nofun))
    have errors := errorsOf_append ends
    have one : (LeaseCall.failJob error random now).ends.toList.count .failed +
        (LeaseCall.failJob error random now).ends.toList.count .released = 1 := rfl
    have size : job.maxAttempts = row.maxAttempts := by rw [same, data_maxAttempts]
    rw [keyed] at budget
    unfold deferralsOf at budget
    unfold errorsOf at errors ⊢
    omega
  | released old now _ _ written _ _ =>
    rw [Option.some.inj (stored.symm.trans written)] at dead
    cases dead

/-- A call that an execution makes over its budget gives its job up too early. -/
theorem step_overspent (consistent : Consistent state) (accounted : Accounted state)
    (kept : ∀ next, step state action = some next → Persistent next) : withinBudget state action := by
  cases action with
  | leaseCall index call =>
    cases call with
    | failJob error random now =>
      intro execution row member held kind exhausted
      obtain ⟨there, running, -⟩ := leased_iff.mp held
      have keyed : row.id = execution.job.id := Table.key_of_get there
      obtain ⟨jobs, answered⟩ := (changes_iff consistent.lawful (.failJob error random now)).mpr ⟨row, held⟩
      obtain ⟨row', held', written⟩ := call_ok_iff.mp answered
      cases held.symm.trans held'
      have inClaims : execution ∈ state.claimsOf execution.job.id :=
        List.mem_filter.mpr ⟨List.mem_of_getElem? member, by simp⟩
      obtain ⟨row', there', -, bound, -, -⟩ := accounted.given execution.job.id execution inClaims
      cases there.symm.trans there'
      have dead : execution.job.shouldDeadLetter = true := decide_eq_true (bound.symm ▸ exhausted)
      have taken : step state (.leaseCall index (.failJob error random now)) =
          some { state with jobs := jobs, ends := state.ends ++ [(execution.job.id, .failed)] } := by
        unfold step perform
        simp only [member, answered]
        rfl
      have stored : jobs.get row.id = some (LeaseCall.data execution.job (.failJob error random now) row) := by
        rcases store_get written row.id with ⟨-, found⟩ | ⟨other, -⟩
        · exact found
        · exact absurd (data_id _ _ _).symm other
      have enough := kept _ taken _ (Table.mem_of_get stored) ((data_kind _ _).trans kind)
        (by simp [LeaseCall.data, dead])
      have errors : errorsOf { state with jobs := jobs, ends := state.ends ++ [(execution.job.id, .failed)] } row.id =
          errorsOf state row.id + ([LeaseEnd.failed].count .failed + [LeaseEnd.failed].count .released) :=
        errorsOf_append (by unfold State.endsOf; simp [keyed])
      have one : [LeaseEnd.failed].count .failed + [LeaseEnd.failed].count .released = 1 := rfl
      have balance := accounted.balance execution.job.id row there
      rw [if_pos running, ← keyed] at balance
      have total := count_ends (state.endsOf row.id)
        (keyed ▸ accounted.completed execution.job.id row there (by simp [running]))
      rw [data_id, data_maxAttempts] at enough
      unfold deferralsOf
      unfold errorsOf at errors enough
      omega
    | _ => trivial
  | _ => trivial

end Budget

/-- Along a run a reconciliation job is given up only after as many errors as it has
attempts, exactly when no execution that was given the last attempt fails after too many
deferrals. -/
theorem given_up_after_errors (actions : List Action) :
    AlongRun step (fun state action => ∀ next, step state action = some next → Persistent next) initial actions ↔
      AlongRun step withinBudget initial actions := by
  have along : ∀ (actions : List Action) (state : State), Consistent state → Accounted state → Persistent state →
      (AlongRun step (fun state action => ∀ next, step state action = some next → Persistent next) state actions ↔
        AlongRun step withinBudget state actions) := by
    intro actions
    induction actions with
    | nil => exact fun _ _ _ _ => Iff.rfl
    | cons action actions ih =>
      intro state consistent accounted persistent
      have rest : ∀ next, step state action = some next → Persistent next →
          (AlongRun step (fun state action => ∀ next, step state action = some next → Persistent next) next actions ↔
            AlongRun step withinBudget next actions) := fun next taken kept =>
        ih next (step_consistent state action next consistent taken) (step_accounted state action next accounted taken) kept
      constructor
      · rintro ⟨kept, onwards⟩
        exact ⟨step_overspent consistent accounted kept, fun next taken => (rest next taken (kept next taken)).mp (onwards next taken)⟩
      · rintro ⟨met, onwards⟩
        have kept : ∀ next, step state action = some next → Persistent next :=
          fun next taken => step_persistent accounted persistent met taken
        exact ⟨kept, fun next taken => (rest next taken (kept next taken)).mpr (onwards next taken)⟩
  exact along actions initial initial_consistent initial_accounted
    fun job member => absurd member (Table.not_mem_empty job)

/-- A reconciliation job as `enqueueCkbReconciliation` makes it, polled 99 times while its
transaction is pending, and then one error. -/
def polledRun : List Action :=
  let params : EnqueueParams :=
    { appId := "app", kind := .ckbReconcileTransaction, payload := some { transactionId := some "transaction" }
      maxAttempts := some 100, dedupeKey := some "CKB_RECONCILE_TRANSACTION:transaction" }
  [.enqueueInTransaction params "job" 0] ++
    (List.range 99).flatMap (fun poll => [.claimAvailableJobs "worker" [.settlement] 1 60000 [] (poll * 5000),
      .leaseCall poll (.deferJob 5000 (poll * 5000))]) ++
    [.claimAvailableJobs "worker" [.settlement] 1 60000 [] (99 * 5000),
      .leaseCall 99 (.failJob "RPC error" 0 (99 * 5000))]

/-- The one error abandons the job. -/
theorem polled_given_up : ¬∀ (actions : List Action) (state : State), run step initial actions = some state →
    Persistent state := by
  have observed : (run step initial polledRun).map (fun state =>
      state.jobs.rows.map fun job => (job.kind, job.status, job.maxAttempts, errorsOf state job.id)) =
      some [(.ckbReconcileTransaction, .deadLetter, 100, 1)] := by
    decide +kernel
  intro persistent
  obtain ⟨state, reached, seen⟩ := Option.map_eq_some_iff.mp observed
  rw [List.map_eq_cons_iff] at seen
  obtain ⟨job, rest, rows, facts, -⟩ := seen
  simp only [Prod.mk.injEq] at facts
  have enough := persistent polledRun state reached job (by rw [Table.mem_def, rows]; exact List.mem_cons_self)
    facts.1 facts.2.1
  omega

end PactAgent.Jobs
