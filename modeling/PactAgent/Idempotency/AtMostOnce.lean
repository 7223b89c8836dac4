import PactAgent.Foundation.Execution
import PactAgent.Idempotency.Service

/-! At most one commit under a key until its record expires. Completion addresses
the stored row by key, so this holds of the runs in which an execution commits only
while the row it reserved is still the stored one. -/

namespace PactAgent.Idempotency.AtMostOnce
open PactAgent.Common PactAgent.Foundation.Execution
open PactAgent.Idempotency.Repository PactAgent.Idempotency.Service

variable {Data : Type}

/-- A later commit under the same key comes at the expiry of the earlier record or after it. -/
def CommitsOnce (state : State Data) : Prop :=
  state.commits.Pairwise fun earlier later =>
    earlier.appKey = later.appKey → earlier.expiresAt ≤ later.committedAt

/-- Under the key some committed execution stored this data. -/
def Stored (commits : List (Commit Data)) (appKey : AppKey) (data : Data) : Prop :=
  ∃ commit ∈ commits, commit.appKey = appKey ∧ commit.data = data

/-- Whatever an execution has returned, a committed execution stored. -/
def ReturnsStored (state : State Data) : Prop :=
  ∀ id execution data, state.executions id = some execution → execution.phase = .returned data →
    Stored state.commits execution.appKey data

/-- The row that a committing execution finds is the one it reserved itself. -/
def CommitsOwnRow (state : State Data) : Action Data → Prop
  | .commit id _ => ∀ execution rowId row, state.executions id = some execution →
      execution.phase = .running rowId → state.table execution.appKey = some row → row.id = rowId
  | _ => True

def Running (state : State Data) (id rowId : Nat) : Prop :=
  ∃ execution, state.executions id = some execution ∧ execution.phase = .running rowId

/-- A completed row holds data that a commit stored. -/
def HoldsStored (commits : List (Commit Data)) (appKey : AppKey) (row : IdempotencyRow Data) : Prop :=
  row.status = .completed → ∀ body, row.responseBodyJson = some body → Stored commits appKey body.data

/-- The record of this commit is still the stored row. -/
def Kept (state : State Data) (commit : Commit Data) : Prop :=
  ∃ row, state.table commit.appKey = some row ∧ row.id = commit.rowId ∧ row.status = .completed ∧
    row.expiresAt = commit.expiresAt

structure Invariant (state : State Data) : Prop where
  rowIds : ∀ appKey row, state.table appKey = some row → row.id < state.nextId
  runningIds : ∀ id rowId, Running state id rowId → rowId < state.nextId
  commitIds : ∀ commit ∈ state.commits, commit.rowId < state.nextId
  runningDistinct : ∀ first second rowId, Running state first rowId → Running state second rowId →
    first = second
  runningUncommitted : ∀ id rowId, Running state id rowId → ∀ commit ∈ state.commits, commit.rowId ≠ rowId
  kept : ∀ commit ∈ state.commits, commit.expiresAt ≤ state.now ∨ Kept state commit
  rowsStored : ∀ appKey row, state.table appKey = some row → HoldsStored state.commits appKey row
  readStored : ∀ id execution attempt row, state.executions id = some execution →
    execution.phase = .checking attempt row → HoldsStored state.commits execution.appKey row
  returnsStored : ReturnsStored state
  commitsOnce : CommitsOnce state

/-- A table after a deletion that spares completed rows until they expire. -/
def Reduces (table after : Table Data) (now : Nat) : Prop :=
  ∀ appKey, after appKey = table appKey ∨
    (after appKey = none ∧ ∀ row, table appKey = some row → row.status = .completed → row.expiresAt ≤ now)

theorem reduces_refl (table : Table Data) (now : Nat) : Reduces table table now := fun _ => .inl rfl

private theorem filter_cases (row : Option (IdempotencyRow Data)) (keep : IdempotencyRow Data → Bool) :
    row.filter keep = row ∨ (row.filter keep = none ∧ ∀ found, row = some found → keep found = false) := by
  cases row with
  | none => exact .inl rfl
  | some found =>
    cases kept : keep found with
    | true => exact .inl (by simp [Option.filter, kept])
    | false =>
      refine .inr ⟨by simp [Option.filter, kept], ?_⟩
      intro other same
      cases same
      exact kept

theorem expired_completed {row : IdempotencyRow Data} {now : Nat} (deleted : expired row now = true)
    (completed : row.status = .completed) : row.expiresAt ≤ now := by
  simpa [expired, completed] using deleted

theorem cleanup_reduces (table : Table Data) (now : Nat) :
    Reduces table (cleanupExpiredIdempotencyKeys table now) now := by
  intro appKey
  rcases filter_cases (table appKey) (fun row => !expired row now) with same | ⟨gone, deleted⟩
  · exact .inl same
  · refine .inr ⟨gone, ?_⟩
    intro row found completed
    exact expired_completed (by simpa using deleted row found) completed

theorem deleteExpired_reduces (table : Table Data) (appKey : AppKey) (now : Nat) :
    Reduces table (deleteExpiredIdempotencyKey table appKey now) now := by
  intro other
  by_cases same : other = appKey
  · subst same
    simpa [deleteExpiredIdempotencyKey, cleanupExpiredIdempotencyKeys] using cleanup_reduces table now other
  · exact .inl (Function.update_of_ne same _ _)

theorem deletePending_reduces (table : Table Data) (appKey : AppKey) (requestHash : String) (now : Nat) :
    Reduces table (deletePendingIdempotencyKey table appKey requestHash) now := by
  intro other
  by_cases same : other = appKey
  · subst same
    rcases filter_cases (table other)
        (fun row => !(row.requestHash == requestHash && row.status = .pending)) with kept | ⟨gone, deleted⟩
    · exact .inl (by simpa [deletePendingIdempotencyKey] using kept)
    · refine .inr ⟨by simpa [deletePendingIdempotencyKey] using gone, ?_⟩
      intro row found completed
      have pending := deleted row found
      simp [completed] at pending
  · exact .inl (Function.update_of_ne same _ _)

/-- What a phase other than a running one may claim. -/
def PhaseSafe (commits : List (Commit Data)) (appKey : AppKey) : Phase Data → Prop
  | .running _ => False
  | .checking _ row => HoldsStored commits appKey row
  | .returned data => Stored commits appKey data
  | _ => True

theorem replay_safe {commits : List (Commit Data)} {appKey : AppKey} (attempt : Attempt)
    (context : IdempotencyContext) {existing : Option (IdempotencyRow Data)}
    (holds : ∀ row, existing = some row → HoldsStored commits appKey row) :
    PhaseSafe commits appKey (replay attempt context existing) := by
  cases existing with
  | none => rcases attempt with _ | ⟨error, _ | _⟩ <;> trivial
  | some row =>
    unfold replay
    dsimp only
    split_ifs with mismatch
    · trivial
    · split
      next status body completed responded stored => exact holds row rfl completed body stored
      · trivial

theorem caught_safe (commits : List (Commit Data)) (appKey : AppKey) (error : Failure) (reserved : Bool) :
    PhaseSafe commits appKey (caught error reserved : Phase Data) := by
  unfold caught
  split_ifs <;> trivial

section Preservation
variable {state : State Data}

theorem setPhase_executions {id other : Nat} {execution found : Execution Data} {phase : Phase Data}
    (present : (state.setPhase id execution phase).executions other = some found) :
    (other = id ∧ found = { execution with phase }) ∨ (other ≠ id ∧ state.executions other = some found) := by
  dsimp only [State.setPhase] at present
  by_cases same : other = id
  · subst same
    rw [Function.update_self] at present
    exact .inl ⟨rfl, (Option.some.inj present).symm⟩
  · rw [Function.update_of_ne same] at present
    exact .inr ⟨same, present⟩

theorem running_setPhase {id other rowId : Nat} {execution : Execution Data} {phase : Phase Data}
    (running : Running (state.setPhase id execution phase) other rowId) :
    (other = id ∧ phase = .running rowId) ∨ (other ≠ id ∧ Running state other rowId) := by
  obtain ⟨found, present, reached⟩ := running
  rcases setPhase_executions present with ⟨same, rfl⟩ | ⟨different, earlier⟩
  · exact .inl ⟨same, reached⟩
  · exact .inr ⟨different, found, earlier, reached⟩

/-- Deleting rows that are pending or expired keeps the invariant. -/
theorem Invariant.delete (inv : Invariant state) {table : Table Data}
    (reduces : Reduces state.table table state.now) : Invariant { state with table } := by
  have stored : ∀ appKey row, table appKey = some row → state.table appKey = some row := by
    intro appKey row found
    rcases reduces appKey with same | ⟨gone, -⟩
    · rw [← same]
      exact found
    · rw [gone] at found
      cases found
  refine { inv with rowIds := ?_, kept := ?_, rowsStored := ?_ }
  · intro appKey row found
    exact inv.rowIds appKey row (stored appKey row found)
  · intro commit member
    rcases inv.kept commit member with past | ⟨row, found, rowId, completed, expiry⟩
    · exact .inl past
    rcases reduces commit.appKey with same | ⟨-, spared⟩
    · exact .inr ⟨row, same.trans found, rowId, completed, expiry⟩
    · exact .inl (expiry ▸ spared row found completed)
  · intro appKey row found
    exact inv.rowsStored appKey row (stored appKey row found)

/-- So does moving one execution to a phase that claims no more than was stored. -/
theorem Invariant.setPhase (inv : Invariant state) {id : Nat} {execution : Execution Data}
    {phase : Phase Data} (safe : PhaseSafe state.commits execution.appKey phase) :
    Invariant (state.setPhase id execution phase) := by
  have before : ∀ other rowId, Running (state.setPhase id execution phase) other rowId →
      Running state other rowId := by
    intro other rowId running
    rcases running_setPhase running with ⟨-, same⟩ | ⟨-, earlier⟩
    · subst same
      exact safe.elim
    · exact earlier
  refine ⟨inv.rowIds, ?_, inv.commitIds, ?_, ?_, inv.kept, inv.rowsStored, ?_, ?_, inv.commitsOnce⟩
  · intro other rowId running
    exact inv.runningIds other rowId (before other rowId running)
  · intro first second rowId firstRuns secondRuns
    exact inv.runningDistinct first second rowId (before _ _ firstRuns) (before _ _ secondRuns)
  · intro other rowId running
    exact inv.runningUncommitted other rowId (before other rowId running)
  · intro other found attempt row present reading
    rcases setPhase_executions present with ⟨-, rfl⟩ | ⟨-, earlier⟩
    · subst reading
      exact safe
    · exact inv.readStored other found attempt row earlier reading
  · intro other found data present returned
    rcases setPhase_executions present with ⟨-, rfl⟩ | ⟨-, earlier⟩
    · subst returned
      exact safe
    · exact inv.returnsStored other found data earlier returned

theorem Invariant.tick (inv : Invariant state) (elapsed : Nat) :
    Invariant { state with now := state.now + elapsed } := by
  refine { inv with kept := ?_ }
  intro commit member
  rcases inv.kept commit member with past | kept
  · exact .inl (Nat.le_add_right_of_le past)
  · exact .inr kept

/-- A reservation puts a pending row with a fresh id where no row was stored. -/
theorem Invariant.reserve (inv : Invariant state) {config : IdempotencyConfig} {id : Nat}
    {execution : Execution Data} {row : IdempotencyRow Data} {table : Table Data}
    (reserved : reserveIdempotencyKey config state.table execution.appKey execution.context.requestHash
      state.nextId state.now = .ok (row, table)) :
    Invariant ({ state with table, nextId := state.nextId + 1 }.setPhase id execution (.running row.id)) := by
  unfold reserveIdempotencyKey at reserved
  cases absent : state.table execution.appKey with
  | some stored => simp only [absent] at reserved; cases reserved
  | none =>
  simp only [absent, Except.ok.injEq, Prod.mk.injEq] at reserved
  obtain ⟨made, updated⟩ := reserved
  have rowId : row.id = state.nextId := by rw [← made]
  have pending : row.status = .pending := by rw [← made]
  have rows : ∀ appKey found, table appKey = some found →
      found = row ∨ state.table appKey = some found := by
    intro appKey found present
    rw [← updated] at present
    by_cases same : appKey = execution.appKey
    · subst same
      rw [Function.update_self, made] at present
      exact .inl (Option.some.inj present).symm
    · rw [Function.update_of_ne same] at present
      exact .inr present
  refine ⟨?_, ?_, ?_, ?_, ?_, ?_, ?_, ?_, ?_, inv.commitsOnce⟩
  · intro appKey found present
    rcases rows appKey found present with rfl | earlier
    · exact rowId ▸ Nat.lt_succ_self _
    · exact Nat.lt_succ_of_lt (inv.rowIds appKey found earlier)
  · intro other otherRow running
    rcases running_setPhase running with ⟨-, same⟩ | ⟨-, earlier⟩
    · cases same
      exact rowId ▸ Nat.lt_succ_self _
    · exact Nat.lt_succ_of_lt (inv.runningIds other otherRow earlier)
  · intro commit member
    exact Nat.lt_succ_of_lt (inv.commitIds commit member)
  · intro first second otherRow firstRuns secondRuns
    rcases running_setPhase firstRuns with ⟨firstSame, firstRow⟩ | ⟨-, firstEarlier⟩ <;>
      rcases running_setPhase secondRuns with ⟨secondSame, secondRow⟩ | ⟨-, secondEarlier⟩
    · rw [firstSame, secondSame]
    · cases firstRow
      exact absurd (inv.runningIds second _ secondEarlier) (by omega)
    · cases secondRow
      exact absurd (inv.runningIds first _ firstEarlier) (by omega)
    · exact inv.runningDistinct first second otherRow firstEarlier secondEarlier
  · intro other otherRow running commit member
    rcases running_setPhase running with ⟨-, same⟩ | ⟨-, earlier⟩
    · cases same
      have bound := inv.commitIds commit member
      omega
    · exact inv.runningUncommitted other otherRow earlier commit member
  · intro commit member
    rcases inv.kept commit member with past | ⟨found, present, kept⟩
    · exact .inl past
    refine .inr ⟨found, ?_, kept⟩
    have other : commit.appKey ≠ execution.appKey := by
      intro same
      rw [same, absent] at present
      cases present
    change table commit.appKey = some found
    rw [← updated, Function.update_of_ne other]
    exact present
  · intro appKey found present completed
    rcases rows appKey found present with rfl | earlier
    · rw [pending] at completed
      cases completed
    · exact inv.rowsStored appKey found earlier completed
  · intro other found attempt read present reading
    rcases setPhase_executions present with ⟨-, rfl⟩ | ⟨-, earlier⟩
    · cases reading
    · exact inv.readStored other found attempt read earlier reading
  · intro other found data present returned
    rcases setPhase_executions present with ⟨-, rfl⟩ | ⟨-, earlier⟩
    · cases returned
    · exact inv.returnsStored other found data earlier returned

/-- Under the key of an execution that still owns the stored row every earlier record has expired. -/
theorem Invariant.earlier_expired (inv : Invariant state) {id rowId : Nat} {execution : Execution Data}
    {stored : IdempotencyRow Data} (present : state.executions id = some execution)
    (running : execution.phase = .running rowId) (found : state.table execution.appKey = some stored)
    (own : stored.id = rowId) (commit : Commit Data) (member : commit ∈ state.commits)
    (same : commit.appKey = execution.appKey) : commit.expiresAt ≤ state.now := by
  rcases inv.kept commit member with past | ⟨row, kept, rowOfCommit, -⟩
  · exact past
  rw [same, found] at kept
  cases kept
  exact absurd (rowOfCommit.symm.trans own)
    (inv.runningUncommitted id rowId ⟨execution, present, running⟩ commit member)

theorem stored_append {commits : List (Commit Data)} {appKey : AppKey} {data : Data} (commit : Commit Data)
    (stored : Stored commits appKey data) : Stored (commits ++ [commit]) appKey data := by
  obtain ⟨earlier, member, fields⟩ := stored
  exact ⟨earlier, List.mem_append_left _ member, fields⟩

/-- A commit on the own row keeps the invariant. -/
theorem Invariant.commit (inv : Invariant state) {config : IdempotencyConfig} {id rowId : Nat}
    {execution : Execution Data} {stored row : IdempotencyRow Data} {table : Table Data}
    {body : StoredBody Data} {bytes : Nat} (present : state.executions id = some execution)
    (running : execution.phase = .running rowId) (found : state.table execution.appKey = some stored)
    (own : stored.id = rowId)
    (completed : completeIdempotencyKey config state.table execution.appKey execution.context.requestHash
      execution.statusCode body bytes state.now = .ok (row, table)) :
    let commit : Commit Data := ⟨execution.appKey, id, row.id, body.data, state.now, row.expiresAt⟩
    Invariant ({ state with table, commits := state.commits ++ [commit] }.setPhase id execution
      (.returned body.data)) := by
  intro commit
  unfold completeIdempotencyKey at completed
  simp only [found, Except.ok.injEq, Prod.mk.injEq] at completed
  obtain ⟨made, updated⟩ := completed
  have sameId : row.id = stored.id := by rw [← made]
  have commitId : commit.rowId = rowId := sameId.trans own
  have status : row.status = .completed := by rw [← made]
  have stores : row.responseBodyJson = some body := by rw [← made]
  have here : table execution.appKey = some row := by
    rw [← updated, Function.update_self, made]
  have elsewhere : ∀ appKey, appKey ≠ execution.appKey → table appKey = state.table appKey := by
    intro appKey other
    rw [← updated, Function.update_of_ne other]
  have mine : Stored (state.commits ++ [commit]) execution.appKey body.data :=
    ⟨commit, List.mem_append_right _ (List.mem_singleton_self _), rfl, rfl⟩
  refine ⟨?_, ?_, ?_, ?_, ?_, ?_, ?_, ?_, ?_, ?_⟩
  · intro appKey other there
    by_cases same : appKey = execution.appKey
    · subst same
      cases here.symm.trans there
      exact sameId ▸ inv.rowIds _ stored found
    · exact inv.rowIds appKey other ((elsewhere appKey same).symm.trans there)
  · intro other otherRow runs
    rcases running_setPhase runs with ⟨-, impossible⟩ | ⟨-, earlier⟩
    · cases impossible
    · exact inv.runningIds other otherRow earlier
  · intro commit member
    rcases List.mem_append.mp member with old | new
    · exact inv.commitIds commit old
    · rw [List.mem_singleton] at new
      subst new
      exact (sameId ▸ inv.rowIds _ stored found : row.id < state.nextId)
  · intro first second otherRow firstRuns secondRuns
    rcases running_setPhase firstRuns with ⟨-, impossible⟩ | ⟨-, firstEarlier⟩
    · cases impossible
    rcases running_setPhase secondRuns with ⟨-, impossible⟩ | ⟨-, secondEarlier⟩
    · cases impossible
    exact inv.runningDistinct first second otherRow firstEarlier secondEarlier
  · intro other otherRow runs commit member
    rcases running_setPhase runs with ⟨-, impossible⟩ | ⟨different, earlier⟩
    · cases impossible
    rcases List.mem_append.mp member with old | new
    · exact inv.runningUncommitted other otherRow earlier commit old
    · rw [List.mem_singleton] at new
      subst new
      intro same
      rw [← same, commitId] at earlier
      exact different (inv.runningDistinct other id rowId earlier ⟨execution, present, running⟩)
  · intro commit member
    rcases List.mem_append.mp member with old | new
    · by_cases same : commit.appKey = execution.appKey
      · exact .inl (inv.earlier_expired present running found own commit old same)
      rcases inv.kept commit old with past | ⟨kept, there, fields⟩
      · exact .inl past
      · exact .inr ⟨kept, (elsewhere _ same).trans there, fields⟩
    · rw [List.mem_singleton] at new
      subst new
      exact .inr ⟨row, here, rfl, status, rfl⟩
  · intro appKey other there done otherBody holds
    by_cases same : appKey = execution.appKey
    · subst same
      cases here.symm.trans there
      cases stores.symm.trans holds
      exact mine
    · exact stored_append _
        (inv.rowsStored appKey other ((elsewhere appKey same).symm.trans there) done otherBody holds)
  · intro other read attempt readRow there reading done otherBody holds
    rcases setPhase_executions there with ⟨-, rfl⟩ | ⟨-, earlier⟩
    · cases reading
    · exact stored_append _ (inv.readStored other read attempt readRow earlier reading done otherBody holds)
  · intro other read data there returned
    rcases setPhase_executions there with ⟨-, rfl⟩ | ⟨-, earlier⟩
    · cases returned
      exact mine
    · exact stored_append _ (inv.returnsStored other read data earlier returned)
  · refine List.pairwise_append.mpr ⟨inv.commitsOnce, List.pairwise_singleton _ _, ?_⟩
    intro earlier old later new same
    rw [List.mem_singleton] at new
    subst new
    exact inv.earlier_expired present running found own earlier old same

end Preservation

section Runs
variable (config : IdempotencyConfig) (byteLength : StoredBody Data → Nat)

theorem proceed_invariant {state next : State Data} {id : Nat} {execution : Execution Data}
    (inv : Invariant state) (present : state.executions id = some execution)
    (taken : proceed config state id execution = some next) : Invariant next := by
  unfold proceed at taken
  cases reached : execution.phase with
  | finding attempt =>
    simp only [reached, findIdempotencyKey] at taken
    cases found : state.table execution.appKey with
    | none =>
      simp only [found, Option.some.injEq] at taken
      subst taken
      exact inv.setPhase (replay_safe attempt execution.context (fun row none => by cases none))
    | some existing =>
      simp only [found, Option.some.injEq] at taken
      subst taken
      exact inv.setPhase (inv.rowsStored _ _ found)
  | checking attempt existing =>
    simp only [reached] at taken
    have holds := inv.readStored id execution attempt existing present reached
    split_ifs at taken
    · cases taken
      exact inv.setPhase trivial
    · cases taken
      exact inv.setPhase (replay_safe attempt execution.context (fun row same => by cases same; exact holds))
  | deletingExpired attempt =>
    simp only [reached, Option.some.injEq] at taken
    subst taken
    exact (inv.delete (deleteExpired_reduces _ _ _)).setPhase trivial
  | findingAgain attempt =>
    simp only [reached, Option.some.injEq] at taken
    subst taken
    exact inv.setPhase (replay_safe attempt execution.context fun row found => inv.rowsStored _ _ found)
  | reserving =>
    simp only [reached] at taken
    split at taken
    next row table reserved =>
      cases taken
      exact inv.reserve reserved
    next error reserved =>
      cases taken
      exact inv.setPhase (caught_safe _ _ _ _)
  | clearing error =>
    simp only [reached, Option.some.injEq] at taken
    subst taken
    exact (inv.delete (deletePending_reduces _ _ _ _)).setPhase trivial
  | running rowId => simp only [reached] at taken; cases taken
  | returned data => simp only [reached] at taken; cases taken
  | failed error => simp only [reached] at taken; cases taken

theorem commitRun_invariant {state next : State Data} {id : Nat} {execution : Execution Data} {data : Data}
    (inv : Invariant state) (present : state.executions id = some execution)
    (own : CommitsOwnRow state (.commit id data))
    (taken : commitRun config byteLength state id execution data = some next) : Invariant next := by
  unfold commitRun at taken
  split at taken
  next rowId running =>
    dsimp only at taken
    split_ifs at taken
    · cases taken
      exact inv.setPhase (caught_safe _ _ _ _)
    split at taken
    next row table completed =>
      cases taken
      cases found : state.table execution.appKey with
      | none =>
        simp only [completeIdempotencyKey, found] at completed
        cases completed
      | some stored =>
        exact inv.commit present running found (own execution rowId stored present running found) completed
    next error failed =>
      cases taken
      exact inv.setPhase (caught_safe _ _ _ _)
  · cases taken

theorem failStep_invariant {state next : State Data} {id : Nat} {execution : Execution Data}
    {error : Failure} (inv : Invariant state) (taken : failStep state id execution error = some next) :
    Invariant next := by
  unfold failStep at taken
  split at taken <;> cases taken
  all_goals first
    | exact inv.setPhase trivial
    | exact inv.setPhase (caught_safe _ _ _ _)

/-- One action keeps the invariant when a committing execution owns the stored row. -/
theorem step_invariant (state : State Data) (action : Action Data) (next : State Data)
    (inv : Invariant state) (own : CommitsOwnRow state action)
    (taken : step config byteLength state action = some next) : Invariant next := by
  cases action with
  | arrive id appId context statusCode requestId =>
    dsimp only [step] at taken
    split at taken
    · cases taken
      exact inv.setPhase trivial
    · cases taken
  | proceed id =>
    obtain ⟨execution, present, taken⟩ := Option.bind_eq_some_iff.mp taken
    exact proceed_invariant config inv present taken
  | commit id data =>
    obtain ⟨execution, present, taken⟩ := Option.bind_eq_some_iff.mp taken
    exact commitRun_invariant config byteLength inv present own taken
  | fail id error =>
    obtain ⟨execution, present, taken⟩ := Option.bind_eq_some_iff.mp taken
    exact failStep_invariant inv taken
  | cleanup =>
    cases taken
    exact inv.delete (cleanup_reduces _ _)
  | tick elapsed =>
    cases taken
    exact inv.tick elapsed

theorem initial_invariant : Invariant (State.initial : State Data) := by
  have none : ∀ id rowId, ¬Running (State.initial : State Data) id rowId := by
    intro id rowId ⟨execution, present, _⟩
    cases present
  refine ⟨?_, ?_, ?_, ?_, ?_, ?_, ?_, ?_, ?_, List.Pairwise.nil⟩
  · intro appKey row found
    cases found
  · intro id rowId running
    exact absurd running (none id rowId)
  · intro commit member
    cases member
  · intro first second rowId running
    exact absurd running (none first rowId)
  · intro id rowId running
    exact absurd running (none id rowId)
  · intro commit member
    cases member
  · intro appKey row found
    cases found
  · intro id execution attempt row found
    cases found
  · intro id execution data found
    cases found

/-- In every run whose commits find the row that their own execution reserved, two
commits under one key are a retention period apart, and each execution that returns
gives back data that a commit under its key stored. -/
theorem ownRow_commitsOnce (actions : List (Action Data)) (final : State Data)
    (own : AlongRun (step config byteLength) CommitsOwnRow State.initial actions)
    (reached : run (step config byteLength) State.initial actions = some final) :
    CommitsOnce final ∧ ReturnsStored final := by
  have inv := invariant_along (step_invariant config byteLength) actions State.initial final
    initial_invariant own reached
  exact ⟨inv.commitsOnce, inv.returnsStored⟩

end Runs

section Samples

def sampleConfig : IdempotencyConfig := ⟨86400000, 120000, 262144⟩
def sampleContext : IdempotencyContext := ⟨"key", "hash"⟩
def sampleStep : State Nat → Action Nat → Option (State Nat) := step sampleConfig fun _ => 64

/-- One execution commits, a second one with the same request replays it. -/
def replayRun : List (Action Nat) :=
  [.arrive 0 "app" sampleContext 201 "first", .proceed 0, .proceed 0, .commit 0 10,
    .arrive 1 "app" sampleContext 201 "second", .proceed 1, .proceed 1]

theorem replayRun_commitsOnce :
    ∃ final, run sampleStep State.initial replayRun = some final ∧
      final.commits = [⟨⟨"app", "key"⟩, 0, 0, 10, 0, 86400000⟩] ∧
      (∃ execution, final.executions 1 = some execution ∧ execution.phase = .returned 10) ∧
      CommitsOnce final ∧ ReturnsStored final := by
  have own : AlongRun sampleStep CommitsOwnRow State.initial replayRun := by
    refine alongRun_cons rfl trivial (alongRun_cons rfl trivial (alongRun_cons rfl trivial ?_))
    refine alongRun_cons rfl ?_ (alongRun_cons rfl trivial (alongRun_cons rfl trivial
      (alongRun_cons rfl trivial trivial)))
    intro execution rowId row present running found
    cases present
    cases running
    cases found
    rfl
  refine ⟨_, rfl, rfl, ⟨_, rfl, rfl⟩, ?_⟩
  exact ownRow_commitsOnce sampleConfig (fun _ => 64) replayRun _ own rfl

/-- The first execution stalls past its processing lease; a second one takes the key over
and commits, and then the first one completes the row of the second. -/
def takeoverRun : List (Action Nat) :=
  [.arrive 0 "app" sampleContext 201 "first", .proceed 0, .proceed 0, .tick 120000,
    .arrive 1 "app" sampleContext 201 "second", .proceed 1, .proceed 1, .proceed 1, .proceed 1, .proceed 1,
    .commit 1 20, .commit 0 10]

theorem takeoverRun_commits_twice :
    ∃ final, run sampleStep State.initial takeoverRun = some final ∧
      final.commits = [⟨⟨"app", "key"⟩, 1, 1, 20, 120000, 86520000⟩,
        ⟨⟨"app", "key"⟩, 0, 1, 10, 120000, 86520000⟩] ∧ ¬CommitsOnce final := by
  refine ⟨_, rfl, rfl, ?_⟩
  intro once
  have separated := (List.pairwise_cons.mp once).1 _ (List.mem_singleton_self _) rfl
  exact absurd separated (by decide)

end Samples

end PactAgent.Idempotency.AtMostOnce
