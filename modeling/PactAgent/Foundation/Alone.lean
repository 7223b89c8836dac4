import PactAgent.Foundation.ReadCommitted

/-! A transaction that no other commit interrupts: what its body makes of the database
as it stands, its errors included, and the same of the process that runs it. -/

namespace PactAgent.Foundation
open PactAgent.Foundation.Execution

section Alone
variable {Db Write Lock Query ε α β Answer : Type} [Storage Db Write Lock]

/-- The body from its writes so far on, on a database that nobody else changes. -/
def Alone (db : Db) : Program Db Write Query ε α → List Write → Except ε (α × List Write) → Prop
  | .done value, writes, result => result = .ok (value, writes)
  | .fail error, _, result => result = .error error
  | .call _ exec onError next, writes, result =>
      ∃ now, (∃ answer more, exec now (Storage.view writes db) = .ok (answer, more) ∧
          Alone db (next answer) (writes ++ more) result) ∨
        ∃ error, exec now (Storage.view writes db) = .error error ∧ result = .error (onError error)

variable {db : Db} {writes : List Write} {result : Except ε (α × List Write)}

theorem alone_pure {value : α} :
    Alone db (pure value : Program Db Write Query ε α) writes result ↔ result = .ok (value, writes) := Iff.rfl

theorem alone_throw {error : ε} :
    Alone db (throw error : Program Db Write Query ε α) writes result ↔ result = .error error := Iff.rfl

theorem alone_ofExcept {check : Except ε α} :
    Alone db (Program.ofExcept check : Program Db Write Query ε α) writes result ↔
      result = check.map fun value => (value, writes) := by
  cases check <;> exact Iff.rfl

theorem alone_statement {query : Query} {exec : Nat → Db → Except ε (α × List Write)} :
    Alone db (Program.statement query exec) writes result ↔
      ∃ now, result = (exec now (Storage.view writes db)).map fun answer => (answer.1, writes ++ answer.2) := by
  refine exists_congr fun now => ?_
  cases executed : exec now (Storage.view writes db) with
  | ok pair =>
    constructor
    · rintro (⟨answer, more, same, rfl⟩ | ⟨_, impossible, _⟩)
      · cases same
        rfl
      · cases impossible
    · rintro rfl
      exact .inl ⟨pair.1, pair.2, rfl, rfl⟩
  | error error =>
    constructor
    · rintro (⟨_, _, impossible, _⟩ | ⟨_, same, rfl⟩)
      · cases impossible
      · cases same
        rfl
    · rintro rfl
      exact .inr ⟨error, rfl, rfl⟩

theorem alone_bind {body : Program Db Write Query ε α} {rest : α → Program Db Write Query ε β}
    {result : Except ε (β × List Write)} :
    Alone db (body >>= rest) writes result ↔
      (∃ value middle, Alone db body writes (.ok (value, middle)) ∧ Alone db (rest value) middle result) ∨
        ∃ error, Alone db body writes (.error error) ∧ result = .error error := by
  change Alone db (body.bind rest) writes result ↔ _
  induction body generalizing writes with
  | done value =>
    constructor
    · intro alone
      exact .inl ⟨value, writes, rfl, alone⟩
    · rintro (⟨_, _, same, alone⟩ | ⟨_, impossible, _⟩)
      · cases same
        exact alone
      · cases impossible
  | fail error =>
    constructor
    · intro alone
      exact .inr ⟨error, rfl, alone⟩
    · rintro (⟨_, _, impossible, _⟩ | ⟨_, same, rfl⟩)
      · cases impossible
      · cases same
        rfl
  | call query exec onError next ih =>
    constructor
    · rintro ⟨now, ⟨answer, more, executed, alone⟩ | ⟨error, executed, same⟩⟩
      · rcases (ih answer).mp alone with ⟨value, middle, first, second⟩ | ⟨error, first, same⟩
        · exact .inl ⟨value, middle, ⟨now, .inl ⟨answer, more, executed, first⟩⟩, second⟩
        · exact .inr ⟨error, ⟨now, .inl ⟨answer, more, executed, first⟩⟩, same⟩
      · exact .inr ⟨_, ⟨now, .inr ⟨error, executed, rfl⟩⟩, same⟩
    · rintro (⟨value, middle, ⟨now, ⟨answer, more, executed, first⟩ | ⟨_, _, impossible⟩⟩, second⟩ |
        ⟨error, ⟨now, ⟨answer, more, executed, first⟩ | ⟨inner, executed, thrown⟩⟩, same⟩)
      · exact ⟨now, .inl ⟨answer, more, executed, (ih answer).mpr (.inl ⟨value, middle, first, second⟩)⟩⟩
      · cases impossible
      · exact ⟨now, .inl ⟨answer, more, executed, (ih answer).mpr (.inr ⟨error, first, same⟩)⟩⟩
      · cases thrown
        exact ⟨now, .inr ⟨inner, executed, same⟩⟩

/-- Behind a check that passed. -/
theorem alone_passed {value : α} {rest : α → Program Db Write Query ε β} {result : Except ε (β × List Write)} :
    Alone db (Program.ofExcept (.ok value) >>= rest) writes result ↔ Alone db (rest value) writes result := Iff.rfl

/-- The body throws no error. -/
def Completes (db : Db) (body : Program Db Write Query ε α) (writes : List Write) : Prop :=
  ∀ error, ¬Alone db body writes (.error error)

theorem completes_pure (value : α) : Completes db (pure value : Program Db Write Query ε α) writes := by
  intro error impossible
  cases impossible

theorem completes_bind {body : Program Db Write Query ε α} {rest : α → Program Db Write Query ε β}
    (first : Completes db body writes)
    (second : ∀ value after, Alone db body writes (.ok (value, after)) → Completes db (rest value) after) :
    Completes db (body >>= rest) writes := by
  intro error alone
  rcases alone_bind.mp alone with ⟨value, after, reached, onwards⟩ | ⟨thrown, failed, _⟩
  · exact second value after reached error onwards
  · exact first thrown failed

/-- Behind a part that completes. -/
theorem Completes.bind {body : Program Db Write Query ε α} {rest : α → Program Db Write Query ε β}
    {result : Except ε (β × List Write)} (completes : Completes db body writes)
    (alone : Alone db (body >>= rest) writes result) :
    ∃ value after, Alone db body writes (.ok (value, after)) ∧ Alone db (rest value) after result := by
  rcases alone_bind.mp alone with reached | ⟨error, failed, _⟩
  · exact reached
  · exact absurd failed (completes error)

/-- What a body does alone it does among others that change nothing. -/
theorem Alone.outcome {body : Program Db Write Query ε α} {value : α} {after : List Write}
    (alone : Alone db body writes (.ok (value, after))) (log : List Query) :
    ∃ asked, Outcome (fun _ => Eq) (fun _ => True) body ⟨log, writes, db⟩ value ⟨asked, after, db⟩ := by
  induction body generalizing writes log with
  | done result =>
    cases alone
    exact ⟨log, rfl, rfl⟩
  | fail error => cases alone
  | call query exec onError next ih =>
    obtain ⟨now, ⟨answer, more, executed, alone⟩ | ⟨_, _, impossible⟩⟩ := alone
    · obtain ⟨asked, outcome⟩ := ih answer alone (log ++ [query])
      exact ⟨asked, ⟨log, writes, db⟩, now, answer, more, .refl (fun _ _ => rfl) trivial, executed, outcome⟩
    · cases impossible

end Alone

namespace ReadCommitted
variable {Db Write Lock Query ε Phase Env External Request : Type} [Storage Db Write Lock] [DecidableEq Lock]
variable {app : App Db Write Query ε Phase Env External Request}
variable {state last : State Db Write Lock Query ε Phase Env} {id : Nat} {phase : Phase}

/-- The process goes on with its open transaction, and no other one commits. -/
def Uninterrupted (id : Nat) (action : Action ε External Request) : Prop :=
  (action.process = id → (∃ now, action = .statement id now) ∨ action = .finish id) ∧
    ∀ other, action = .finish other → other = id

theorem Uninterrupted.other {action : Action ε External Request} {after : State Db Write Lock Query ε Phase Env}
    (quiet : Uninterrupted id action) (other : action.process ≠ id) (taken : step app state action = some after) :
    after.db = state.db ∧ after.processes id = state.processes id := by
  obtain ⟨new, processes, _⟩ := step_turn taken
  refine ⟨?_, by rw [processes, Function.update_of_ne (Ne.symm other)]⟩
  rw [step_db taken]
  cases action with
  | finish process => exact absurd (quiet.2 process rfl) other
  | _ => rfl

/-- A process between two transactions stays there. -/
theorem run_settled {next : Phase} {more : List (Action ε External Request)}
    (quiet : ∀ action ∈ more, Uninterrupted id action) (here : state.processes id = some ⟨next, none, true⟩)
    (ran : run (step app) state more = some last) :
    last.db = state.db ∧ last.processes id = some ⟨next, none, true⟩ := by
  induction more generalizing state with
  | nil =>
    cases ran
    exact ⟨rfl, here⟩
  | cons action more ih =>
    obtain ⟨middle, taken, ran⟩ := run_cons ran
    have head := quiet action List.mem_cons_self
    by_cases own : action.process = id
    · rcases head.1 own with ⟨now, rfl⟩ | rfl <;> simp [step, here] at taken
    · obtain ⟨db, process⟩ := head.other own taken
      obtain ⟨same, ended⟩ := ih (fun other member => quiet other (List.mem_cons_of_mem _ member))
        (process.trans here) ran
      exact ⟨same.trans db, ended⟩

/-- How an uninterrupted transaction leaves the database and its process. -/
structure Ended (app : App Db Write Query ε Phase Env External Request) (db : Db) (id : Nat) (phase : Phase)
    (result : Except ε (Phase × List Write)) (last : State Db Write Lock Query ε Phase Env) : Prop where
  db : last.db = match result with
    | .ok (_, writes) => Storage.view writes db
    | .error _ => db
  process : last.processes id = some ⟨match result with
    | .ok (next, _) => next
    | .error error => app.caught phase error, none, true⟩

theorem alone_of_session {rest : Program Db Write Query ε Phase} {log : List Query} {writes : List Write}
    {more : List (Action ε External Request)} (quiet : ∀ action ∈ more, Uninterrupted id action)
    (here : state.processes id = some ⟨phase, some ⟨rest, log, writes⟩, true⟩)
    (ran : run (step app) state more = some last) (ended : ∃ next, last.processes id = some ⟨next, none, true⟩) :
    ∃ result, Alone state.db rest writes result ∧ Ended app state.db id phase result last := by
  induction more generalizing state rest log writes with
  | nil =>
    cases ran
    obtain ⟨next, absurd⟩ := ended
    rw [here] at absurd
    cases absurd
  | cons action more ih =>
    obtain ⟨middle, taken, ran⟩ := run_cons ran
    have head := quiet action List.mem_cons_self
    have tail : ∀ other ∈ more, Uninterrupted id other := fun other member => quiet other (List.mem_cons_of_mem _ member)
    by_cases own : action.process = id
    case neg =>
      obtain ⟨db, process⟩ := head.other own taken
      have rest := ih tail (process.trans here) ran
      rwa [db] at rest
    case pos =>
      rcases head.1 own with ⟨now, rfl⟩ | rfl
      · simp only [step, here, statementStep] at taken
        cases rest with
        | done value => cases taken
        | fail error => cases taken
        | call query exec onError next =>
          dsimp only at taken
          cases executed : exec now (Storage.view writes state.db) with
          | ok pair =>
            obtain ⟨answer, added⟩ := pair
            simp only [executed] at taken
            split at taken
            next =>
              cases taken
              obtain ⟨result, alone, ends⟩ := ih tail (Function.update_self id _ state.processes) ran
              exact ⟨result, ⟨now, .inl ⟨answer, added, executed, alone⟩⟩, ends⟩
            next => cases taken
          | error error =>
            simp only [executed] at taken
            cases taken
            obtain ⟨db, process⟩ := run_settled tail (Function.update_self id _ state.processes) ran
            exact ⟨.error (onError error), ⟨now, .inr ⟨error, executed, rfl⟩⟩, db, process⟩
      · simp only [step, here, finishStep] at taken
        cases rest with
        | call query exec onError next => cases taken
        | done value =>
          cases taken
          obtain ⟨db, process⟩ := run_settled tail (Function.update_self id _ state.processes) ran
          exact ⟨.ok (value, writes), rfl, db, process⟩
        | fail error =>
          cases taken
          obtain ⟨db, process⟩ := run_settled tail (Function.update_self id _ state.processes) ran
          exact ⟨.error error, rfl, db, process⟩

/-- A transaction of a process, from its start to its end, without a commit of another one between. -/
theorem alone_of_run {body : Program Db Write Query ε Phase} {more : List (Action ε External Request)}
    (here : state.processes id = some ⟨phase, none, true⟩) (runs : app.body id phase = some body)
    (quiet : ∀ action ∈ more, Uninterrupted id action) (ran : run (step app) state (.start id :: more) = some last)
    (ended : ∃ next, last.processes id = some ⟨next, none, true⟩) :
    ∃ result, Alone state.db body [] result ∧ Ended app state.db id phase result last := by
  obtain ⟨middle, taken, ran⟩ := run_cons ran
  simp only [step, here, runs, Option.map_some, Option.some.injEq] at taken
  subst taken
  have opened : (state.setProcess id ⟨phase, some ⟨body, [], []⟩, true⟩).processes id =
      some ⟨phase, some ⟨body, [], []⟩, true⟩ := Function.update_self id _ state.processes
  have ends := alone_of_session quiet opened ran ended
  exact ends

end ReadCommitted

end PactAgent.Foundation
