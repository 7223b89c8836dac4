import PactAgent.Foundation.Execution
import PactAgent.Foundation.Program

/-! Processes over a database with READ COMMITTED transactions, interleaved at the
granularity of statements. A statement sees what was committed before it and the
writes of its own transaction; a write waits for the locks that another open
transaction holds; commits publish all writes of a transaction at once.

The rule at the end reduces an invariant of all runs to one obligation for each
transaction body that commits. -/

namespace PactAgent.Foundation.ReadCommitted
open PactAgent.Foundation.Execution

/-- What the processes run: transaction bodies, and steps outside the database. -/
structure App (Db Write Query ε Phase Env External Request : Type) where
  arrival : Nat → Request → Phase
  /-- The transaction that the phase runs next. -/
  body : Nat → Phase → Option (Program Db Write Query ε Phase)
  /-- Where an error of the transaction leads. -/
  caught : Phase → ε → Phase
  outside : Env → Nat → Phase → External → Option (Env × Phase)

structure Session (Db Write Query ε Phase : Type) where
  rest : Program Db Write Query ε Phase
  log : List Query
  writes : List Write

structure Process (Db Write Query ε Phase : Type) where
  phase : Phase
  session : Option (Session Db Write Query ε Phase)
  alive : Bool

structure State (Db Write Lock Query ε Phase Env : Type) where
  db : Db
  env : Env
  processes : Nat → Option (Process Db Write Query ε Phase)
  /-- The process whose open transaction holds the lock. -/
  held : Lock → Option Nat

inductive Action (ε External Request : Type) where
  | arrive (process : Nat) (request : Request)
  | start (process : Nat)
  /-- The next statement, with the clock that it reads. -/
  | statement (process : Nat) (now : Nat)
  /-- The end of the body: a commit, or the error that the body threw. -/
  | finish (process : Nat)
  /-- A timeout, a deadlock or a lost connection. -/
  | abort (process : Nat) (error : ε)
  | outside (process : Nat) (external : External)
  | crash (process : Nat)

section Step
variable {Db Write Lock Query ε Phase Env External Request : Type}

/-- A database, no process and no lock. -/
def State.initial (db : Db) (env : Env) : State Db Write Lock Query ε Phase Env :=
  ⟨db, env, fun _ => none, fun _ => none⟩

def State.setProcess (state : State Db Write Lock Query ε Phase Env) (id : Nat)
    (process : Process Db Write Query ε Phase) : State Db Write Lock Query ε Phase Env :=
  { state with processes := Function.update state.processes id (some process) }

/-- The locks without those of one process. -/
def State.releasedBy (state : State Db Write Lock Query ε Phase Env) (id : Nat) (lock : Lock) : Option Nat :=
  (state.held lock).filter fun owner => owner ≠ id

theorem State.releasedBy_other {state : State Db Write Lock Query ε Phase Env} {id other : Nat} {lock : Lock}
    (different : other ≠ id) (owner : state.held lock = some other) :
    state.releasedBy id lock = some other := by
  simp [State.releasedBy, owner, different]

/-- The process leaves its transaction, and with it all locks. -/
def State.leave (state : State Db Write Lock Query ε Phase Env) (id : Nat) (phase : Phase) :
    State Db Write Lock Query ε Phase Env :=
  { state.setProcess id ⟨phase, none, true⟩ with
    held := state.releasedBy id }

def State.crash (state : State Db Write Lock Query ε Phase Env) (id : Nat) (phase : Phase) :
    State Db Write Lock Query ε Phase Env :=
  { state.setProcess id ⟨phase, none, false⟩ with
    held := state.releasedBy id }

variable [Storage Db Write Lock] [DecidableEq Lock]

/-- The locks of the writes are free, or already those of the process. -/
def State.available (state : State Db Write Lock Query ε Phase Env) (id : Nat) (writes : List Write) : Bool :=
  writes.all fun write => (@Storage.locks Db _ _ _ write).all fun lock =>
    state.held lock == none || state.held lock == some id

def State.acquire (state : State Db Write Lock Query ε Phase Env) (id : Nat) (writes : List Write) :
    State Db Write Lock Query ε Phase Env :=
  { state with
    held := fun lock =>
      if (writes.any fun write => decide (lock ∈ @Storage.locks Db _ _ _ write)) then some id
      else state.held lock }

variable (app : App Db Write Query ε Phase Env External Request)

/-- The next statement of an open transaction; a statement waits by not being enabled. -/
def statementStep (state : State Db Write Lock Query ε Phase Env) (id now : Nat) (phase : Phase)
    (session : Session Db Write Query ε Phase) : Option (State Db Write Lock Query ε Phase Env) :=
  match session.rest with
  | .call query exec onError next =>
      match exec now (Storage.view session.writes state.db) with
      | .ok (answer, writes) =>
          if state.available id writes then
            some ((state.acquire id writes).setProcess id
              ⟨phase, some ⟨next answer, session.log ++ [query], session.writes ++ writes⟩, true⟩)
          else none
      | .error error => some (state.leave id (app.caught phase (onError error)))
  | .done _ | .fail _ => none

def finishStep (state : State Db Write Lock Query ε Phase Env) (id : Nat) (phase : Phase)
    (session : Session Db Write Query ε Phase) : Option (State Db Write Lock Query ε Phase Env) :=
  match session.rest with
  | .done next => some { state.leave id next with db := Storage.view session.writes state.db }
  | .fail error => some (state.leave id (app.caught phase error))
  | .call .. => none

def step (state : State Db Write Lock Query ε Phase Env) :
    Action ε External Request → Option (State Db Write Lock Query ε Phase Env)
  | .arrive id request =>
      match state.processes id with
      | none => some (state.setProcess id ⟨app.arrival id request, none, true⟩)
      | some _ => none
  | .start id =>
      match state.processes id with
      | some ⟨phase, none, true⟩ =>
          (app.body id phase).map fun body => state.setProcess id ⟨phase, some ⟨body, [], []⟩, true⟩
      | _ => none
  | .statement id now =>
      match state.processes id with
      | some ⟨phase, some session, true⟩ => statementStep app state id now phase session
      | _ => none
  | .finish id =>
      match state.processes id with
      | some ⟨phase, some session, true⟩ => finishStep app state id phase session
      | _ => none
  | .abort id error =>
      match state.processes id with
      | some ⟨phase, some _, true⟩ => some (state.leave id (app.caught phase error))
      | _ => none
  | .outside id external =>
      match state.processes id with
      | some ⟨phase, none, true⟩ =>
          (app.outside state.env id phase external).map fun after =>
            { state.setProcess id ⟨after.2, none, true⟩ with env := after.1 }
      | _ => none
  | .crash id =>
      match state.processes id with
      | some ⟨phase, _, true⟩ => some (state.crash id phase)
      | _ => none

/-- The writes that an action publishes: those of a transaction that commits. -/
def committed (state : State Db Write Lock Query ε Phase Env) : Action ε External Request → List Write
  | .finish id =>
      match state.processes id with
      | some ⟨_, some ⟨.done _, _, writes⟩, true⟩ => writes
      | _ => []
  | _ => []

variable {app}

/-- The database changes by the published writes alone. -/
theorem step_db {state next : State Db Write Lock Query ε Phase Env} {action : Action ε External Request}
    (taken : step app state action = some next) : next.db = Storage.view (committed state action) state.db := by
  cases action with
  | arrive id request =>
    simp only [step] at taken
    split at taken <;> cases taken
    rfl
  | start id =>
    simp only [step] at taken
    split at taken
    next => 
      obtain ⟨body, _, same⟩ := Option.map_eq_some_iff.mp taken
      rw [← same]
      rfl
    next => cases taken
  | statement id now =>
    simp only [step] at taken
    split at taken
    next phase session here =>
      unfold statementStep at taken
      split at taken
      next =>
        split at taken
        next =>
          split at taken
          next => cases taken; rfl
          next => cases taken
        next => cases taken; rfl
      next => cases taken
      next => cases taken
    next => cases taken
  | finish id =>
    simp only [step] at taken
    split at taken
    next phase session here =>
      obtain ⟨rest, log, writes⟩ := session
      unfold finishStep at taken
      cases rest with
      | done value =>
        cases taken
        simp only [committed, here]
      | fail error =>
        cases taken
        simp only [committed, here]
        rfl
      | call query exec onError next => cases taken
    next => cases taken
  | abort id error =>
    simp only [step] at taken
    split at taken <;> cases taken
    rfl
  | outside id external =>
    simp only [step] at taken
    split at taken
    next =>
      obtain ⟨after, _, same⟩ := Option.map_eq_some_iff.mp taken
      rw [← same]
      rfl
    next => cases taken
  | crash id =>
    simp only [step] at taken
    split at taken <;> cases taken
    rfl

def Action.process : Action ε External Request → Nat
  | .arrive id _ | .start id | .statement id _ | .finish id | .abort id _ | .outside id _ | .crash id => id

/-- The error that an action ends a transaction with, and the phase of the transaction. -/
def raised (state : State Db Write Lock Query ε Phase Env) : Action ε External Request → Option (Phase × ε)
  | .statement id now =>
      match state.processes id with
      | some ⟨phase, some ⟨.call _ exec onError _, _, writes⟩, true⟩ =>
          match exec now (Storage.view writes state.db) with
          | .ok _ => none
          | .error error => some (phase, onError error)
      | _ => none
  | .finish id =>
      match state.processes id with
      | some ⟨phase, some ⟨.fail error, _, _⟩, true⟩ => some (phase, error)
      | _ => none
  | .abort id error =>
      match state.processes id with
      | some ⟨phase, some _, true⟩ => some (phase, error)
      | _ => none
  | _ => none

/-- What an action makes of the process that takes it, by the kinds of actions. -/
inductive Move (app : App Db Write Query ε Phase Env External Request)
    (state : State Db Write Lock Query ε Phase Env) :
    Action ε External Request → Process Db Write Query ε Phase → Prop
  | arrive {id : Nat} {request : Request} (absent : state.processes id = none) :
      Move app state (.arrive id request) ⟨app.arrival id request, none, true⟩
  | start {id : Nat} {phase : Phase} {body : Program Db Write Query ε Phase}
      (here : state.processes id = some ⟨phase, none, true⟩) (runs : app.body id phase = some body) :
      Move app state (.start id) ⟨phase, some ⟨body, [], []⟩, true⟩
  | statement {id now : Nat} {phase : Phase} {Answer : Type} {query : Query}
      {exec : Nat → Db → Except ε (Answer × List Write)} {onError : ε → ε}
      {next : Answer → Program Db Write Query ε Phase} {log : List Query} {writes added : List Write} {answer : Answer}
      (here : state.processes id = some ⟨phase, some ⟨.call query exec onError next, log, writes⟩, true⟩)
      (executed : exec now (Storage.view writes state.db) = .ok (answer, added)) :
      Move app state (.statement id now) ⟨phase, some ⟨next answer, log ++ [query], writes ++ added⟩, true⟩
  | caught {action : Action ε External Request} {phase : Phase} {session : Session Db Write Query ε Phase}
      {error : ε} (here : state.processes action.process = some ⟨phase, some session, true⟩)
      (ended : raised state action = some (phase, error)) (nothing : committed state action = []) :
      Move app state action ⟨app.caught phase error, none, true⟩
  | outside {id : Nat} {external : External} {phase next : Phase} {env : Env}
      (here : state.processes id = some ⟨phase, none, true⟩)
      (taken : app.outside state.env id phase external = some (env, next)) :
      Move app state (.outside id external) ⟨next, none, true⟩
  | commit {id : Nat} {phase next : Phase} {log : List Query} {writes : List Write}
      (here : state.processes id = some ⟨phase, some ⟨.done next, log, writes⟩, true⟩)
      (published : committed state (.finish id : Action ε External Request) = writes) :
      Move app state (.finish id) ⟨next, none, true⟩
  | crash {id : Nat} {phase : Phase} {session : Option (Session Db Write Query ε Phase)}
      (here : state.processes id = some ⟨phase, session, true⟩) : Move app state (.crash id) ⟨phase, none, false⟩

/-- An action changes the process that takes it, and no other. -/
theorem step_move {state after : State Db Write Lock Query ε Phase Env} {action : Action ε External Request}
    (taken : step app state action = some after) :
    ∃ new, after.processes = Function.update state.processes action.process (some new) ∧
      Move app state action new := by
  cases action with
  | arrive id request =>
    simp only [step] at taken
    split at taken
    next absent =>
      cases taken
      exact ⟨_, rfl, .arrive absent⟩
    next => cases taken
  | start id =>
    simp only [step] at taken
    split at taken
    next phase here =>
      obtain ⟨body, runs, same⟩ := Option.map_eq_some_iff.mp taken
      cases same
      exact ⟨_, rfl, .start here runs⟩
    next => cases taken
  | statement id now =>
    simp only [step] at taken
    split at taken
    next phase session here =>
      obtain ⟨rest, log, writes⟩ := session
      unfold statementStep at taken
      cases rest with
      | done value => cases taken
      | fail error => cases taken
      | call query exec onError next =>
        dsimp only at taken
        cases executed : exec now (Storage.view writes state.db) with
        | ok result =>
          obtain ⟨answer, added⟩ := result
          rw [executed] at taken
          dsimp only at taken
          split at taken
          next =>
            cases taken
            exact ⟨_, rfl, .statement here executed⟩
          next => cases taken
        | error error =>
          rw [executed] at taken
          cases taken
          refine ⟨_, rfl, .caught here ?_ rfl⟩
          simp only [raised, here, executed]
    next => cases taken
  | finish id =>
    simp only [step] at taken
    split at taken
    next phase session here =>
      obtain ⟨rest, log, writes⟩ := session
      unfold finishStep at taken
      cases rest with
      | done value =>
        cases taken
        exact ⟨_, rfl, .commit here (by simp only [committed, here])⟩
      | fail error =>
        cases taken
        have nothing : committed state (.finish id : Action ε External Request) = [] := by
          simp only [committed, here]
        refine ⟨_, rfl, .caught here ?_ nothing⟩
        simp only [raised, here]
      | call query exec onError next => cases taken
    next => cases taken
  | abort id error =>
    simp only [step] at taken
    split at taken
    next phase session here =>
      cases taken
      refine ⟨_, rfl, .caught here ?_ rfl⟩
      simp only [raised, here]
    next => cases taken
  | outside id external =>
    simp only [step] at taken
    split at taken
    next phase here =>
      obtain ⟨after, result, same⟩ := Option.map_eq_some_iff.mp taken
      cases same
      exact ⟨_, rfl, .outside here result⟩
    next => cases taken
  | crash id =>
    simp only [step] at taken
    split at taken
    next phase session here =>
      cases taken
      exact ⟨_, rfl, .crash here⟩
    next => cases taken

/-- What an action makes of the process that takes it. -/
inductive Turn (app : App Db Write Query ε Phase Env External Request)
    (state : State Db Write Lock Query ε Phase Env) :
    Action ε External Request → Process Db Write Query ε Phase → Prop
  | arrive {id : Nat} {request : Request} (absent : state.processes id = none) :
      Turn app state (.arrive id request) ⟨app.arrival id request, none, true⟩
  /-- A transaction opens or goes on, or the process crashes. -/
  | work {action : Action ε External Request} {old new : Process Db Write Query ε Phase}
      (here : state.processes action.process = some old) (alive : old.alive = true)
      (same : new.phase = old.phase)
      (opened : new.session.isSome → old.session.isSome ∨ (app.body action.process old.phase).isSome)
      (nothing : committed state action = []) : Turn app state action new
  | caught {action : Action ε External Request} {phase : Phase} {session : Session Db Write Query ε Phase}
      {error : ε} (here : state.processes action.process = some ⟨phase, some session, true⟩)
      (nothing : committed state action = []) :
      Turn app state action ⟨app.caught phase error, none, true⟩
  | outside {id : Nat} {external : External} {phase next : Phase} {env : Env}
      (here : state.processes id = some ⟨phase, none, true⟩)
      (taken : app.outside state.env id phase external = some (env, next)) :
      Turn app state (.outside id external) ⟨next, none, true⟩
  | commit {id : Nat} {phase next : Phase} {log : List Query} {writes : List Write}
      (here : state.processes id = some ⟨phase, some ⟨.done next, log, writes⟩, true⟩)
      (published : committed state (.finish id : Action ε External Request) = writes) :
      Turn app state (.finish id) ⟨next, none, true⟩

/-- The moves that leave a process in its phase count as work. -/
theorem step_turn {state after : State Db Write Lock Query ε Phase Env} {action : Action ε External Request}
    (taken : step app state action = some after) :
    ∃ new, after.processes = Function.update state.processes action.process (some new) ∧
      Turn app state action new := by
  obtain ⟨new, processes, move⟩ := step_move taken
  refine ⟨new, processes, ?_⟩
  cases move with
  | arrive absent => exact .arrive absent
  | start here runs => exact .work here rfl rfl (fun _ => .inr (by simp [Action.process, runs])) rfl
  | statement here executed => exact .work here rfl rfl (fun _ => .inl rfl) rfl
  | caught here ended nothing => exact .caught here nothing
  | outside here result => exact .outside here result
  | commit here published => exact .commit here published
  | crash here => exact .work here rfl rfl (fun none => by cases none) rfl

/-- The environment changes by what happens outside the database alone. -/
theorem step_env {state after : State Db Write Lock Query ε Phase Env} {action : Action ε External Request}
    (taken : step app state action = some after) : after.env = state.env ∨ ∃ id phase external next,
      action = .outside id external ∧ state.processes id = some ⟨phase, none, true⟩ ∧
        app.outside state.env id phase external = some (after.env, next) := by
  cases action with
  | arrive id request =>
    simp only [step] at taken
    split at taken <;> cases taken
    exact .inl rfl
  | start id =>
    simp only [step] at taken
    split at taken
    next =>
      obtain ⟨body, _, same⟩ := Option.map_eq_some_iff.mp taken
      cases same
      exact .inl rfl
    next => cases taken
  | statement id now =>
    simp only [step] at taken
    split at taken
    next =>
      unfold statementStep at taken
      split at taken
      next =>
        split at taken
        next =>
          split at taken <;> cases taken
          exact .inl rfl
        next =>
          cases taken
          exact .inl rfl
      next => cases taken
      next => cases taken
    next => cases taken
  | finish id =>
    simp only [step] at taken
    split at taken
    next =>
      unfold finishStep at taken
      split at taken <;> cases taken <;> exact .inl rfl
    next => cases taken
  | abort id error =>
    simp only [step] at taken
    split at taken <;> cases taken
    exact .inl rfl
  | outside id external =>
    simp only [step] at taken
    split at taken
    next phase here =>
      obtain ⟨answered, result, same⟩ := Option.map_eq_some_iff.mp taken
      cases same
      exact .inr ⟨id, phase, external, answered.2, rfl, here, result⟩
    next => cases taken
  | crash id =>
    simp only [step] at taken
    split at taken <;> cases taken
    exact .inl rfl

/-- Others do not touch a process. -/
theorem run_others {state after : State Db Write Lock Query ε Phase Env} {id : Nat}
    {actions : List (Action ε External Request)} (others : ∀ action ∈ actions, action.process ≠ id)
    (reached : Execution.run (step app) state actions = some after) : after.processes id = state.processes id := by
  induction actions generalizing state with
  | nil =>
    cases reached
    rfl
  | cons action actions ih =>
    obtain ⟨next, taken, reached⟩ := Execution.run_cons reached
    obtain ⟨new, processes, _⟩ := step_turn taken
    rw [ih (fun other member => others other (List.mem_cons_of_mem _ member)) reached, processes]
    exact Function.update_of_ne (others action List.mem_cons_self).symm _ _

end Step

/-- What is claimed of the committed database, of each process by its phase, and
of the commits of others while a transaction is open. -/
structure Assertions (Db Query Phase Env : Type) where
  holds : Db → Prop
  knows : Nat → Env → Phase → Db → Prop
  rely : Nat → Phase → List Query → Db → Db → Prop
  rely_refl : ∀ id phase log db, rely id phase log db db
  rely_trans : ∀ id phase log first second third, rely id phase log first second →
    rely id phase log second third → rely id phase log first third

section Rule
variable {Db Write Lock Query ε Phase Env External Request : Type} [Storage Db Write Lock]
variable (app : App Db Write Query ε Phase Env External Request) (claims : Assertions Db Query Phase Env)

/-- What the transaction of a phase can count on where it starts. -/
def Initially (id : Nat) (phase : Phase) (start : Db) : Prop :=
  claims.holds start ∧ ∃ env, claims.knows id env phase start

/-- The body of the phase has run to its end with these writes, interleaved with
commits of others, and the database is the one that the commit changes. -/
def Commits (id : Nat) (phase next : Phase) (writes : List Write) (db : Db) : Prop :=
  ∃ body start last, app.body id phase = some body ∧ Initially claims id phase start ∧
    Outcome (claims.rely id phase) claims.holds body ⟨[], [], start⟩ next last ∧
      Later (claims.rely id phase) claims.holds last ⟨last.log, writes, db⟩

/-- Whatever the rest of the transaction does from here, the whole body does. -/
def Continues (id : Nat) (phase : Phase) (session : Session Db Write Query ε Phase) (db : Db) : Prop :=
  ∃ body start, app.body id phase = some body ∧ Initially claims id phase start ∧
    ∀ next middle last,
      Outcome (claims.rely id phase) claims.holds session.rest ⟨session.log, session.writes, db⟩ next middle →
      Later (claims.rely id phase) claims.holds middle last →
      ∃ middle, Outcome (claims.rely id phase) claims.holds body ⟨[], [], start⟩ next middle ∧
        Later (claims.rely id phase) claims.holds middle last

variable {app claims} {id : Nat} {phase : Phase} {db : Db}

theorem Continues.start {body : Program Db Write Query ε Phase} (runs : app.body id phase = some body)
    (initially : Initially claims id phase db) : Continues app claims id phase ⟨body, [], []⟩ db :=
  ⟨body, db, runs, initially, fun _ middle _ outcome later => ⟨middle, outcome, later⟩⟩

theorem Continues.statement {Answer : Type} {query : Query}
    {exec : Nat → Db → Except ε (Answer × List Write)} {onError : ε → ε}
    {next : Answer → Program Db Write Query ε Phase} {log : List Query} {writes added : List Write}
    {now : Nat} {answer : Answer} (good : claims.holds db)
    (continues : Continues app claims id phase ⟨.call query exec onError next, log, writes⟩ db)
    (executed : exec now (Storage.view writes db) = .ok (answer, added)) :
    Continues app claims id phase ⟨next answer, log ++ [query], writes ++ added⟩ db := by
  obtain ⟨body, start, runs, initially, whole⟩ := continues
  refine ⟨body, start, runs, initially, ?_⟩
  intro result middle last outcome later
  apply whole result middle last _ later
  exact ⟨⟨log, writes, db⟩, now, answer, added, Later.refl (claims.rely_refl id phase) good, executed, outcome⟩

/-- Commits of others between two statements go unnoticed. -/
theorem Continues.interfered {session : Session Db Write Query ε Phase} {after : Db}
    (continues : Continues app claims id phase session db)
    (later : Later (claims.rely id phase) claims.holds (⟨session.log, session.writes, db⟩ : Point Db Write Query)
      ⟨session.log, session.writes, after⟩) :
    Continues app claims id phase session after := by
  obtain ⟨body, start, runs, initially, whole⟩ := continues
  refine ⟨body, start, runs, initially, ?_⟩
  intro result middle last outcome afterwards
  obtain ⟨rest, log, writes⟩ := session
  cases rest with
  | done value =>
    obtain ⟨rfl, rfl⟩ := outcome
    exact whole _ _ last ⟨rfl, rfl⟩ (later.trans (claims.rely_trans id phase) afterwards)
  | fail error => exact outcome.elim
  | call query exec onError next =>
    obtain ⟨here, now, answer, added, earlier, executed, outcome⟩ := outcome
    apply whole result middle last _ afterwards
    exact ⟨here, now, answer, added, later.trans (claims.rely_trans id phase) earlier, executed, outcome⟩

theorem Continues.commits {next : Phase} {log : List Query} {writes : List Write} (good : claims.holds db)
    (continues : Continues app claims id phase ⟨.done next, log, writes⟩ db) :
    Commits app claims id phase next writes db := by
  obtain ⟨body, start, runs, initially, whole⟩ := continues
  obtain ⟨last, outcome, later⟩ := whole next _ _ ⟨rfl, rfl⟩ (Later.refl (claims.rely_refl id phase) good)
  have logs : log = last.log := later.log
  exact ⟨body, start, last, runs, initially, outcome, logs ▸ later⟩

variable (app claims)

/-- The claims hold, and every open transaction is on its way through its body
with the locks of its writes. -/
structure Sound (state : State Db Write Lock Query ε Phase Env) : Prop where
  holds : claims.holds state.db
  knows : ∀ id process, state.processes id = some process → process.alive = true →
    claims.knows id state.env process.phase state.db
  continues : ∀ id process session, state.processes id = some process → process.alive = true →
    process.session = some session → Continues app claims id process.phase session state.db
  locked : ∀ id process session, state.processes id = some process → process.alive = true →
    process.session = some session → ∀ write ∈ session.writes,
      ∀ lock ∈ @Storage.locks Db _ _ _ write, state.held lock = some id

/-- The obligations of the rule. The condition restricts the steps that are considered. -/
structure Preserved (condition : State Db Write Lock Query ε Phase Env → Action ε External Request → Prop) :
    Prop where
  arrive : ∀ id request env db, claims.knows id env (app.arrival id request) db
  caught : ∀ id env phase db error, claims.knows id env phase db →
    claims.knows id env (app.caught phase error) db
  outside : ∀ (state : State Db Write Lock Query ε Phase Env) id phase external env next,
    condition state (.outside id external) → claims.holds state.db →
    state.processes id = some ⟨phase, none, true⟩ → claims.knows id state.env phase state.db →
    app.outside state.env id phase external = some (env, next) →
    claims.knows id env next state.db ∧ ∀ other, other ≠ id → ∀ phase,
      claims.knows other state.env phase state.db → claims.knows other env phase state.db
  commit : ∀ (state : State Db Write Lock Query ε Phase Env) id phase next log writes,
    condition state (.finish id) → claims.holds state.db →
    state.processes id = some ⟨phase, some ⟨.done next, log, writes⟩, true⟩ →
    claims.knows id state.env phase state.db → Commits app claims id phase next writes state.db →
    claims.holds (Storage.view writes state.db) ∧
      claims.knows id state.env next (Storage.view writes state.db) ∧
      ∀ other process, other ≠ id → state.processes other = some process → process.alive = true →
        claims.knows other state.env process.phase state.db →
        claims.knows other state.env process.phase (Storage.view writes state.db) ∧
          ∀ session, process.session = some session →
            claims.rely other process.phase session.log state.db (Storage.view writes state.db)

variable {app claims} {state after : State Db Write Lock Query ε Phase Env}

/-- A step of one process keeps the claims when they hold of that process and,
on the database and the environment after it, of all others. -/
theorem Sound.replace (sound : Sound app claims state) {process : Process Db Write Query ε Phase}
    (processes : after.processes = Function.update state.processes id (some process))
    (held : ∀ lock other, other ≠ id → state.held lock = some other → after.held lock = some other)
    (holds : claims.holds after.db)
    (others : ∀ other process, other ≠ id → state.processes other = some process → process.alive = true →
      claims.knows other after.env process.phase after.db ∧
        ∀ session, process.session = some session →
          Continues app claims other process.phase session after.db)
    (mine : process.alive = true → claims.knows id after.env process.phase after.db ∧
      ∀ session, process.session = some session →
        Continues app claims id process.phase session after.db ∧
          ∀ write ∈ session.writes, ∀ lock ∈ @Storage.locks Db _ _ _ write, after.held lock = some id) :
    Sound app claims after := by
  have lookup : ∀ other found, after.processes other = some found →
      (other = id ∧ found = process) ∨ (other ≠ id ∧ state.processes other = some found) := by
    intro other found here
    rw [processes] at here
    by_cases same : other = id
    · rw [same, Function.update_self] at here
      exact .inl ⟨same, (Option.some.inj here).symm⟩
    · rw [Function.update_of_ne same] at here
      exact .inr ⟨same, here⟩
  refine ⟨holds, ?_, ?_, ?_⟩
  · intro other found here alive
    obtain ⟨rfl, rfl⟩ | ⟨different, before⟩ := lookup other found here
    · exact (mine alive).1
    · exact (others other found different before alive).1
  · intro other found session here alive opened
    obtain ⟨rfl, rfl⟩ | ⟨different, before⟩ := lookup other found here
    · exact ((mine alive).2 session opened).1
    · exact (others other found different before alive).2 session opened
  · intro other found session here alive opened write member lock locks
    obtain ⟨rfl, rfl⟩ | ⟨different, before⟩ := lookup other found here
    · exact ((mine alive).2 session opened).2 write member lock locks
    · exact held lock other different (sound.locked other found session before alive opened write member lock locks)

/-- The other processes, when neither the database nor the environment changes. -/
theorem Sound.others (sound : Sound app claims state) (sameDb : after.db = state.db)
    (sameEnv : after.env = state.env) (other : Nat) (process : Process Db Write Query ε Phase)
    (_different : other ≠ id) (here : state.processes other = some process) (alive : process.alive = true) :
    claims.knows other after.env process.phase after.db ∧
      ∀ session, process.session = some session → Continues app claims other process.phase session after.db := by
  rw [sameDb, sameEnv]
  exact ⟨sound.knows other process here alive, fun session opened =>
    sound.continues other process session here alive opened⟩

theorem Sound.leave (sound : Sound app claims state) {next : Phase}
    (known : claims.knows id state.env next state.db) : Sound app claims (state.leave id next) := by
  refine sound.replace rfl ?_ sound.holds (sound.others rfl rfl) ?_
  · intro lock other different owner
    exact State.releasedBy_other different owner
  · intro _
    exact ⟨known, fun session opened => by cases opened⟩

/-- A statement keeps the claims: it changes neither the database nor any phase. -/
theorem Sound.statement [DecidableEq Lock]
    {condition : State Db Write Lock Query ε Phase Env → Action ε External Request → Prop}
    (sound : Sound app claims state) (preserved : Preserved app claims condition) {now : Nat}
    {session : Session Db Write Query ε Phase}
    (here : state.processes id = some ⟨phase, some session, true⟩)
    (taken : statementStep app state id now phase session = some after) : Sound app claims after := by
  have continues := sound.continues id _ session here rfl rfl
  have locked := sound.locked id _ session here rfl rfl
  have known := sound.knows id _ here rfl
  obtain ⟨rest, log, writes⟩ := session
  unfold statementStep at taken
  cases rest with
  | done value => cases taken
  | fail error => cases taken
  | call query exec onError next =>
    dsimp only at taken
    cases executed : exec now (Storage.view writes state.db) with
    | error error =>
      rw [executed] at taken
      cases taken
      exact sound.leave (preserved.caught id state.env phase state.db (onError error) known)
    | ok result =>
      obtain ⟨answer, added⟩ := result
      rw [executed] at taken
      dsimp only at taken
      split at taken
      next free =>
        cases taken
        refine sound.replace rfl ?_ sound.holds (sound.others rfl rfl) ?_
        · intro lock other different owner
          have unasked : ¬(added.any fun write => decide (lock ∈ @Storage.locks Db _ _ _ write)) = true := by
            intro asked
            obtain ⟨write, member, holds⟩ := List.any_eq_true.mp asked
            have open' := List.all_eq_true.mp (List.all_eq_true.mp free write member) lock
              (of_decide_eq_true holds)
            rw [owner] at open'
            simp [different] at open'
          exact (if_neg unasked).trans owner
        · intro _
          refine ⟨known, ?_⟩
          intro session opened
          cases opened
          refine ⟨continues.statement sound.holds executed, ?_⟩
          intro write member lock locks
          change (if _ then _ else _) = _
          split
          next => rfl
          next unasked =>
            cases List.mem_append.mp member with
            | inl old => exact locked write old lock locks
            | inr new =>
              exact absurd (List.any_eq_true.mpr ⟨write, new, decide_eq_true locks⟩) unasked
      next => cases taken

theorem Sound.finish {condition : State Db Write Lock Query ε Phase Env → Action ε External Request → Prop}
    (sound : Sound app claims state) (preserved : Preserved app claims condition)
    {session : Session Db Write Query ε Phase} (met : condition state (.finish id))
    (here : state.processes id = some ⟨phase, some session, true⟩)
    (taken : finishStep app state id phase session = some after) : Sound app claims after := by
  have continues := sound.continues id _ session here rfl rfl
  have locked := sound.locked id _ session here rfl rfl
  have known := sound.knows id _ here rfl
  obtain ⟨rest, log, writes⟩ := session
  unfold finishStep at taken
  cases rest with
  | call query exec onError next => cases taken
  | fail error =>
    cases taken
    exact sound.leave (preserved.caught id state.env phase state.db error known)
  | done next =>
    cases taken
    obtain ⟨holds, mine, rest⟩ := preserved.commit state id phase next log writes met sound.holds here known
      (continues.commits sound.holds)
    refine sound.replace rfl ?_ holds ?_ (fun _ => ⟨mine, fun session opened => by cases opened⟩)
    · intro lock other different owner
      exact State.releasedBy_other different owner
    · intro other process different there alive
      obtain ⟨knows, relies⟩ := rest other process different there alive (sound.knows other process there alive)
      refine ⟨knows, ?_⟩
      intro session opened
      apply (sound.continues other process session there alive opened).interfered
      refine ⟨rfl, rfl, relies session opened, ?_, holds⟩
      intro write member lock locks
      apply Storage.agree_view
      intro mine memberMine locksMine
      have owner := locked mine memberMine lock locksMine
      rw [sound.locked other process session there alive opened write member lock locks] at owner
      exact different (Option.some.inj owner)

/-- Every step under the condition keeps the claims. -/
theorem Sound.step [DecidableEq Lock]
    {condition : State Db Write Lock Query ε Phase Env → Action ε External Request → Prop}
    (preserved : Preserved app claims condition) (action : Action ε External Request)
    (sound : Sound app claims state) (met : condition state action)
    (taken : ReadCommitted.step app state action = some after) : Sound app claims after := by
  cases action with
  | arrive id request =>
    simp only [ReadCommitted.step] at taken
    split at taken
    next =>
      cases taken
      exact sound.replace rfl (fun _ _ _ owner => owner) sound.holds (sound.others rfl rfl)
        (fun _ => ⟨preserved.arrive id request state.env state.db, fun session opened => by cases opened⟩)
    next => cases taken
  | start id =>
    simp only [ReadCommitted.step] at taken
    split at taken
    next phase here =>
      cases runs : app.body id phase with
      | none => rw [runs] at taken; cases taken
      | some body =>
        rw [runs] at taken
        cases taken
        have known := sound.knows id _ here rfl
        refine sound.replace rfl (fun _ _ _ owner => owner) sound.holds (sound.others rfl rfl) ?_
        intro _
        refine ⟨known, ?_⟩
        intro session opened
        cases opened
        exact ⟨.start runs ⟨sound.holds, _, known⟩, fun write member => by cases member⟩
    next => cases taken
  | statement id now =>
    simp only [ReadCommitted.step] at taken
    split at taken
    next phase session here => exact sound.statement preserved here taken
    next => cases taken
  | finish id =>
    simp only [ReadCommitted.step] at taken
    split at taken
    next phase session here => exact sound.finish preserved met here taken
    next => cases taken
  | abort id error =>
    simp only [ReadCommitted.step] at taken
    split at taken
    next phase session here =>
      cases taken
      exact sound.leave (preserved.caught id state.env phase state.db error (sound.knows id _ here rfl))
    next => cases taken
  | outside id external =>
    simp only [ReadCommitted.step] at taken
    split at taken
    next phase here =>
      cases result : app.outside state.env id phase external with
      | none => rw [result] at taken; cases taken
      | some pair =>
        obtain ⟨env, next⟩ := pair
        rw [result] at taken
        cases taken
        obtain ⟨mine, rest⟩ := preserved.outside state id phase external env next met sound.holds
          here (sound.knows id _ here rfl) result
        refine sound.replace rfl (fun _ _ _ owner => owner) sound.holds ?_
          (fun _ => ⟨mine, fun session opened => by cases opened⟩)
        intro other process different there alive
        exact ⟨rest other different process.phase (sound.knows other process there alive),
          fun session opened => sound.continues other process session there alive opened⟩
    next => cases taken
  | crash id =>
    simp only [ReadCommitted.step] at taken
    split at taken
    next =>
      cases taken
      refine sound.replace rfl ?_ sound.holds (sound.others rfl rfl) (fun alive => by cases alive)
      intro lock other different owner
      exact State.releasedBy_other different owner
    next => cases taken

/-- What an action publishes is what a body committed. -/
theorem Sound.committed (sound : Sound app claims state) (action : Action ε External Request) :
    ReadCommitted.committed state action = [] ∨ ∃ id phase next log writes,
      action = .finish id ∧ state.processes id = some ⟨phase, some ⟨.done next, log, writes⟩, true⟩ ∧
        ReadCommitted.committed state action = writes ∧ claims.knows id state.env phase state.db ∧
          Commits app claims id phase next writes state.db := by
  cases action with
  | finish id =>
    simp only [ReadCommitted.committed]
    split
    next phase next log writes here =>
      have known := sound.knows id _ here rfl
      have continues := sound.continues id _ _ here rfl rfl
      exact .inr ⟨id, phase, next, log, writes, rfl, here, rfl, known, continues.commits sound.holds⟩
    next => exact .inl rfl
  | _ => exact .inl rfl

theorem Sound.initial {db : Db} {env : Env} (holds : claims.holds db) :
    Sound app claims (State.initial db env : State Db Write Lock Query ε Phase Env) :=
  ⟨holds, fun _ _ here => (by cases here), fun _ _ _ here => (by cases here),
    fun _ _ _ here => (by cases here)⟩

/-- The rule: what every commit preserves holds in every state of every run. -/
theorem Sound.run [DecidableEq Lock]
    {condition : State Db Write Lock Query ε Phase Env → Action ε External Request → Prop}
    (preserved : Preserved app claims condition) {db : Db} {env : Env} (holds : claims.holds db)
    (actions : List (Action ε External Request))
    (met : AlongRun (ReadCommitted.step app) condition (State.initial db env) actions)
    (reached : Execution.run (ReadCommitted.step app) (State.initial db env) actions = some after) :
    Sound app claims after :=
  invariant_along (fun _ action _ sound met taken => sound.step preserved action met taken) actions _ after
    (Sound.initial holds) met reached

/-- The rule without a condition. -/
theorem Sound.always [DecidableEq Lock]
    (preserved : Preserved app claims
      (fun (_ : State Db Write Lock Query ε Phase Env) (_ : Action ε External Request) => True))
    {db : Db} {env : Env} (holds : claims.holds db) (actions : List (Action ε External Request))
    (reached : Execution.run (ReadCommitted.step app) (State.initial db env) actions = some after) :
    Sound app claims after :=
  Sound.run preserved holds actions (alongRun_of_forall actions _ fun _ _ => trivial) reached

/-- Claims on top of others. What the other processes keep for one may depend on which it is. -/
def Assertions.extend (base : Assertions Db Query Phase Env) (holds : Db → Prop)
    (knows : Nat → Env → Phase → Db → Prop) (kept : Nat → Db → Db → Prop) (refl : ∀ id db, kept id db db)
    (trans : ∀ id first second third, kept id first second → kept id second third → kept id first third) :
    Assertions Db Query Phase Env where
  holds db := base.holds db ∧ holds db
  knows id env phase db := base.knows id env phase db ∧ knows id env phase db
  rely id phase log before after := base.rely id phase log before after ∧ kept id before after
  rely_refl id phase log db := ⟨base.rely_refl id phase log db, refl id db⟩
  rely_trans id phase log first second third earlier later :=
    ⟨base.rely_trans id phase log first second third earlier.1 later.1, trans _ _ _ _ earlier.2 later.2⟩

section Extend
variable {base : Assertions Db Query Phase Env} {holds : Db → Prop} {knows : Nat → Env → Phase → Db → Prop}
variable {kept : Nat → Db → Db → Prop} {refl : ∀ id db, kept id db db}
variable {trans : ∀ id first second third, kept id first second → kept id second third → kept id first third}

theorem Commits.below {id : Nat} {phase next : Phase} {writes : List Write} {db : Db}
    (commits : Commits app (base.extend holds knows kept refl trans) id phase next writes db) :
    Commits app base id phase next writes db := by
  obtain ⟨body, start, last, runs, initially, outcome, later⟩ := commits
  obtain ⟨holds, env, known⟩ := initially
  exact ⟨body, start, last, runs, ⟨holds.1, env, known.1⟩,
    outcome.mono (fun _ _ _ both => both.1) (fun _ both => both.1),
    later.mono (fun _ _ _ both => both.1) (fun _ both => both.1)⟩

/-- The obligations of further claims, given those that hold already. -/
theorem Preserved.extend {weaker condition : State Db Write Lock Query ε Phase Env → Action ε External Request → Prop}
    (preserved : Preserved app base weaker) (implies : ∀ state action, condition state action → weaker state action)
    (arrive : ∀ id request env db, knows id env (app.arrival id request) db)
    (caught : ∀ id env phase db error, knows id env phase db → knows id env (app.caught phase error) db)
    (outside : ∀ (state : State Db Write Lock Query ε Phase Env) id phase external env next,
      condition state (.outside id external) → base.holds state.db → holds state.db →
      state.processes id = some ⟨phase, none, true⟩ → base.knows id state.env phase state.db → knows id state.env phase state.db →
      app.outside state.env id phase external = some (env, next) →
      knows id env next state.db ∧ ∀ other, other ≠ id → ∀ phase, knows other state.env phase state.db →
        knows other env phase state.db)
    (commit : ∀ (state : State Db Write Lock Query ε Phase Env) id phase next log writes,
      condition state (.finish id) → base.holds state.db → holds state.db →
      state.processes id = some ⟨phase, some ⟨.done next, log, writes⟩, true⟩ →
      base.knows id state.env phase state.db → knows id state.env phase state.db →
      Commits app (base.extend holds knows kept refl trans) id phase next writes state.db →
      base.holds (Storage.view writes state.db) →
      holds (Storage.view writes state.db) ∧ knows id state.env next (Storage.view writes state.db) ∧
        ∀ other process, other ≠ id → state.processes other = some process → process.alive = true →
          base.knows other state.env process.phase state.db → knows other state.env process.phase state.db →
          knows other state.env process.phase (Storage.view writes state.db) ∧
            kept other state.db (Storage.view writes state.db)) :
    Preserved app (base.extend holds knows kept refl trans) condition where
  arrive id request env db := ⟨preserved.arrive id request env db, arrive id request env db⟩
  caught id env phase db error known :=
    ⟨preserved.caught id env phase db error known.1, caught id env phase db error known.2⟩
  outside state id phase external env next met both here known taken := by
    obtain ⟨mine, others⟩ := preserved.outside state id phase external env next (implies _ _ met) both.1 here known.1
      taken
    obtain ⟨further, apart⟩ := outside state id phase external env next met both.1 both.2 here known.1 known.2 taken
    exact ⟨⟨mine, further⟩, fun other different phase known =>
      ⟨others other different phase known.1, apart other different phase known.2⟩⟩
  commit state id phase next log writes met both here known commits := by
    obtain ⟨good, mine, others⟩ := preserved.commit state id phase next log writes (implies _ _ met) both.1 here
      known.1 (Commits.below commits)
    obtain ⟨better, further, apart⟩ := commit state id phase next log writes met both.1 both.2 here known.1
      known.2 commits good
    refine ⟨⟨good, better⟩, ⟨mine, further⟩, ?_⟩
    intro other process different there alive known
    obtain ⟨known', rely⟩ := others other process different there alive known.1
    obtain ⟨further', keeps⟩ := apart other process different there alive known.1 known.2
    exact ⟨⟨known', further'⟩, fun session opened => ⟨rely session opened, keeps⟩⟩

end Extend

end Rule

section Sessions
variable {Db Write Lock Query ε Phase Env External Request : Type}
variable (app : App Db Write Query ε Phase Env External Request)
variable (keeps : Nat → Phase → Session Db Write Query ε Phase → Prop)

/-- A property of sessions that holds where a transaction opens and that its statements
keep, whatever they read. -/
structure Carried : Prop where
  start : ∀ id phase body, app.body id phase = some body → keeps id phase ⟨body, [], []⟩
  statement : ∀ id phase {Answer : Type} query (exec : Nat → Db → Except ε (Answer × List Write)) onError next
    log writes now db answer added, keeps id phase ⟨.call query exec onError next, log, writes⟩ →
    exec now db = .ok (answer, added) → keeps id phase ⟨next answer, log ++ [query], writes ++ added⟩

/-- Every open transaction has the property. -/
def Sessions (state : State Db Write Lock Query ε Phase Env) : Prop :=
  ∀ id process session, state.processes id = some process → process.session = some session →
    keeps id process.phase session

variable {app keeps} {state after : State Db Write Lock Query ε Phase Env}

theorem Sessions.replace (sessions : Sessions keeps state) {id : Nat} {process : Process Db Write Query ε Phase}
    (processes : after.processes = Function.update state.processes id (some process))
    (mine : ∀ session, process.session = some session → keeps id process.phase session) : Sessions keeps after := by
  intro other found session here opened
  rw [processes] at here
  by_cases same : other = id
  · subst same
    rw [Function.update_self] at here
    cases here
    exact mine session opened
  · rw [Function.update_of_ne same] at here
    exact sessions other found session here opened

theorem Sessions.initial {db : Db} {env : Env} :
    Sessions keeps (State.initial db env : State Db Write Lock Query ε Phase Env) := by
  intro id process session here
  cases here

variable [Storage Db Write Lock] [DecidableEq Lock]

theorem Sessions.step (carried : Carried app keeps) (action : Action ε External Request)
    (sessions : Sessions keeps state) (taken : ReadCommitted.step app state action = some after) :
    Sessions keeps after := by
  obtain ⟨new, processes, move⟩ := step_move taken
  apply sessions.replace processes
  intro session opened
  cases move with
  | start here runs =>
    cases opened
    exact carried.start _ _ _ runs
  | statement here executed =>
    cases opened
    have kept := sessions _ _ _ here rfl
    exact carried.statement _ _ _ _ _ _ _ _ _ _ _ _ kept executed
  | _ => cases opened

theorem Sessions.run (carried : Carried app keeps) {db : Db} {env : Env} {actions : List (Action ε External Request)}
    (reached : Execution.run (ReadCommitted.step app) (State.initial db env) actions = some after) :
    Sessions keeps after :=
  invariant_run (fun _ action _ sessions taken => sessions.step carried action taken) actions _ after .initial reached

/-- The transaction has made the write, or has not made the statement yet. -/
def MadeInOrder (ordered : Phase → Write → Query → Prop) (_ : Nat) (phase : Phase)
    (session : Session Db Write Query ε Phase) : Prop :=
  ∀ write query, ordered phase write query →
    write ∈ session.writes ∨ query ∉ session.log ∧ session.rest.Behind write query

/-- Where a body makes a statement only behind a write, so do its sessions. -/
theorem carried_inOrder {ordered : Phase → Write → Query → Prop}
    (bodies : ∀ id phase body, app.body id phase = some body → ∀ write query, ordered phase write query →
      body.Behind write query) : Carried app (MadeInOrder ordered) where
  start id phase body runs write query first := .inr ⟨List.not_mem_nil, bodies id phase body runs write query first⟩
  statement id phase Answer query exec onError next log writes now db answer added made executed write asked first := by
    rcases made write asked first with written | ⟨unasked, behind⟩
    · exact .inl (List.mem_append_left _ written)
    · rcases behind.2 now db answer added executed with written | onwards
      · exact .inl (List.mem_append_right _ written)
      · refine .inr ⟨?_, onwards⟩
        intro member
        rcases List.mem_append.mp member with earlier | last
        · exact unasked earlier
        · exact behind.1 (List.mem_singleton.mp last).symm

end Sessions

/-! Conditions along a given run, by evaluation. -/

section Checked
variable {Db Write Lock Query ε Phase Env External Request : Type} [Storage Db Write Lock] [DecidableEq Lock]
variable {app : App Db Write Query ε Phase Env External Request}

/-- Every action of the run passes the test, and is taken by one of the first processes. -/
def checkRun (app : App Db Write Query ε Phase Env External Request) (bound : Nat)
    (test : State Db Write Lock Query ε Phase Env → Action ε External Request → Bool) :
    State Db Write Lock Query ε Phase Env → List (Action ε External Request) → Bool
  | _, [] => true
  | state, action :: actions =>
      decide (action.process < bound) && test state action &&
        match step app state action with
        | some next => checkRun app bound test next actions
        | none => true

theorem alongRun_of_checkRun {bound : Nat}
    {test : State Db Write Lock Query ε Phase Env → Action ε External Request → Bool}
    {condition : State Db Write Lock Query ε Phase Env → Action ε External Request → Prop}
    (sound : ∀ state action, (∀ id, bound ≤ id → state.processes id = none) → test state action = true →
      condition state action)
    (actions : List (Action ε External Request)) (state : State Db Write Lock Query ε Phase Env)
    (few : ∀ id, bound ≤ id → state.processes id = none) (checked : checkRun app bound test state actions = true) :
    AlongRun (step app) condition state actions := by
  induction actions generalizing state with
  | nil => trivial
  | cons action actions ih =>
    simp only [checkRun, Bool.and_eq_true, decide_eq_true_eq] at checked
    refine ⟨sound state action few checked.1.2, ?_⟩
    intro next taken
    obtain ⟨new, processes, _⟩ := step_turn taken
    apply ih next
    · intro id large
      have other : id ≠ action.process := by omega
      rw [processes, Function.update_of_ne other]
      exact few id large
    · rw [taken] at checked
      exact checked.2

end Checked

end PactAgent.Foundation.ReadCommitted
