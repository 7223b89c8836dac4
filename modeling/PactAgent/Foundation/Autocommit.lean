import PactAgent.Foundation.Knowledge

/-! Programs that run next to each other and whose statements commit one by one: no
transaction holds the statements of a program together. What a program has learned by its
reads lasts as far as the statements of the others keep it. -/

namespace PactAgent.Foundation.Autocommit
open PactAgent.Foundation.Execution

structure Process (Request Db Write Query ε α : Type) where
  request : Request
  rest : Program Db Write Query ε α

structure State (Request Db Write Query ε α : Type) where
  db : Db
  processes : Nat → Option (Process Request Db Write Query ε α)

inductive Action (Request ε : Type)
  | arrive (id : Nat) (request : Request)
  /-- The clock, or what else comes from outside, is given with the statement. -/
  | statement (id given : Nat)
  /-- The statement fails at the database, or the process ends before it. -/
  | abort (id : Nat) (error : ε)

def Action.process {Request ε : Type} : Action Request ε → Nat
  | .arrive id _ | .statement id _ | .abort id _ => id

/-- The requests that arrive by the actions. -/
def arrivals {Request ε : Type} (actions : List (Action Request ε)) : List (Nat × Request) :=
  actions.filterMap fun action =>
    match action with
    | .arrive id request => some (id, request)
    | _ => none

theorem mem_arrivals {Request ε : Type} {actions : List (Action Request ε)} {id : Nat} {request : Request}
    (member : .arrive id request ∈ actions) : (id, request) ∈ arrivals actions :=
  List.mem_filterMap.mpr ⟨_, member, rfl⟩

section System
variable {Db Write Lock Query ε α Request : Type} [Storage Db Write Lock]

def State.start (db : Db) : State Request Db Write Query ε α := ⟨db, fun _ => none⟩

def State.put (state : State Request Db Write Query ε α) (writes : List Write) (id : Nat)
    (process : Process Request Db Write Query ε α) : State Request Db Write Query ε α :=
  ⟨Storage.view writes state.db, Function.update state.processes id (some process)⟩

/-- The requests that have arrived. -/
def State.requests (state : State Request Db Write Query ε α) (id : Nat) : Option Request :=
  (state.processes id).map (·.request)

@[simp] theorem put_self (state : State Request Db Write Query ε α) (writes : List Write) (id : Nat)
    (process : Process Request Db Write Query ε α) : (state.put writes id process).processes id = some process :=
  Function.update_self ..

theorem put_of_ne (state : State Request Db Write Query ε α) (writes : List Write) {id other : Nat}
    (process : Process Request Db Write Query ε α) (different : other ≠ id) :
    (state.put writes id process).processes other = state.processes other :=
  Function.update_of_ne different ..

/-- What has been answered to a request. -/
def State.answer (state : State Request Db Write Query ε α) (id : Nat) : Option (Request × α) :=
  match state.processes id with
  | some ⟨request, .done value⟩ => some (request, value)
  | _ => none

theorem answer_some {state : State Request Db Write Query ε α} {id : Nat} {request : Request} {value : α}
    (answered : state.answer id = some (request, value)) : state.processes id = some ⟨request, .done value⟩ := by
  unfold State.answer at answered
  split at answered
  next here =>
    cases answered
    exact here
  next => cases answered

variable (program : Request → Program Db Write Query ε α)

def step (state : State Request Db Write Query ε α) :
    Action Request ε → Option (State Request Db Write Query ε α)
  | .arrive id request =>
      match state.processes id with
      | some _ => none
      | none => some (state.put [] id ⟨request, program request⟩)
  | .statement id given =>
      match state.processes id with
      | some ⟨request, .call _ exec onError next⟩ =>
          match exec given state.db with
          | .ok (answer, writes) => some (state.put writes id ⟨request, next answer⟩)
          | .error error => some (state.put [] id ⟨request, .fail (onError error)⟩)
      | _ => none
  | .abort id error =>
      match state.processes id with
      | some ⟨request, .call _ _ onError _⟩ => some (state.put [] id ⟨request, .fail (onError error)⟩)
      | _ => none

/-- What a step is. -/
inductive Move (state : State Request Db Write Query ε α) : Action Request ε → State Request Db Write Query ε α → Prop
  | arrive {id : Nat} {request : Request} (absent : state.processes id = none) :
      Move state (.arrive id request) (state.put [] id ⟨request, program request⟩)
  | statement {id given : Nat} {request : Request} {Answer : Type} {query : Query}
      {exec : Nat → Db → Except ε (Answer × List Write)} {onError : ε → ε} {next : Answer → Program Db Write Query ε α}
      {answer : Answer} {writes : List Write} (here : state.processes id = some ⟨request, .call query exec onError next⟩)
      (executed : exec given state.db = .ok (answer, writes)) :
      Move state (.statement id given) (state.put writes id ⟨request, next answer⟩)
  | failed {action : Action Request ε} {request : Request} {rest : Program Db Write Query ε α} {error : ε}
      (here : state.processes action.process = some ⟨request, rest⟩) :
      Move state action (state.put [] action.process ⟨request, .fail error⟩)

variable {program} {state next : State Request Db Write Query ε α} {action : Action Request ε}

theorem step_move (taken : step program state action = some next) : Move program state action next := by
  cases action with
  | arrive id request =>
    simp only [step] at taken
    split at taken
    next => cases taken
    next absent =>
      cases taken
      exact .arrive absent
  | statement id given =>
    simp only [step] at taken
    split at taken
    next request _ query exec onError rest here =>
      split at taken
      next executed =>
        cases taken
        exact .statement here executed
      next =>
        cases taken
        exact .failed here
    next => cases taken
  | abort id error =>
    simp only [step] at taken
    split at taken
    next here =>
      cases taken
      exact .failed here
    next => cases taken

/-- A request stays the request of its process. -/
theorem requests_step (taken : step program state action = some next) {id : Nat} {request : Request}
    (arrived : state.requests id = some request) : next.requests id = some request := by
  have updated : ∀ (writes : List Write) (other : Nat) (process : Process Request Db Write Query ε α),
      (other = id → process.request = request) → (state.put writes other process).requests id = some request := by
    intro writes other process mine
    by_cases same : other = id
    · subst same
      rw [State.requests, put_self, Option.map_some, mine rfl]
    · rw [State.requests, put_of_ne _ _ _ (Ne.symm same)]
      exact arrived
  have present : ∀ {other : Nat} {own : Request} {rest : Program Db Write Query ε α},
      state.processes other = some ⟨own, rest⟩ → other = id → own = request := by
    rintro other own rest here rfl
    rw [State.requests, here] at arrived
    exact Option.some.inj arrived
  cases step_move taken with
  | arrive absent =>
    apply updated
    rintro rfl
    rw [State.requests, absent] at arrived
    cases arrived
  | statement here => exact updated _ _ _ fun same => present here same
  | failed here => exact updated _ _ _ fun same => present here same

theorem requests_run {actions : List (Action Request ε)} (reached : run (step program) state actions = some next)
    {id : Nat} {request : Request} (arrived : state.requests id = some request) : next.requests id = some request :=
  invariant_run (fun _ _ _ here taken => requests_step taken here) actions state next arrived reached

end System

section Honest
variable {Db Write Lock Query ε α Request : Type} [Storage Db Write Lock]

/-- The rest of the process makes allowed writes, and knows enough for the goal. -/
def Process.Honest (kept : Db → Db → Prop) (allowed : Request → Db → Write → Prop)
    (goal : Request → α → Db → Prop) (process : Process Request Db Write Query ε α) (db : Db) : Prop :=
  ∃ known, Lasts kept known ∧ known db ∧
    process.rest.Learns kept (allowed process.request) (goal process.request) known

/-- Every process is honest, each toward its own goal. -/
def Honest (kept : Db → Db → Prop) (allowed : Request → Db → Write → Prop) (goal : Nat → Request → α → Db → Prop)
    (state : State Request Db Write Query ε α) : Prop :=
  ∀ id process, state.processes id = some process → process.Honest kept allowed (goal id) state.db

variable {kept : Db → Db → Prop} {allowed : Request → Db → Write → Prop} {goal : Nat → Request → α → Db → Prop}
variable {program : Request → Program Db Write Query ε α} {fact : Db → Prop}
variable {state next : State Request Db Write Query ε α} {action : Action Request ε} {id : Nat}

theorem honest_start (db : Db) : Honest kept allowed goal (State.start db : State Request Db Write Query ε α) := by
  intro id process here
  cases here

/-- An answer is as good as the goal says. -/
theorem Honest.answered (honest : Honest kept allowed goal state) {id : Nat} {request : Request} {value : α}
    (answered : state.answer id = some (request, value)) : goal id request value state.db := by
  obtain ⟨known, _, holds, learns⟩ := honest id _ (answer_some answered)
  exact learns state.db holds

/-- A process that has set out toward one goal is honest toward a weaker one. -/
theorem Honest.mono {weaker : Nat → Request → α → Db → Prop}
    (implies : ∀ id process, state.processes id = some process → ∀ value db,
      goal id process.request value db → weaker id process.request value db)
    (honest : Honest kept allowed goal state) : Honest kept allowed weaker state := by
  intro id process here
  obtain ⟨known, lasts, holds, learns⟩ := honest id process here
  exact ⟨known, lasts, holds, learns.mono (implies id process here)⟩

/-- Whatever lasts longer can be counted on as well. -/
theorem Honest.strengthen {stronger : Db → Db → Prop} (implies : ∀ first second, stronger first second → kept first second)
    (honest : Honest kept allowed goal state) : Honest stronger allowed goal state := by
  intro id process here
  obtain ⟨known, lasts, holds, learns⟩ := honest id process here
  exact ⟨known, fun first second follows => lasts first second (implies first second follows), holds,
    learns.strengthen implies⟩

/-- A step writes only what its process is allowed to. -/
theorem Honest.writes (honest : Honest kept allowed goal state) (taken : step program state action = some next) :
    next.db = state.db ∨ ∃ request writes, state.requests action.process = some request ∧
      Storage.Chain (allowed request) writes state.db ∧ next.db = Storage.view writes state.db := by
  cases step_move taken with
  | arrive => exact .inl rfl
  | failed => exact .inl rfl
  | @statement id given request Answer query exec onError rest answer writes here executed =>
    obtain ⟨known, _, holds, learns⟩ := honest id _ here
    obtain ⟨chain, _⟩ := learns given state.db answer writes holds executed
    exact .inr ⟨request, writes, by simp [State.requests, Action.process, here], chain, rfl⟩

/-- A process stays honest through a step that keeps what the processes count on. -/
theorem honest_step (honest : Honest kept allowed goal state) (taken : step program state action = some next)
    (starts : ∀ id request, (program request).Learns kept (allowed request) (goal id request) fact)
    (lasts : Lasts kept fact) (holds : fact state.db) (follows : kept state.db next.db) :
    Honest kept allowed goal next := by
  have others : ∀ (writes : List Write) (id : Nat) (process : Process Request Db Write Query ε α),
      next = state.put writes id process → process.Honest kept allowed (goal id) next.db →
      Honest kept allowed goal next := by
    intro writes id process same mine other found here
    by_cases own : other = id
    · subst own
      rw [same, put_self] at here
      cases here
      exact mine
    · rw [same, put_of_ne _ _ _ own] at here
      obtain ⟨known, lasting, present, learns⟩ := honest other found here
      exact ⟨known, lasting, lasting _ _ follows present, learns⟩
  cases step_move taken with
  | arrive absent => exact others _ _ _ rfl ⟨fact, lasts, lasts _ _ follows holds, starts _ _⟩
  | failed here => exact others _ _ _ rfl ⟨fact, lasts, lasts _ _ follows holds, trivial⟩
  | @statement id given request Answer query exec onError rest answer writes here executed =>
    obtain ⟨known, lasting, present, learns⟩ := honest id _ here
    obtain ⟨_, learned, lasting', there, onwards⟩ := learns given state.db answer writes present executed
    exact others _ _ _ rfl ⟨_, lasting.and lasting', ⟨lasting _ _ follows present, there⟩, onwards⟩

/-- The writes of the requests that act keep what the processes count on. -/
structure Respects (acts : Request → Prop) (kept : Db → Db → Prop) (allowed : Request → Db → Write → Prop) : Prop where
  refl : ∀ db, kept db db
  trans : ∀ first second third, kept first second → kept second third → kept first third
  each : ∀ request db write, acts request → allowed request db write → kept db (Storage.apply write db)

variable {acts : Request → Prop}

theorem Respects.chain (respects : Respects acts kept allowed) {request : Request} (active : acts request)
    {writes : List Write} {db : Db} (chain : Storage.Chain (allowed request) writes db) :
    kept db (Storage.view writes db) := by
  induction writes generalizing db with
  | nil => exact respects.refl db
  | cons write writes ih =>
    exact respects.trans _ _ _ (respects.each request db write active chain.1) (ih chain.2)

/-- A fact that the requests leave true can be counted on too. -/
theorem Respects.and (respects : Respects acts kept allowed) (fact : Db → Prop)
    (each : ∀ request db write, acts request → allowed request db write → fact db → fact (Storage.apply write db)) :
    Respects acts (fun first second => kept first second ∧ (fact first → fact second)) allowed where
  refl db := ⟨respects.refl db, id⟩
  trans _ _ _ one two := ⟨respects.trans _ _ _ one.1 two.1, two.2 ∘ one.2⟩
  each request db write active allows := ⟨respects.each request db write active allows, each request db write active allows⟩

/-- The request has been answered, or has failed. -/
def Finished (state : State Request Db Write Query ε α) (id : Nat) : Prop :=
  ∃ process, state.processes id = some process ∧
    ((∃ value, process.rest = .done value) ∨ ∃ error, process.rest = .fail error)

theorem finished_step (finished : Finished state id) (taken : step program state action = some next) :
    action.process ≠ id ∧ next.processes id = state.processes id := by
  obtain ⟨⟨request, rest⟩, here, ended⟩ := finished
  have apart : action.process ≠ id := by
    rintro rfl
    cases action with
    | arrive id request =>
      rw [Action.process] at here
      simp [step, here] at taken
    | statement id given =>
      rw [Action.process] at here
      rcases ended with ⟨value, rfl⟩ | ⟨error, rfl⟩ <;> simp [step, here] at taken
    | abort id error =>
      rw [Action.process] at here
      rcases ended with ⟨value, rfl⟩ | ⟨error, rfl⟩ <;> simp [step, here] at taken
  refine ⟨apart, ?_⟩
  cases step_move taken <;> exact put_of_ne _ _ _ apart.symm

/-- Only the requests that act have anything left to do in the run. -/
def OnlyActing (acts : Request → Prop) (state final : State Request Db Write Query ε α) : Prop :=
  ∀ id request, final.requests id = some request → ¬acts request → Finished state id

theorem onlyActing_all (state final : State Request Db Write Query ε α) : OnlyActing (fun _ => True) state final :=
  fun _ _ _ idle => absurd trivial idle

/-- In a run of requests that act, everything that the processes count on is kept. -/
theorem Respects.always (respects : Respects acts kept allowed) {actions : List (Action Request ε)}
    (reached : run (step program) state actions = some next) (acting : OnlyActing acts state next)
    (honest : Honest kept allowed goal state)
    (starts : ∀ id request, (program request).Learns kept (allowed request) (goal id request) fact)
    (lasts : Lasts kept fact) (holds : fact state.db) :
    Honest kept allowed goal next ∧ kept state.db next.db := by
  induction actions generalizing state with
  | nil =>
    cases reached
    exact ⟨honest, respects.refl _⟩
  | cons action actions ih =>
    obtain ⟨middle, taken, onwards⟩ := run_cons reached
    have follows : kept state.db middle.db := by
      cases honest.writes taken with
      | inl same => exact same ▸ respects.refl state.db
      | inr wrote =>
        obtain ⟨request, writes, arrived, chain, view⟩ := wrote
        -- a request that does not act has taken its last step
        have active : acts request := by
          by_contra idle
          have ended := acting action.process request (requests_run onwards (requests_step taken arrived)) idle
          exact (finished_step ended taken).1 rfl
        exact view ▸ respects.chain active chain
    have later : OnlyActing acts middle next := by
      intro id request arrived idle
      obtain ⟨process, here, ended⟩ := acting id request arrived idle
      exact ⟨process, (finished_step ⟨process, here, ended⟩ taken).2.trans here, ended⟩
    have rest := ih onwards later (honest_step honest taken starts lasts holds follows) (lasts _ _ follows holds)
    exact ⟨rest.1, respects.trans _ _ _ follows rest.2⟩

theorem finished_run {actions : List (Action Request ε)} (reached : run (step program) state actions = some next)
    (finished : Finished state id) : Finished next id := by
  have preserved : ∀ before action after, Finished before id → step program before action = some after →
      Finished after id := by
    intro before action after here taken
    obtain ⟨process, there, ended⟩ := here
    exact ⟨process, (finished_step ⟨process, there, ended⟩ taken).2.trans there, ended⟩
  exact invariant_run preserved actions state next finished reached

/-- A request has arrived by an action. -/
theorem arrived_run {actions : List (Action Request ε)} (reached : run (step program) state actions = some next)
    {request : Request} (arrived : next.requests id = some request) :
    state.requests id = some request ∨ .arrive id request ∈ actions := by
  induction actions generalizing state with
  | nil =>
    cases reached
    exact .inl arrived
  | cons action actions ih =>
    obtain ⟨middle, taken, onwards⟩ := run_cons reached
    cases ih onwards with
    | inr later => exact .inr (List.mem_cons_of_mem _ later)
    | inl there =>
      have unchanged : ∀ (writes : List Write) {other : Nat} {own : Request} {before rest : Program Db Write Query ε α},
          state.processes other = some ⟨own, before⟩ →
          (state.put writes other ⟨own, rest⟩).requests id = some request → state.requests id = some request := by
        intro writes other own before rest here found
        by_cases same : id = other
        · subst same
          rw [State.requests, put_self] at found
          rw [State.requests, here]
          exact found
        · rw [State.requests, put_of_ne _ _ _ same] at found
          exact found
      cases step_move taken with
      | @arrive other own absent =>
        by_cases same : id = other
        · subst same
          rw [State.requests, put_self] at there
          cases there
          exact .inr List.mem_cons_self
        · rw [State.requests, put_of_ne _ _ _ same] at there
          exact .inl there
      | statement here => exact .inl (unchanged _ here there)
      | failed here => exact .inl (unchanged _ here there)

theorem finished_of_answer {request : Request} {value : α} (answered : state.answer id = some (request, value)) :
    Finished state id :=
  ⟨_, answer_some answered, .inl ⟨value, rfl⟩⟩

/-- Every request of a run acts, or has come to its end before. -/
theorem onlyActing_arrivals {db : Db} {first second : List (Action Request ε)}
    (reached : run (step program) (State.start db) first = some state)
    (onwards : run (step program) state second = some next)
    (earlier : ∀ arrival ∈ arrivals first, acts arrival.2 ∨ Finished state arrival.1)
    (later : ∀ arrival ∈ arrivals second, acts arrival.2) : OnlyActing acts state next := by
  intro id request arrived idle
  cases arrived_run onwards arrived with
  | inr member => exact absurd (later (id, request) (mem_arrivals member)) idle
  | inl before =>
    cases arrived_run reached before with
    | inl start => cases start
    | inr member => exact (earlier (id, request) (mem_arrivals member)).resolve_left idle

theorem OnlyActing.before {last : State Request Db Write Query ε α} {actions : List (Action Request ε)}
    (acting : OnlyActing acts state last) (onwards : run (step program) next actions = some last) :
    OnlyActing acts state next :=
  fun id request arrived idle => acting id request (requests_run onwards arrived) idle

theorem OnlyActing.after {last : State Request Db Write Query ε α} {actions : List (Action Request ε)}
    (acting : OnlyActing acts state last) (reached : run (step program) state actions = some next) :
    OnlyActing acts next last :=
  fun id request arrived idle => finished_run reached (acting id request arrived idle)

/-- A request that arrives when the fact holds keeps its promise, where the requests that
act leave the fact true. -/
theorem Respects.answers {promise : Request → α → Db → Prop} (respects : Respects acts kept allowed)
    {actions : List (Action Request ε)} (reached : run (step program) state actions = some next)
    (acting : OnlyActing acts state next) (honest : Honest kept allowed goal state)
    (learns : ∀ request, (program request).Learns kept (allowed request) (promise request) fact)
    (lasts : Lasts kept fact) (holds : fact state.db) {request : Request} {value : α} (absent : state.requests id = none)
    (answered : next.answer id = some (request, value)) : promise request value next.db := by
  -- the processes that are there already have promised nothing
  let toward : Nat → Request → α → Db → Prop := fun id request value db =>
    state.requests id = none → promise request value db
  have starting : Honest kept allowed toward state := by
    apply honest.mono
    intro id process present value db _ absent
    rw [State.requests, present] at absent
    cases absent
  have starts : ∀ id request, (program request).Learns kept (allowed request) (toward id request) fact :=
    fun id request => (learns request).mono fun _ _ keeps _ => keeps
  exact (respects.always reached acting starting starts lasts holds).1.answered answered absent

/-- What the requests leave true of the database and of the requests so far is always true. -/
theorem Respects.history (respects : Respects (fun _ => True) kept allowed) (holds : (Nat → Option Request) → Db → Prop)
    (grows : ∀ requests more db, (∀ id request, requests id = some request → more id = some request) →
      holds requests db → holds more db)
    (each : ∀ requests id request db write, requests id = some request → allowed request db write →
      holds requests db → holds requests (Storage.apply write db))
    (starts : ∀ id request, (program request).Learns kept (allowed request) (goal id request) fun _ => True)
    {actions : List (Action Request ε)} (reached : run (step program) state actions = some next)
    (honest : Honest kept allowed goal state) (start : holds state.requests state.db) : holds next.requests next.db := by
  induction actions generalizing state with
  | nil =>
    cases reached
    exact start
  | cons action actions ih =>
    obtain ⟨middle, taken, onwards⟩ := run_cons reached
    have single : run (step program) state [action] = some middle := by
      unfold run
      rw [taken]
      rfl
    have still := (respects.always single (onlyActing_all _ _) honest starts (lasts_const kept True) trivial).1
    apply ih onwards still
    apply grows state.requests _ _ fun id request arrived => requests_step taken arrived
    cases honest.writes taken with
    | inl same => exact same ▸ start
    | inr wrote =>
      obtain ⟨request, writes, arrived, chain, view⟩ := wrote
      rw [view]
      exact chain.invariant (fun db write allows held => each _ _ request db write arrived allows held) start

end Honest

end PactAgent.Foundation.Autocommit
